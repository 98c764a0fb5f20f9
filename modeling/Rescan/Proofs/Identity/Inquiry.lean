import Mathlib
import Rescan.Proofs.Steps
import Rescan.Simulation.Operator
import Rescan.Simulation.Session

/-! # Callers that share one cell

Any number of calls want the identity from one cell, and each goes on at its own pace: it comes,
begins to ask when it has the turn, and is told when the source has answered. A failure goes to the
call that asked and passes the turn on; a success is told to all. So the source is asked by one
call at a time, until it succeeds and never after that.
-/

namespace Rescan.Identity

namespace Cell

section Turns

variable {cell : Cell} (caller : Nat)

theorem call_of_kept {uid : Option String} (hkept : cell.kept = some uid) :
    cell.call caller = (cell, .told uid) := by
  simp only [call, hkept]

theorem call_of_free (hkept : cell.kept = none) (hasking : cell.asking = none) :
    cell.call caller = ({ cell with asking := some caller }, .asks) := by
  simp only [call, hkept, hasking]

theorem call_of_asking {other : Nat} (hkept : cell.kept = none)
    (hasking : cell.asking = some other) :
    cell.call caller = ({ cell with waiting := cell.waiting ++ [caller] }, .waits) := by
  simp only [call, hkept, hasking]

variable {caller} (hasking : cell.asking = some caller)

include hasking

theorem answer_ok (uid : Option String) :
    cell.answer (.ok uid) =
      ({ kept := some uid }, (caller :: cell.waiting).map fun told => (told, .ok uid)) := by
  simp only [answer, hasking]

theorem answer_error (fault : Resource.Fault) :
    cell.answer (.error fault) =
      ({ cell with asking := cell.waiting.head?, waiting := cell.waiting.tail },
        [(caller, .error fault)]) := by
  simp only [answer, hasking]

end Turns

end Cell

/-- How far a call for the identity has come. -/
inductive Stage where
  /-- It waits until it is told or has the turn to ask. -/
  | waits
  /-- It has the turn and has not begun to ask. -/
  | due
  | asks
  /-- It is told an answer, with which it returns. -/
  | told (answer : Answer)

namespace Stage

def isSettled : Stage → Bool
  | .told _ => true
  | .waits | .due | .asks => false

def isFailed : Stage → Bool
  | .told (.error _) => true
  | .told (.ok _) | .waits | .due | .asks => false

def isSucceeded : Stage → Bool
  | .told (.ok _) => true
  | .told (.error _) | .waits | .due | .asks => false

/-- A call that was not told yet is told an identifier, or that there is none. -/
def settle (uid : Option String) (stage : Stage) : Stage :=
  if stage.isSettled then stage else .told (.ok uid)

theorem isSettled_settle (uid : Option String) (stage : Stage) :
    (stage.settle uid).isSettled = true := by
  cases stage <;> rfl

theorem isFailed_settle (uid : Option String) (stage : Stage) :
    (stage.settle uid).isFailed = stage.isFailed := by
  cases stage <;> rfl

end Stage

/-- How far a call has come when it begins with a turn. -/
def Turn.stage : Turn → Stage
  | .told uid => .told (.ok uid)
  | .asks => .due
  | .waits => .waits

/-- A cell with the calls for the identity, which are numbered as they come. -/
structure Inquiry where
  cell : Cell := {}
  calls : List Stage := []
  /-- The calls that began to ask the source, in order. -/
  asked : List Nat := []
  /-- The answers of the source in order, each with the call that had asked. -/
  answered : List (Nat × Answer) := []

namespace Inquiry

/-- One step of a call. -/
inductive Move where
  /-- A call comes. -/
  | call
  /-- A call that has the turn begins to ask the source. -/
  | ask (caller : Nat)
  /-- The source answers a call that asks. -/
  | answer (caller : Nat) (answer : Answer)

/-- The calls after some of them were told. -/
def tell (told : List (Nat × Answer)) (calls : List Stage) : List Stage :=
  told.foldl (fun calls (caller, answer) => calls.set caller (.told answer)) calls

/-- The calls after one of them was given the turn, if one was. -/
def pass (asking : Option Nat) (calls : List Stage) : List Stage :=
  match asking with
  | some caller => calls.set caller .due
  | none => calls

def step (inquiry : Inquiry) : Move → Inquiry
  | .call =>
    let (cell, turn) := inquiry.cell.call inquiry.calls.length
    { inquiry with cell, calls := inquiry.calls ++ [turn.stage] }
  | .ask caller =>
    match inquiry.calls[caller]? with
    | some .due =>
      { inquiry with
        calls := inquiry.calls.set caller .asks
        asked := inquiry.asked ++ [caller] }
    | _ => inquiry
  | .answer caller answer =>
    match inquiry.calls[caller]? with
    | some .asks =>
      let (cell, told) := inquiry.cell.answer answer
      { inquiry with
        cell
        calls := pass cell.asking (tell told inquiry.calls)
        answered := inquiry.answered ++ [(caller, answer)] }
    | _ => inquiry

abbrev run (inquiry : Inquiry) (moves : List Move) : Inquiry := Steps.run step inquiry moves

/-- The cell knows which call has the turn and which ones wait. -/
structure Lined (inquiry : Inquiry) : Prop where
  asking_iff : ∀ caller, inquiry.cell.asking = some caller ↔
    inquiry.calls[caller]? = some .due ∨ inquiry.calls[caller]? = some .asks
  mem_waiting_iff : ∀ caller, caller ∈ inquiry.cell.waiting ↔ inquiry.calls[caller]? = some .waits
  /-- Calls wait in the order in which they came. -/
  waiting_sorted : inquiry.cell.waiting.Pairwise (· < ·)
  waiting_eq_nil : inquiry.cell.asking = none → inquiry.cell.waiting = []
  asking_eq_none : ∀ uid, inquiry.cell.kept = some uid → inquiry.cell.asking = none

/-- The calls that began to ask were answered, all but the one that asks. What the source answered
was told to the calls that asked, and what calls were told is that or is kept. -/
structure Accounted (inquiry : Inquiry) : Prop where
  asked_of_idle : inquiry.cell.asking = none → inquiry.asked = inquiry.answered.map Prod.fst
  asked_of_due : ∀ caller : Nat, inquiry.calls[caller]? = some Stage.due →
    inquiry.asked = inquiry.answered.map Prod.fst
  asked_of_asks : ∀ caller, inquiry.calls[caller]? = some .asks →
    inquiry.asked = inquiry.answered.map Prod.fst ++ [caller]
  nodup_answered : (inquiry.answered.map Prod.fst).Nodup
  told_of_mem : ∀ entry ∈ inquiry.answered, inquiry.calls[entry.1]? = some (Stage.told entry.2)
  mem_of_failed : ∀ (caller : Nat) fault,
    inquiry.calls[caller]? = some (.told (.error fault)) → (caller, .error fault) ∈ inquiry.answered
  kept_of_told : ∀ (caller : Nat) uid,
    inquiry.calls[caller]? = some (.told (.ok uid)) → inquiry.cell.kept = some uid
  /-- The source succeeded at most once, and what it told then is kept. -/
  kept_eq : inquiry.answered.filterMap (fun entry => entry.2.toOption) = inquiry.cell.kept.toList
  failed_eq : inquiry.calls.countP Stage.isFailed =
    inquiry.answered.countP fun entry => entry.2.toOption.isNone

theorem new_lined : Lined {} where
  asking_iff := by simp
  mem_waiting_iff := by simp
  waiting_sorted := .nil
  waiting_eq_nil := fun _ => rfl
  asking_eq_none := fun _ _ => rfl

theorem new_accounted : Accounted {} where
  asked_of_idle := fun _ => rfl
  asked_of_due := by simp
  asked_of_asks := by simp
  nodup_answered := .nil
  told_of_mem := by simp
  mem_of_failed := by simp
  kept_of_told := by simp
  kept_eq := rfl
  failed_eq := rfl

/-! ## What a step does -/

/-- How an inquiry changes in one step. -/
inductive Change (inquiry : Inquiry) : Inquiry → Prop where
  | same : Change inquiry inquiry
  /-- A call comes and is told what is kept. -/
  | told (uid : Option String) (hkept : inquiry.cell.kept = some uid) :
    Change inquiry { inquiry with calls := inquiry.calls ++ [.told (.ok uid)] }
  /-- A call comes and has the turn at once. -/
  | turned (hkept : inquiry.cell.kept = none) (hasking : inquiry.cell.asking = none) :
    Change inquiry { inquiry with
      cell := { inquiry.cell with asking := some inquiry.calls.length }
      calls := inquiry.calls ++ [.due] }
  /-- A call comes and stands in line behind the one that has the turn. -/
  | queued (other : Nat) (hkept : inquiry.cell.kept = none)
    (hasking : inquiry.cell.asking = some other) :
    Change inquiry { inquiry with
      cell := { inquiry.cell with waiting := inquiry.cell.waiting ++ [inquiry.calls.length] }
      calls := inquiry.calls ++ [.waits] }
  | began (caller : Nat) (hdue : inquiry.calls[caller]? = some .due) :
    Change inquiry { inquiry with
      calls := inquiry.calls.set caller .asks
      asked := inquiry.asked ++ [caller] }
  /-- A success is told to all calls that were not told before. -/
  | succeeded (caller : Nat) (uid : Option String)
    (hasks : inquiry.calls[caller]? = some .asks) :
    Change inquiry { inquiry with
      cell := { kept := some uid }
      calls := inquiry.calls.map (Stage.settle uid)
      answered := inquiry.answered ++ [(caller, .ok uid)] }
  /-- A failure is told to the call that asked, and the first one in line has the turn. -/
  | failed (caller : Nat) (fault : Resource.Fault)
    (hasks : inquiry.calls[caller]? = some .asks) :
    Change inquiry { inquiry with
      cell := { inquiry.cell with
        asking := inquiry.cell.waiting.head?
        waiting := inquiry.cell.waiting.tail }
      calls := pass inquiry.cell.waiting.head? (inquiry.calls.set caller (.told (.error fault)))
      answered := inquiry.answered ++ [(caller, .error fault)] }

theorem getElem?_tell_ok (callers : List Nat) (uid : Option String) (calls : List Stage)
    (caller : Nat) :
    (tell (callers.map fun told => (told, .ok uid)) calls)[caller]? =
      calls[caller]?.map fun stage => if caller ∈ callers then .told (.ok uid) else stage := by
  induction callers generalizing calls with
  | nil => simp [tell]
  | cons first rest ih =>
      rw [List.map_cons, tell, List.foldl_cons]
      refine (ih _).trans ?_
      rw [List.getElem?_set]
      by_cases hfirst : first = caller
      · subst hfirst
        by_cases hlt : first < calls.length <;> simp [hlt]
      · simp [hfirst, Ne.symm hfirst]

section Step

variable {inquiry after : Inquiry}

theorem Lined.asking_of_asks (hlined : inquiry.Lined) {caller : Nat}
    (hasks : inquiry.calls[caller]? = some .asks) : inquiry.cell.asking = some caller :=
  (hlined.asking_iff caller).mpr (Or.inr hasks)

theorem Lined.kept_of_asks (hlined : inquiry.Lined) {caller : Nat}
    (hasks : inquiry.calls[caller]? = some .asks) : inquiry.cell.kept = none := by
  cases hkept : inquiry.cell.kept with
  | none => rfl
  | some uid => cases (hlined.asking_eq_none uid hkept).symm.trans (hlined.asking_of_asks hasks)

theorem Lined.waits_of_eq_cons (hlined : inquiry.Lined) {next : Nat} {rest : List Nat}
    (hline : inquiry.cell.waiting = next :: rest) : inquiry.calls[next]? = some .waits :=
  (hlined.mem_waiting_iff next).mp (hline ▸ List.mem_cons_self)

/-- The calls that the cell tells of a success are those that were not told before. -/
theorem Lined.tell_ok (hlined : inquiry.Lined) {caller : Nat}
    (hasks : inquiry.calls[caller]? = some .asks) (uid : Option String) :
    tell ((caller :: inquiry.cell.waiting).map fun told => (told, .ok uid)) inquiry.calls =
      inquiry.calls.map (Stage.settle uid) := by
  refine List.ext_getElem? fun other => ?_
  rw [getElem?_tell_ok, List.getElem?_map]
  cases hstage : inquiry.calls[other]? with
  | none => rfl
  | some stage =>
      have hmem : other ∈ caller :: inquiry.cell.waiting ↔ stage.isSettled = false := by
        have hother := hlined.asking_iff other
        rw [hlined.asking_of_asks hasks, hstage] at hother
        rw [List.mem_cons, hlined.mem_waiting_iff, hstage]
        cases stage <;> grind [Stage.isSettled]
      simp only [Option.map_some, hmem, Stage.settle]
      cases stage.isSettled <;> rfl

theorem step_ask {caller : Nat} (hdue : inquiry.calls[caller]? = some .due) :
    inquiry.step (.ask caller) =
      { inquiry with
        calls := inquiry.calls.set caller .asks
        asked := inquiry.asked ++ [caller] } := by
  simp only [step, hdue]

theorem Lined.step_ok (hlined : inquiry.Lined) {caller : Nat}
    (hasks : inquiry.calls[caller]? = some .asks) (uid : Option String) :
    inquiry.step (.answer caller (.ok uid)) =
      { inquiry with
        cell := { kept := some uid }
        calls := inquiry.calls.map (Stage.settle uid)
        answered := inquiry.answered ++ [(caller, .ok uid)] } := by
  simp only [step, hasks, Cell.answer_ok (hlined.asking_of_asks hasks), hlined.tell_ok hasks, pass]

theorem Lined.step_error (hlined : inquiry.Lined) {caller : Nat}
    (hasks : inquiry.calls[caller]? = some .asks) (fault : Resource.Fault) :
    inquiry.step (.answer caller (.error fault)) =
      { inquiry with
        cell := { inquiry.cell with
          asking := inquiry.cell.waiting.head?
          waiting := inquiry.cell.waiting.tail }
        calls := pass inquiry.cell.waiting.head? (inquiry.calls.set caller (.told (.error fault)))
        answered := inquiry.answered ++ [(caller, .error fault)] } := by
  simp only [step, hasks, Cell.answer_error (hlined.asking_of_asks hasks), tell, List.foldl_cons,
    List.foldl_nil]

theorem Lined.change (hlined : inquiry.Lined) (move : Move) :
    inquiry.Change (inquiry.step move) := by
  cases move with
  | call =>
      cases hkept : inquiry.cell.kept with
      | some uid =>
          simp only [step, Cell.call_of_kept _ hkept]
          exact .told uid hkept
      | none =>
          cases hasking : inquiry.cell.asking with
          | none =>
              simp only [step, Cell.call_of_free _ hkept hasking]
              exact .turned hkept hasking
          | some other =>
              simp only [step, Cell.call_of_asking _ hkept hasking]
              exact .queued other hkept hasking
  | ask caller =>
      simp only [step]
      split
      next hdue => exact .began caller hdue
      · exact .same
  | answer caller answer =>
      by_cases hasks : inquiry.calls[caller]? = some .asks
      · cases answer with
        | ok uid =>
            rw [hlined.step_ok hasks]
            exact .succeeded caller uid hasks
        | error fault =>
            rw [hlined.step_error hasks]
            exact .failed caller fault hasks
      · simp only [step]
        exact .same

theorem Lined.of_change (hlined : inquiry.Lined) (hchange : inquiry.Change after) :
    after.Lined := by
  obtain ⟨hturn, hwaits, hsorted, hnil, hkeeps⟩ := hlined
  cases hchange with
  | same => exact ⟨hturn, hwaits, hsorted, hnil, hkeeps⟩
  | told | turned | queued | began => constructor <;> grind
  | succeeded caller uid hasks =>
      -- No call is left that is not told.
      have hnone (other : Nat) {stage : Stage} (hstage : stage.isSettled = false) :
          (inquiry.calls.map (Stage.settle uid))[other]? ≠ some stage := by
        rw [List.getElem?_map, ne_eq, Option.map_eq_some_iff]
        rintro ⟨before, -, rfl⟩
        rw [Stage.isSettled_settle] at hstage
        cases hstage
      refine ⟨fun other => ⟨nofun, fun hturned => ?_⟩,
        fun other => ⟨nofun, fun hwaits => absurd hwaits (hnone other rfl)⟩, .nil, fun _ => rfl,
        fun _ _ => rfl⟩
      exact hturned.elim (absurd · (hnone other rfl)) (absurd · (hnone other rfl))
  | failed caller fault hasks =>
      cases hline : inquiry.cell.waiting with
      | nil => constructor <;> grind [pass]
      | cons next rest =>
          obtain ⟨hfirst, hrest⟩ := List.pairwise_cons.mp (hline ▸ hsorted)
          constructor <;> grind [pass]

theorem Accounted.of_change (haccounted : inquiry.Accounted) (hlined : inquiry.Lined)
    (hchange : inquiry.Change after) : after.Accounted := by
  have hturn := hlined.asking_iff
  obtain ⟨hidle, hdue, hasks, hnodup, htold, hfailed, hkept, hkeeps, hcount⟩ := haccounted
  cases hchange with
  | same => exact ⟨hidle, hdue, hasks, hnodup, htold, hfailed, hkept, hkeeps, hcount⟩
  | told uid hnow => constructor <;> grind [Stage.isFailed]
  | turned => constructor <;> grind [Stage.isFailed]
  | queued => constructor <;> grind [Stage.isFailed]
  | began caller hnow => constructor <;> grind [Stage.isFailed]
  | succeeded caller uid hnow =>
      have hnone : inquiry.cell.kept = none := hlined.kept_of_asks hnow
      have hsame : (inquiry.calls.map (Stage.settle uid)).countP Stage.isFailed =
          inquiry.calls.countP Stage.isFailed := by
        rw [List.countP_map]
        exact List.countP_congr fun stage _ => by simp [Stage.isFailed_settle]
      constructor <;> grind [Stage.settle, Stage.isSettled, Except.toOption]
  | failed caller fault hnow =>
      cases hline : inquiry.cell.waiting with
      | nil => constructor <;> grind [pass, Except.toOption, Stage.isFailed]
      | cons next rest =>
          have hnext := hlined.waits_of_eq_cons hline
          constructor <;> grind [pass, Except.toOption, Stage.isFailed]

/-- Once an answer is kept the source is not asked any more. -/
theorem Change.of_kept (hchange : inquiry.Change after) (hlined : inquiry.Lined)
    {uid : Option String} (hkept : inquiry.cell.kept = some uid) :
    after.cell.kept = some uid ∧ after.asked = inquiry.asked ∧
      after.answered = inquiry.answered := by
  have hfree := hlined.asking_eq_none uid hkept
  cases hchange with
  | same | told | turned | queued => exact ⟨hkept, rfl, rfl⟩
  | began caller hdue => cases hfree.symm.trans ((hlined.asking_iff caller).mpr (Or.inl hdue))
  | succeeded caller other hasks => cases hfree.symm.trans (hlined.asking_of_asks hasks)
  | failed caller fault hasks => cases hfree.symm.trans (hlined.asking_of_asks hasks)

end Step

/-! ## Runs -/

section Run

variable {inquiry : Inquiry}

theorem Lined.run (hlined : inquiry.Lined) (moves : List Move) : (inquiry.run moves).Lined :=
  Steps.run_induction hlined fun _ move _ hbefore => hbefore.of_change (hbefore.change move)

theorem Accounted.run (haccounted : inquiry.Accounted) (hlined : inquiry.Lined)
    (moves : List Move) : (inquiry.run moves).Accounted := by
  refine (Steps.run_induction (P := fun other : Inquiry => other.Lined ∧ other.Accounted)
    ⟨hlined, haccounted⟩ ?_).2
  intro before move _ ⟨hlined, haccounted⟩
  have hchange := hlined.change move
  exact ⟨hlined.of_change hchange, haccounted.of_change hlined hchange⟩

theorem run_of_kept (hlined : inquiry.Lined) {uid : Option String}
    (hkept : inquiry.cell.kept = some uid) (moves : List Move) :
    (inquiry.run moves).asked = inquiry.asked ∧
      (inquiry.run moves).answered = inquiry.answered := by
  induction moves generalizing inquiry with
  | nil => exact ⟨rfl, rfl⟩
  | cons move moves ih =>
      have hchange := hlined.change move
      obtain ⟨hnext, hasked, hanswered⟩ := hchange.of_kept hlined hkept
      obtain ⟨hlater, hlater'⟩ := ih (hlined.of_change hchange) hnext
      exact ⟨hlater.trans hasked, hlater'.trans hanswered⟩

end Run

/-! ## What holds of every run -/

section Moment

variable {inquiry : Inquiry}

theorem Lined.settled_of_idle (hlined : inquiry.Lined) (hasking : inquiry.cell.asking = none) :
    ∀ stage ∈ inquiry.calls, stage.isSettled = true := by
  intro stage hmem
  obtain ⟨caller, hstage⟩ := List.mem_iff_getElem?.mp hmem
  have hturn := hlined.asking_iff caller
  have hwaits := hlined.mem_waiting_iff caller
  rw [hlined.waiting_eq_nil hasking] at hwaits
  rw [hasking] at hturn
  cases stage <;> simp_all [Stage.isSettled]

theorem Lined.idle_of_settled (hlined : inquiry.Lined)
    (hsettled : ∀ stage ∈ inquiry.calls, stage.isSettled = true) :
    inquiry.cell.asking = none := by
  refine Option.eq_none_iff_forall_ne_some.mpr fun caller hasking => ?_
  rcases (hlined.asking_iff caller).mp hasking with hstage | hstage
  · cases hsettled _ (List.mem_of_getElem? hstage)
  · cases hsettled _ (List.mem_of_getElem? hstage)

theorem Accounted.kept_of_mem (haccounted : inquiry.Accounted) {caller : Nat}
    {uid : Option String} (hmem : (caller, .ok uid) ∈ inquiry.answered) :
    inquiry.cell.kept = some uid :=
  haccounted.kept_of_told caller uid (haccounted.told_of_mem _ hmem)

theorem Accounted.any_isSucceeded (haccounted : inquiry.Accounted) :
    inquiry.calls.any Stage.isSucceeded = inquiry.cell.kept.isSome := by
  rw [Bool.eq_iff_iff, List.any_eq_true, Option.isSome_iff_exists]
  constructor
  · rintro ⟨stage, hmem, hsucceeded⟩
    obtain ⟨caller, hstage⟩ := List.mem_iff_getElem?.mp hmem
    match stage with
    | .told (.ok uid) => exact ⟨uid, haccounted.kept_of_told caller uid hstage⟩
  · rintro ⟨uid, hkept⟩
    have hmem : uid ∈ inquiry.answered.filterMap (fun entry => entry.2.toOption) := by
      rw [haccounted.kept_eq, hkept]
      exact List.mem_singleton_self uid
    obtain ⟨⟨caller, answer⟩, hentry, hanswer⟩ := List.mem_filterMap.mp hmem
    match answer with
    | .ok _ => exact ⟨_, List.mem_of_getElem? (haccounted.told_of_mem _ hentry), rfl⟩

/-- When all calls are told, as many began to ask as failed, and one more if any succeeded. -/
theorem Accounted.length_asked (haccounted : inquiry.Accounted)
    (hidle : inquiry.cell.asking = none) :
    inquiry.asked.length = inquiry.calls.countP Stage.isFailed +
      if inquiry.calls.any Stage.isSucceeded then 1 else 0 := by
  have hsucceeded := congrArg List.length haccounted.kept_eq
  rw [List.length_filterMap_eq_countP] at hsucceeded
  rw [haccounted.asked_of_idle hidle, List.length_map, haccounted.failed_eq,
    haccounted.any_isSucceeded,
    List.length_eq_countP_add_countP fun entry => entry.2.toOption.isNone]
  simp only [Bool.not_eq_true, Option.isNone_eq_false_iff, Bool.decide_eq_true, hsucceeded]
  cases inquiry.cell.kept <;> rfl

section Failure

variable {caller : Nat} (hlined : inquiry.Lined) (hasks : inquiry.calls[caller]? = some .asks)
  (fault : Resource.Fault)

include hlined hasks

/-- A failure is told to the call that asked and to no other one. -/
theorem Lined.told_step_error (other : Nat) (answer : Answer) :
    (inquiry.step (.answer caller (.error fault))).calls[other]? = some (.told answer) ↔
      other = caller ∧ answer = .error fault ∨ inquiry.calls[other]? = some (.told answer) := by
  rw [hlined.step_error hasks]
  cases hline : inquiry.cell.waiting with
  | nil => grind [pass]
  | cons next rest =>
      have hnext := hlined.waits_of_eq_cons hline
      grind [pass]

/-- After a failure the call that has waited longest has the turn. -/
theorem Lined.due_step_error {next : Nat} (hnext : inquiry.calls[next]? = some .waits)
    (hfirst : ∀ other : Nat, inquiry.calls[other]? = some .waits → next ≤ other) :
    (inquiry.step (.answer caller (.error fault))).calls[next]? = some .due := by
  have hhead : inquiry.cell.waiting.head? = some next := by
    have hmem := (hlined.mem_waiting_iff next).mpr hnext
    cases hline : inquiry.cell.waiting with
    | nil => simp [hline] at hmem
    | cons first rest =>
        have hle := hfirst first (hlined.waits_of_eq_cons hline)
        have hsorted := List.pairwise_cons.mp (hline ▸ hlined.waiting_sorted)
        rcases List.mem_cons.mp (hline ▸ hmem) with rfl | hmem
        · rfl
        · have hlt := hsorted.1 next hmem
          omega
  rw [hlined.step_error hasks, hhead, pass]
  grind

/-- After a failure for which no other call waits the next one that comes has the turn. -/
theorem Lined.due_of_alone (halone : ∀ other : Nat, inquiry.calls[other]? ≠ some .waits) :
    ((inquiry.step (.answer caller (.error fault))).step .call).calls[inquiry.calls.length]? =
      some .due := by
  have hline : inquiry.cell.waiting = [] := List.eq_nil_iff_forall_not_mem.mpr fun other hmem =>
    halone other ((hlined.mem_waiting_iff other).mp hmem)
  rw [hlined.step_error hasks, hline]
  simp [step, Cell.call, hlined.kept_of_asks hasks, pass, Turn.stage]

end Failure

end Moment

/-- Any number of calls share a new cell, in any interleaving and whatever the source answers. One
call asks at a time, and the ones that asked before it were answered. After the source has
succeeded every call is told what it then answered, and it is asked no more. A failure is told to
just the call that asked; after it the call that has waited longest asks again, or the next one
that comes. No call waits unless another one has the turn. When all calls are told, the source was
asked once for each that failed, and once more if any succeeded. -/
theorem source_asked_until_success (moves : List Move) :
    let current := run {} moves
    (∀ caller other : Nat, current.calls[caller]? = some .asks →
      current.calls[other]? = some .asks → caller = other) ∧
    (∀ caller : Nat, current.calls[caller]? = some .asks →
      current.asked = current.answered.map Prod.fst ++ [caller]) ∧
    ((∀ caller : Nat, current.calls[caller]? ≠ some .asks) →
      current.asked = current.answered.map Prod.fst) ∧
    (∀ caller uid, (caller, .ok uid) ∈ current.answered → ∀ later,
      (current.run later).asked = current.asked ∧
      (current.run later).answered = current.answered ∧
      ∀ stage ∈ (current.run later).calls, stage.isSettled = true) ∧
    (∀ (caller : Nat) uid, current.calls[caller]? = some (.told (.ok uid)) →
      current.answered.filterMap (fun entry => entry.2.toOption) = [uid]) ∧
    (current.answered.map Prod.fst).Nodup ∧
    (∀ (caller : Nat) fault, current.calls[caller]? = some (.told (.error fault)) ↔
      (caller, .error fault) ∈ current.answered) ∧
    (∀ (caller : Nat) fault, current.calls[caller]? = some .asks →
      let failed := current.step (.answer caller (.error fault))
      (∀ (other : Nat) answer, failed.calls[other]? = some (.told answer) ↔
        other = caller ∧ answer = .error fault ∨ current.calls[other]? = some (.told answer)) ∧
      (∀ next : Nat, current.calls[next]? = some .waits →
        (∀ other : Nat, current.calls[other]? = some .waits → next ≤ other) →
        (failed.step (.ask next)).asked = current.asked ++ [next]) ∧
      ((∀ other : Nat, current.calls[other]? ≠ some .waits) →
        (failed.run [.call, .ask current.calls.length]).asked =
          current.asked ++ [current.calls.length])) ∧
    (∀ caller : Nat, current.calls[caller]? = some .waits →
      ∃ other : Nat, current.calls[other]? = some .due ∨ current.calls[other]? = some .asks) ∧
    ((∀ stage ∈ current.calls, stage.isSettled = true) →
      current.asked.length = current.calls.countP Stage.isFailed +
        if current.calls.any Stage.isSucceeded then 1 else 0) := by
  intro current
  have hlined : current.Lined := new_lined.run moves
  have haccounted : current.Accounted := new_accounted.run new_lined moves
  refine ⟨?_, haccounted.asked_of_asks, ?_, ?_, ?_, haccounted.nodup_answered, ?_, ?_, ?_,
    fun hsettled => haccounted.length_asked (hlined.idle_of_settled hsettled)⟩
  · intro caller other hcaller hother
    exact Option.some_inj.mp
      ((hlined.asking_of_asks hcaller).symm.trans (hlined.asking_of_asks hother))
  · intro hnone
    cases hasking : current.cell.asking with
    | none => exact haccounted.asked_of_idle hasking
    | some caller =>
        rcases (hlined.asking_iff caller).mp hasking with hdue | hasks
        · exact haccounted.asked_of_due caller hdue
        · exact absurd hasks (hnone caller)
  · intro caller uid hmem later
    have hkept := haccounted.kept_of_mem hmem
    obtain ⟨hasked, hanswered⟩ := run_of_kept hlined hkept later
    have hidle := (hlined.run later).asking_eq_none uid
      ((haccounted.run hlined later).kept_of_mem (hanswered ▸ hmem))
    exact ⟨hasked, hanswered, (hlined.run later).settled_of_idle hidle⟩
  · intro caller uid htold
    rw [haccounted.kept_eq, haccounted.kept_of_told caller uid htold]
    rfl
  · exact fun caller fault =>
      ⟨haccounted.mem_of_failed caller fault, fun hmem => haccounted.told_of_mem _ hmem⟩
  · intro caller fault hasks failed
    have hasked : failed.asked = current.asked := by
      simp only [failed, hlined.step_error hasks]
    refine ⟨hlined.told_step_error hasks fault, fun next hnext hfirst => ?_, fun halone => ?_⟩
    · have hdue : failed.calls[next]? = some .due :=
        hlined.due_step_error hasks fault hnext hfirst
      rw [step_ask hdue, hasked]
    · have hcall : (failed.step .call).asked = failed.asked := rfl
      have hdue : (failed.step .call).calls[current.calls.length]? = some .due :=
        hlined.due_of_alone hasks fault halone
      simp only [Steps.run_cons, Steps.run_nil, step_ask hdue, hcall, hasked]
  · intro caller hwaits
    have hmem := (hlined.mem_waiting_iff caller).mpr hwaits
    cases hasking : current.cell.asking with
    | none => simp [hlined.waiting_eq_nil hasking] at hmem
    | some other => exact ⟨other, (hlined.asking_iff other).mp hasking⟩

/-- Three calls come. The first two fail, with another call in line by then, the third one is told
that there is no identifier, and so are the calls behind it and one that comes later. -/
def relay : List Move :=
  let fault : Resource.Fault := .clusterUnreachable "refused"
  [.call, .call, .call, .ask 0, .call, .answer 0 (.error fault), .ask 1, .answer 1 (.error fault),
    .ask 2, .call, .answer 2 (.ok none), .call]

/-- The source was asked three times for six calls and will not be asked again. Had it failed the
third time, too, the call that was in line then would have asked. -/
theorem source_asked_until_success_relay :
    let relayed := run {} relay
    relayed.asked.length = 3 ∧
    relayed.answered.filterMap (fun entry => entry.2.toOption) = [none] ∧
    (∀ later, (relayed.run later).asked = [0, 1, 2]) ∧
    ∀ fault, (((run {} (relay.take 10)).step (.answer 2 (.error fault))).step (.ask 3)).asked =
      [0, 1, 2, 3] := by
  intro relayed
  have hanswered : relayed.answered = [(0, .error (.clusterUnreachable "refused")),
      (1, .error (.clusterUnreachable "refused")), (2, .ok none)] := rfl
  obtain ⟨-, -, -, hlater, hsame, -, -, -, -, hcount⟩ := source_asked_until_success relay
  obtain ⟨-, -, -, -, -, -, -, hfailure, -, -⟩ := source_asked_until_success (relay.take 10)
  refine ⟨hcount (by decide), hsame 5 none rfl, fun later => ?_, fun fault => ?_⟩
  · have hmem : (2, .ok none) ∈ relayed.answered := by simp [hanswered]
    exact (hlater 2 none hmem later).1
  · refine (hfailure 2 fault rfl).2.1 3 rfl fun other hwaits => ?_
    match other with
    | 0 | 1 | 2 => cases hwaits
    | other + 3 => omega

end Inquiry

end Rescan.Identity

/-! ## Sessions and the whole program -/

namespace Rescan.Simulation

open Rescan.Identity (Cell Inquiry Stage)

/-- A session asks an identity that is kept by a call that goes through with nothing in between. -/
theorem ScriptedIdentity.ask_eq_run {source : ScriptedIdentity} {inquiry : Inquiry}
    (hcached : source.cached = true) (hcell : source.cell = inquiry.cell)
    (hasking : inquiry.cell.asking = none) (hwaiting : inquiry.cell.waiting = []) :
    let call := inquiry.calls.length
    let after := inquiry.run [.call, .ask call, .answer call source.next.2]
    source.ask.1.cell = after.cell ∧ after.calls = inquiry.calls ++ [.told source.ask.2] ∧
      source.ask.1.calls + inquiry.asked.length = source.calls + after.asked.length := by
  cases hkept : inquiry.cell.kept with
  | some uid =>
      simp [ask, hcached, hcell, Inquiry.step, Cell.call_of_kept _ hkept, Identity.Turn.stage]
  | none =>
      have hnext : source.next.1.calls = source.calls + 1 := rfl
      cases hanswer : source.next.2 <;>
        simp [ask, hcached, hcell, hanswer, hnext, Inquiry.step,
          Cell.call_of_free _ hkept hasking, Cell.answer, hwaiting, Identity.Turn.stage,
          Inquiry.pass, Inquiry.tell, Nat.add_right_comm, Nat.add_assoc]

/-- A controller of the whole program that wants the identity asks at once if it has the turn. -/
theorem Registrar.call_eq_run {registrar : Registrar} {inquiry : Inquiry}
    (hcell : registrar.cell = inquiry.cell) (hasked : registrar.asked = inquiry.asked.length)
    (now : Nat) :
    let call := inquiry.calls.length
    let after := inquiry.run [.call, .ask call]
    (registrar.call call now).cell = after.cell ∧
      (registrar.call call now).asked = after.asked.length := by
  simp only [Registrar.call, Steps.run_cons, Steps.run_nil, Inquiry.step, hcell]
  cases hkept : inquiry.cell.kept with
  | some uid => simp [Cell.call_of_kept _ hkept, Identity.Turn.stage, hasked]
  | none =>
      cases hasking : inquiry.cell.asking with
      | none => simp [Cell.call_of_free _ hkept hasking, Identity.Turn.stage, request, hasked]
      | some other => simp [Cell.call_of_asking _ hkept hasking, Identity.Turn.stage, hasked]

/-- When the whole program hears an answer, the controllers are told it, and the one that has the
turn after that asks at once. -/
theorem Registrar.hear_eq_run {registrar : Registrar} {inquiry : Inquiry}
    (hlined : inquiry.Lined) (hcell : registrar.cell = inquiry.cell)
    (hasked : registrar.asked = inquiry.asked.length) {time now : Nat} {answer : Identity.Answer}
    (hcoming : registrar.coming = some (time, answer)) (hdue : ¬now < time) {caller : Nat}
    (hasks : inquiry.calls[caller]? = some .asks) :
    let heard := registrar.hear now
    let after := inquiry.run (.answer caller answer :: heard.1.cell.asking.toList.map .ask)
    heard.1.cell = after.cell ∧ heard.1.asked = after.asked.length ∧
      ∀ told ∈ heard.2, after.calls[told.1]? = some (.told told.2) := by
  have hasking := hlined.asking_of_asks hasks
  have hlt := (List.getElem?_eq_some_iff.mp hasks).1
  cases answer with
  | ok uid =>
      have hwaiting : ∀ other ∈ inquiry.cell.waiting,
          (inquiry.calls.map (Stage.settle uid))[other]? = some (.told (.ok uid)) := by
        intro other hmem
        rw [List.getElem?_map, (hlined.mem_waiting_iff other).mp hmem]
        rfl
      have hcaller : (inquiry.calls.map (Stage.settle uid))[caller]? = some (.told (.ok uid)) := by
        rw [List.getElem?_map, hasks]
        rfl
      simp only [hear, hcoming, hdue, if_false, hcell, Cell.answer_ok hasking, Option.isSome_none,
        Bool.false_eq_true, Option.toList_none, List.map_nil, Steps.run_cons, Steps.run_nil,
        hlined.step_ok hasks, hasked, true_and, List.forall_mem_map, List.forall_mem_cons]
      exact ⟨hcaller, hwaiting⟩
  | error fault =>
      cases hline : inquiry.cell.waiting with
      | nil =>
          simp [hear, hcoming, hdue, hcell, Cell.answer_error hasking, hlined.step_error hasks,
            hasked, hline, Inquiry.pass, hlt]
      | cons next rest =>
          have hnext := hlined.waits_of_eq_cons hline
          have hne : next ≠ caller := by
            rintro rfl
            cases hasks.symm.trans hnext
          have hturn : ((inquiry.calls.set caller (.told (.error fault))).set next .due)[next]? =
              some .due := by
            grind
          simp [hear, hcoming, hdue, hcell, Cell.answer_error hasking, hlined.step_error hasks,
            hasked, hline, Inquiry.pass, request, Inquiry.step_ask, hturn, hne, hlt]

end Rescan.Simulation
