import Mathlib.Data.List.Perm.Basic
import Rescan.Proofs.Debounce.Flush

/-! # What a drain does for each of its keys

For each key of a drain the target of its namespace and the verdict of the dispatcher decide what
becomes of it. Whatever order the keys are taken and their dispatches end in, the drain hands over
one request for each key that has a target, and its report counts the outcome of every key.
-/

namespace Rescan.Debounce

open Rescan.Resource (Key)
open Rescan.Topology (Registry Target)
open Debouncer (Site Turn)

/-! ## Reports -/

namespace Report

theorem count_foldl_note (report : Report) (outcomes : List Outcome) (outcome : Outcome) :
    (outcomes.foldl note report).count outcome = report.count outcome + outcomes.count outcome := by
  induction outcomes generalizing report with
  | nil => rfl
  | cons noted outcomes ih =>
      rw [List.foldl_cons, ih, count_note, List.count_cons]
      simp only [beq_iff_eq]
      omega

theorem drained_foldl_note (report : Report) (outcomes : List Outcome) :
    (outcomes.foldl note report).drained = report.drained := by
  induction outcomes generalizing report with
  | nil => rfl
  | cons noted outcomes ih =>
      rw [List.foldl_cons, ih]
      cases noted <;> rfl

end Report

/-- Every key has one of the four outcomes. -/
theorem Outcome.sum_countP {α : Type} (outcomeOf : α → Outcome) (list : List α) :
    list.countP (fun a => outcomeOf a = .success) + list.countP (fun a => outcomeOf a = .failure) +
        list.countP (fun a => outcomeOf a = .noTarget) +
        list.countP (fun a => outcomeOf a = .panic) =
      list.length := by
  induction list with
  | nil => rfl
  | cons a list ih =>
      simp only [List.countP_cons, List.length_cons]
      cases outcomeOf a <;> simp <;> omega

namespace Flush

/-! ## What becomes of a key -/

section Verdict

variable (registry : Registry) (verdict : Target → Delivery.Request → Outcome)
  (attribution : Attribution)

/-- What is handed over for a key: a request to the target of its namespace, if there is one. -/
def delivery? (key : Key) : Option (Target × Delivery.Request) :=
  (registry.lookup key.ns).map fun target => (target, .ofKey key attribution)

/-- The outcome of a key: the verdict on its delivery, if there is one. -/
def outcomeOf (key : Key) : Outcome :=
  match delivery? registry attribution key with
  | some (target, request) => verdict target request
  | none => .noTarget

/-- Unless the dispatcher says so itself, a key has no target just if its namespace has none. -/
theorem outcomeOf_eq_noTarget_iff {registry : Registry}
    {verdict : Target → Delivery.Request → Outcome}
    (hverdict : ∀ target request, verdict target request ≠ .noTarget) (attribution : Attribution)
    (key : Key) : outcomeOf registry verdict attribution key = .noTarget ↔
      registry.lookup key.ns = none := by
  unfold outcomeOf delivery?
  cases registry.lookup key.ns <;> simp [hverdict]

/-- The dispatches whose delivery a run ends have the outcomes of the dispatcher's verdict. -/
def Decided (entries : List (Dispatch × Outcome)) : Prop :=
  ∀ entry ∈ entries, ∀ target, registry.lookup entry.1.key.ns = some target →
    entry.2 = verdict target entry.1.request

/-- A drain of some keys has handed over what there is for the keys that are not waiting or
launched any more, and its report counts the outcomes of those that are collected. -/
structure Accounts (keys : List Key) (drain : Drain) (handed : List (Target × Delivery.Request))
    (collected : List Key) : Prop where
  attribution_eq : drain.attribution = attribution
  carried : ∀ dispatch ∈ drain.dispatches, dispatch.attribution = attribution
  targeted : ∀ dispatch ∈ drain.dispatches, dispatch.stage = .sent →
    ∃ target, registry.lookup dispatch.key.ns = some target
  ended : ∀ dispatch ∈ drain.dispatches, ∀ outcome, dispatch.stage = .ended outcome →
    outcomeOf registry verdict attribution dispatch.key = outcome
  keys_perm : (drain.waiting ++ drain.dispatches.map Dispatch.key ++ collected).Perm keys
  handed_perm : handed.Perm
    (((drain.dispatches.filter fun dispatch => !dispatch.isLaunched).map Dispatch.key ++
      collected).filterMap (delivery? registry attribution))
  count_eq : ∀ outcome, drain.report.count outcome =
    collected.countP fun key => outcomeOf registry verdict attribution key = outcome
  drained_eq : drain.report.drained = keys.length

/-- A report and what was handed over are right for a set of keys. -/
structure Exact (keys : List Key) (handed : List (Target × Delivery.Request)) (report : Report) :
    Prop where
  handed_perm : handed.Perm (keys.filterMap (delivery? registry attribution))
  drained_eq : report.drained = keys.length
  count_eq : ∀ outcome, report.count outcome =
    keys.countP fun key => outcomeOf registry verdict attribution key = outcome

end Verdict

section Accounts

variable {registry : Registry} {verdict : Target → Delivery.Request → Outcome}
  {attribution : Attribution} {keys collected : List Key} {drain : Drain}
  {handed : List (Target × Delivery.Request)}

theorem accounts_ofKeys {order : List Key} (horder : order.Perm keys) :
    Accounts registry verdict attribution keys (.ofKeys attribution order) [] [] where
  attribution_eq := rfl
  carried := nofun
  targeted := nofun
  ended := nofun
  keys_perm := by simpa [Drain.ofKeys] using horder
  handed_perm := .nil
  count_eq outcome := by cases outcome <;> rfl
  drained_eq := horder.length_eq

/-- The dispatches of a drain are those that are unfinished and those that have ended. -/
theorem dispatches_perm_collect (drain : Drain) :
    drain.dispatches.Perm (drain.collect.dispatches ++
      drain.dispatches.filter fun dispatch => !dispatch.isUnfinished) :=
  (List.filter_append_perm Dispatch.isUnfinished drain.dispatches).symm

/-- What the report of a drain gains by collecting. -/
theorem Accounts.count_collect
    (haccounts : Accounts registry verdict attribution keys drain handed collected)
    (outcome : Outcome) : drain.collect.report.count outcome =
      (collected ++ (drain.dispatches.filter fun dispatch => !dispatch.isUnfinished).map
        Dispatch.key).countP fun key => outcomeOf registry verdict attribution key = outcome := by
  rw [Drain.collect, Report.count_foldl_note, List.countP_append, haccounts.count_eq]
  congr 1
  -- Each dispatch that has ended has the outcome of its key.
  have hended := haccounts.ended
  generalize drain.dispatches = list at hended ⊢
  induction list with
  | nil => rfl
  | cons dispatch list ih =>
      have hrest := ih fun other hother => hended other (List.mem_cons_of_mem _ hother)
      have hfirst := hended dispatch List.mem_cons_self
      cases hstage : dispatch.stage with
      | launched | sent =>
          have hnone : dispatch.outcome? = none := by rw [Dispatch.outcome?, hstage]
          rw [List.filterMap_cons_none hnone, List.filter_cons_of_neg (by
            simp [Dispatch.isUnfinished, hnone])]
          exact hrest
      | ended noted =>
          have hsome : dispatch.outcome? = some noted := by rw [Dispatch.outcome?, hstage]
          rw [List.filterMap_cons_some hsome, List.filter_cons_of_pos (by
            simp [Dispatch.isUnfinished, hsome]), List.map_cons, List.count_cons,
            List.countP_cons, hrest, hfirst noted hstage]
          simp only [beq_iff_eq, decide_eq_true_eq]

theorem Accounts.collect
    (haccounts : Accounts registry verdict attribution keys drain handed collected) :
    Accounts registry verdict attribution keys drain.collect handed
      (collected ++ (drain.dispatches.filter fun dispatch => !dispatch.isUnfinished).map
        Dispatch.key) := by
  have hmem : ∀ dispatch ∈ drain.collect.dispatches, dispatch ∈ drain.dispatches :=
    fun dispatch => List.mem_of_mem_filter
  have hsplit := dispatches_perm_collect drain
  refine ⟨haccounts.attribution_eq, fun dispatch h => haccounts.carried dispatch (hmem _ h),
    fun dispatch h => haccounts.targeted dispatch (hmem _ h),
    fun dispatch h => haccounts.ended dispatch (hmem _ h), ?_, ?_, haccounts.count_collect, ?_⟩
  · refine List.Perm.trans ?_ haccounts.keys_perm
    have hkeys := hsplit.map Dispatch.key
    rw [List.perm_iff_count] at hkeys ⊢
    intro key
    have := hkeys key
    simp only [List.map_append, List.count_append, Drain.collect_waiting] at this ⊢
    omega
  · refine haccounts.handed_perm.trans (List.Perm.filterMap _ ?_)
    -- None of the dispatches that have ended is still launched.
    have hnone : ((drain.dispatches.filter fun dispatch => !dispatch.isUnfinished).filter
        fun dispatch => !dispatch.isLaunched) =
          drain.dispatches.filter fun dispatch => !dispatch.isUnfinished := by
      rw [List.filter_eq_self]
      intro dispatch hdispatch
      have hended := (List.mem_filter.mp hdispatch).2
      cases hstage : dispatch.stage <;>
        simp_all [Dispatch.isUnfinished, Dispatch.outcome?, Dispatch.isLaunched]
    have hkeys := (hsplit.filter fun dispatch => !dispatch.isLaunched).map Dispatch.key
    rw [List.filter_append, hnone, List.map_append] at hkeys
    rw [List.perm_iff_count] at hkeys ⊢
    intro key
    have := hkeys key
    simp only [List.count_append] at this ⊢
    omega
  · rw [Drain.collect, Report.drained_foldl_note, haccounts.drained_eq]

theorem Accounts.launch
    (haccounts : Accounts registry verdict attribution keys drain handed collected)
    (limit first : Nat) :
    Accounts registry verdict attribution keys (drain.launch limit first) handed collected := by
  have hfresh : ∀ dispatch ∈ drain.fresh limit first,
      dispatch.attribution = attribution ∧ dispatch.stage = .launched := by
    intro dispatch hmem
    obtain ⟨_, _, rfl⟩ := List.mem_map.mp hmem
    exact ⟨haccounts.attribution_eq, rfl⟩
  have hcases : ∀ dispatch ∈ (drain.launch limit first).dispatches,
      dispatch ∈ drain.dispatches ∨ dispatch ∈ drain.fresh limit first := by
    intro dispatch hmem
    rwa [Drain.launch_dispatches, List.mem_append] at hmem
  refine ⟨haccounts.attribution_eq, fun dispatch hmem => ?_, fun dispatch hmem hsent => ?_,
    fun dispatch hmem outcome hended => ?_, ?_, ?_, haccounts.count_eq, haccounts.drained_eq⟩
  · rcases hcases dispatch hmem with hold | hnew
    · exact haccounts.carried dispatch hold
    · exact (hfresh dispatch hnew).1
  · rcases hcases dispatch hmem with hold | hnew
    · exact haccounts.targeted dispatch hold hsent
    · cases (hfresh dispatch hnew).2.symm.trans hsent
  · rcases hcases dispatch hmem with hold | hnew
    · exact haccounts.ended dispatch hold outcome hended
    · cases (hfresh dispatch hnew).2.symm.trans hended
  · exact ((drain.launch_keys limit first).append_right collected).trans haccounts.keys_perm
  · have hnone : ((drain.fresh limit first).filter fun dispatch => !dispatch.isLaunched) = [] := by
      rw [List.filter_eq_nil_iff]
      intro dispatch hmem
      simp [Dispatch.isLaunched, (hfresh dispatch hmem).2]
    rw [Drain.launch_dispatches, List.filter_append, hnone, List.append_nil]
    exact haccounts.handed_perm

/-- The key of a dispatch that moves on from being launched is one more of the keys whose dispatches
have moved on. -/
theorem perm_movedKeys_replace {dispatch moved : Dispatch} (first last : List Dispatch)
    (hkey : moved.key = dispatch.key) (hmoved : moved.isLaunched = false) :
    (((first ++ moved :: last).filter fun dispatch => !dispatch.isLaunched).map Dispatch.key).Perm
      (((first ++ dispatch :: last).filter fun dispatch => !dispatch.isLaunched).map Dispatch.key ++
        if dispatch.isLaunched then [dispatch.key] else []) := by
  rw [List.perm_iff_count]
  intro key
  cases hlaunched : dispatch.isLaunched <;>
    simp [List.filter_append, hmoved, hlaunched, hkey, List.count_cons]

theorem filterMap_delivery?_if (launched : Bool) (key : Key) :
    (if launched then [key] else []).filterMap (delivery? registry attribution) =
      if launched then (delivery? registry attribution key).toList else [] := by
  cases launched <;> cases hentry : delivery? registry attribution key <;> simp [hentry]

/-- A dispatch that moves on from being launched is handed over if there is a target. -/
theorem Accounts.replace
    (haccounts : Accounts registry verdict attribution keys drain handed collected)
    {dispatch : Dispatch} {first last : List Dispatch} {stage : Stage}
    (hsplit : drain.dispatches = first ++ dispatch :: last)
    (hadvanced : drain.dispatches.map (Dispatch.advance dispatch.number stage) =
      first ++ { dispatch with stage } :: last)
    (hstage : stage ≠ .launched)
    (hsent : stage = .sent → ∃ target, registry.lookup dispatch.key.ns = some target)
    (hended : ∀ outcome, stage = .ended outcome →
      outcomeOf registry verdict attribution dispatch.key = outcome) :
    Accounts registry verdict attribution keys (drain.advance dispatch.number stage)
      (handed ++ if dispatch.isLaunched then
        (delivery? registry attribution dispatch.key).toList else []) collected := by
  have hafter : (drain.advance dispatch.number stage).dispatches =
      first ++ { dispatch with stage } :: last := hadvanced
  have hcases : ∀ other ∈ (drain.advance dispatch.number stage).dispatches,
      other ∈ drain.dispatches ∨ other = { dispatch with stage } := by
    intro other hother
    rw [hafter, List.mem_append, List.mem_cons] at hother
    rw [hsplit, List.mem_append, List.mem_cons]
    rcases hother with hother | hother | hother
    · exact Or.inl (Or.inl hother)
    · exact Or.inr hother
    · exact Or.inl (Or.inr (Or.inr hother))
  refine ⟨haccounts.attribution_eq, fun other hother => ?_, fun other hother hstaged => ?_,
    fun other hother outcome hstaged => ?_, ?_, ?_, haccounts.count_eq, haccounts.drained_eq⟩
  · rcases hcases other hother with hold | rfl
    · exact haccounts.carried other hold
    · exact haccounts.carried dispatch (hsplit ▸ List.mem_append_right _ List.mem_cons_self)
  · rcases hcases other hother with hold | rfl
    · exact haccounts.targeted other hold hstaged
    · exact hsent hstaged
  · rcases hcases other hother with hold | rfl
    · exact haccounts.ended other hold outcome hstaged
    · exact hended outcome hstaged
  · rw [drain.advance_keys]
    exact haccounts.keys_perm
  · have hkeys := @perm_movedKeys_replace dispatch { dispatch with stage } first last rfl
      (by simp [Dispatch.isLaunched, hstage])
    rw [← hsplit, ← hafter] at hkeys
    refine (haccounts.handed_perm.append_right _).trans ?_
    rw [← filterMap_delivery?_if, ← List.filterMap_append]
    refine List.Perm.filterMap _ (.trans ?_ (hkeys.symm.append_right _))
    rw [List.append_assoc, List.append_assoc]
    exact List.perm_append_comm.append_left _

end Accounts

/-! ## What a move adds -/

section Moved

variable {registry : Registry} {verdict : Target → Delivery.Request → Outcome}
  {attribution : Attribution} {keys collected : List Key} {flush : Flush} {drain : Drain}
  {handed : List (Target × Delivery.Request)} {move : Move} {dispatch : Dispatch} {stage : Stage}

/-- A dispatch of the drain is handed over in its turn, if there is a target for it. -/
theorem handed_of_turn (hregistry : flush.debouncer.registry = registry)
    (hdrain : flush.drain? = some drain) (hturn : Turn flush.debouncer move dispatch stage) :
    flush.handed move = if dispatch ∈ drain.dispatches ∧ dispatch.isLaunched then
      (delivery? registry dispatch.attribution dispatch.key).toList else [] := by
  subst registry
  cases hturn with
  | sent _ target hmem hlaunched hlookup =>
      simp [Flush.handed, Debouncer.handed, Debouncer.send, dispatches_of_drain? hdrain, hmem,
        hlaunched, hlookup, Dispatch.isLaunched, delivery?, Dispatch.request, List.filter_cons,
        apply_ite]
  | missed _ hmem hlaunched hlookup =>
      simp [Flush.handed, Debouncer.handed, Debouncer.send, dispatches_of_drain? hdrain, hmem,
        hlaunched, hlookup, Dispatch.isLaunched, delivery?]
  | landed _ outcome hmem hsent houtcome =>
      simp [Flush.handed, Debouncer.handed, Dispatch.isLaunched, hsent]

/-- A dispatch that has its turn, or whose delivery ends as the dispatcher decides, comes to the
stage that its key calls for. -/
theorem Accounts.stage_of_turn
    (haccounts : Accounts registry verdict attribution keys drain handed collected)
    (hregistry : flush.debouncer.registry = registry) (hdrain : flush.drain? = some drain)
    (hturn : Turn flush.debouncer move dispatch stage) (hmem : dispatch ∈ drain.dispatches)
    (hdecided : Decided registry verdict (flush.landed move)) :
    (stage = .sent → ∃ target, registry.lookup dispatch.key.ns = some target) ∧
      ∀ outcome, stage = .ended outcome →
        outcomeOf registry verdict attribution dispatch.key = outcome := by
  subst registry
  cases hturn with
  | sent _ target _ _ hlookup => exact ⟨fun _ => ⟨target, hlookup⟩, nofun⟩
  | missed _ _ _ hlookup =>
      refine ⟨nofun, fun outcome houtcome => ?_⟩
      cases houtcome
      simp [outcomeOf, delivery?, hlookup]
  | landed _ outcome _ hsent houtcome =>
      refine ⟨nofun, fun noted hnoted => ?_⟩
      cases hnoted
      -- It was sent because there is a target, about which the dispatcher decided.
      obtain ⟨target, hlookup⟩ := haccounts.targeted dispatch hmem hsent
      have hlanded : (dispatch, outcome) ∈ flush.landed (.land dispatch outcome) := by
        rw [landed, dispatches_of_drain? hdrain, if_pos ⟨hmem, hsent, houtcome⟩]
        exact List.mem_singleton_self _
      have hverdict := hdecided _ hlanded target hlookup
      simp only [Dispatch.request, haccounts.carried dispatch hmem] at hverdict
      simp [outcomeOf, delivery?, hlookup, hverdict]

/-- The account of a drain stays right when a dispatch moves on, its own or one of another. -/
theorem Accounts.turn
    (haccounts : Accounts registry verdict attribution keys drain handed collected)
    (hapart : flush.debouncer.Apart) (hregistry : flush.debouncer.registry = registry)
    (hdrain : flush.drain? = some drain) (hturn : Turn flush.debouncer move dispatch stage)
    (hdecided : Decided registry verdict (flush.landed move)) :
    Accounts registry verdict attribution keys (drain.advance dispatch.number stage)
      (handed ++ flush.handed move) collected := by
  have hdrains := mem_drains_of_drain? hdrain
  rw [handed_of_turn hregistry hdrain hturn]
  by_cases hmem : dispatch ∈ drain.dispatches
  · obtain ⟨first, last, hbefore, hafter⟩ :=
      Dispatch.map_advance_of_mem (hapart.of_mem hdrains) hmem stage
    obtain ⟨hsent, hended⟩ := haccounts.stage_of_turn hregistry hdrain hturn hmem hdecided
    have hreplace := haccounts.replace hbefore hafter hturn.stage_ne hsent hended
    simpa only [hmem, true_and, haccounts.carried dispatch hmem] using hreplace
  · have hsame : drain.advance dispatch.number stage = drain := by
      have hnumbers : ∀ other ∈ drain.dispatches, other.number ≠ dispatch.number := by
        intro other hother hnumber
        have hheld := Debouncer.mem_dispatches.mpr (Or.inl ⟨drain, hdrains, hother⟩)
        exact hmem (hapart.eq_of_number hheld hturn.mem hnumber ▸ hother)
      rw [Drain.advance, Dispatch.map_advance_of_ne hnumbers]
    rw [hsame, if_neg fun h => hmem h.1, List.append_nil]
    exact haccounts

/-- The report of a complete drain is right for all its keys. -/
theorem Accounts.exact
    (haccounts : Accounts registry verdict attribution keys drain handed collected)
    (hcomplete : drain.isComplete = true) :
    Exact registry verdict attribution keys handed drain.report := by
  simp only [Drain.isComplete, Bool.and_eq_true, List.isEmpty_iff] at hcomplete
  have hkeys := haccounts.keys_perm
  have hhanded := haccounts.handed_perm
  rw [hcomplete.2] at hhanded
  rw [hcomplete.1, hcomplete.2] at hkeys
  refine ⟨hhanded.trans (hkeys.filterMap _), haccounts.drained_eq, fun outcome => ?_⟩
  rw [haccounts.count_eq]
  exact hkeys.countP_eq _

end Moved

/-! ## Whole runs -/

theorem step_site_of_no_site {flush : Flush} (hsite : flush.site = none) (move : Move) :
    (flush.step move).site = none := by
  rw [step, hsite, Option.bind_none]

theorem run_site_of_no_site {flush : Flush} (hsite : flush.site = none) (moves : List Move) :
    (flush.run moves).site = none :=
  Steps.run_induction (P := fun other : Flush => other.site = none) hsite
    fun _ _ _ h => step_site_of_no_site h _

theorem history_of_no_site {α : Type} {observe : Flush → Move → List α}
    (hobserve : ∀ flush move, flush.site = none → observe flush move = []) {flush : Flush}
    (hsite : flush.site = none) (moves : List Move) : flush.history observe moves = [] :=
  Steps.history_eq_nil (P := fun other : Flush => other.site = none) hsite
    (fun _ _ _ h => step_site_of_no_site h _) fun _ _ _ h => hobserve _ _ h

theorem handed_of_no_site (flush : Flush) (move : Move) (hsite : flush.site = none) :
    flush.handed move = [] := by
  simp [handed, dispatches, drain?, hsite]

theorem returned_of_no_site (flush : Flush) (move : Move) (hsite : flush.site = none) :
    flush.returned move = [] := by
  cases move <;> simp [returned, hsite]

/-- The registry stays as it is all along some moves. -/
def Steady (flush : Flush) (moves : List Move) : Prop :=
  ∀ earlier, earlier <+: moves →
    (flush.run earlier).debouncer.registry = flush.debouncer.registry

theorem Steady.of_cons {flush : Flush} {move : Move} {moves : List Move}
    (hsteady : flush.Steady (move :: moves)) :
    (flush.step move).debouncer.registry = flush.debouncer.registry ∧
      (flush.step move).Steady moves := by
  have hfirst : (flush.step move).debouncer.registry = flush.debouncer.registry :=
    hsteady [move] (List.prefix_append [move] moves)
  refine ⟨hfirst, fun earlier hearlier => ?_⟩
  rw [hfirst]
  exact hsteady (move :: earlier) (List.cons_prefix_cons.mpr ⟨rfl, hearlier⟩)

theorem steady_of_ne_edit {flush : Flush} {moves : List Move}
    (hmoves : ∀ move ∈ moves, ∀ change, move ≠ .edit change) : flush.Steady moves := by
  intro earlier hearlier
  rw [debouncer_run]
  have hnone : ∀ move ∈ earlier, ∀ change, move ≠ .edit change :=
    fun move hmove => hmoves move (hearlier.subset hmove)
  exact Steps.run_induction
    (P := fun other : Debouncer => other.registry = flush.debouncer.registry) rfl
    fun before move hmove h => (before.step_registry (hnone move hmove)).trans h

section Whole

variable {registry : Registry} {verdict : Target → Delivery.Request → Outcome}
  {attribution : Attribution} {keys collected : List Key} {flush : Flush} {drain later : Drain}
  {handed : List (Target × Delivery.Request)} {moves : List Move}

/-- Every move keeps the account of a drain that goes on. -/
theorem Accounts.step
    (haccounts : Accounts registry verdict attribution keys drain handed collected)
    (hsound : flush.debouncer.Sound) (hapart : flush.debouncer.Apart)
    (hregistry : flush.debouncer.registry = registry) (hdrain : flush.drain? = some drain)
    {move : Move} (hdecided : Decided registry verdict (flush.landed move))
    (hlater : (flush.step move).drain? = some later) :
    ∃ gathered, Accounts registry verdict attribution keys later (handed ++ flush.handed move)
      gathered := by
  rcases later_cases hsound hdrain hlater with
    ⟨rfl, hhanded⟩ | ⟨rfl, hhanded⟩ | ⟨dispatch, stage, hturn, rfl⟩
  · rw [hhanded, List.append_nil]
    exact ⟨collected, haccounts⟩
  · rw [hhanded, List.append_nil]
    exact ⟨_, haccounts.collect.launch _ _⟩
  · exact ⟨collected, haccounts.turn hapart hregistry hdrain hturn hdecided⟩

/-- At the end of a run the account of the drain is right, if the drain still goes on, and else so
is every report that was taken, provided that the registry was not edited and that deliveries
ended as the dispatcher decides. -/
theorem Accounts.run
    (haccounts : Accounts registry verdict attribution keys drain handed collected)
    (hsound : flush.debouncer.Sound) (hapart : flush.debouncer.Apart)
    (hregistry : flush.debouncer.registry = registry) (hdrain : flush.drain? = some drain)
    (hsteady : flush.Steady moves)
    (hdecided : Decided registry verdict (flush.history landed moves)) :
    (∀ later, (flush.run moves).drain? = some later →
      ∃ gathered, Accounts registry verdict attribution keys later
        (handed ++ flush.history Flush.handed moves) gathered) ∧
    ∀ report ∈ flush.history returned moves,
      Exact registry verdict attribution keys (handed ++ flush.history Flush.handed moves)
        report := by
  induction moves generalizing flush drain handed collected with
  | nil =>
      refine ⟨fun later hlater => ⟨collected, ?_⟩, fun report hreport => ?_⟩
      · obtain rfl := Option.some.inj (hdrain.symm.trans hlater)
        simpa only [Steps.history_nil, List.append_nil] using haccounts
      · cases hreport
  | cons move moves ih =>
      obtain ⟨hkept, hrest⟩ := hsteady.of_cons
      have hfirst : Decided registry verdict (flush.landed move) :=
        fun entry hentry => hdecided entry (List.mem_append_left _ hentry)
      have hthen : Decided registry verdict ((flush.step move).history landed moves) :=
        fun entry hentry => hdecided entry (List.mem_append_right _ hentry)
      -- While the drain goes on nothing is returned, and the account covers this move as well.
      have hgoes (later : Drain) (hlater : (flush.step move).drain? = some later)
          (hreturned : flush.returned move = []) :
          (∀ last, (flush.run (move :: moves)).drain? = some last →
            ∃ gathered, Accounts registry verdict attribution keys last
              (handed ++ flush.history Flush.handed (move :: moves)) gathered) ∧
          ∀ report ∈ flush.history returned (move :: moves),
            Exact registry verdict attribution keys
              (handed ++ flush.history Flush.handed (move :: moves)) report := by
        obtain ⟨gathered, hnext⟩ := haccounts.step hsound hapart hregistry hdrain hfirst hlater
        simp only [Steps.history_cons, Steps.run_cons, hreturned, List.nil_append,
          ← List.append_assoc]
        exact ih hnext (hsound.step move) (hapart.step hsound move) (hkept.trans hregistry) hlater
          hrest hthen
      -- Once it is gone nothing is handed over or returned any more.
      have hgone (hsite : (flush.step move).site = none) (last : Drain) :
          (flush.run (move :: moves)).drain? ≠ some last := by
        have hnone : (flush.run (move :: moves)).site = none := run_site_of_no_site hsite moves
        rw [Flush.drain?, hnone]
        exact (Option.some_ne_none last).symm
      cases goes hsound hdrain move with
      | stays hlater _ hreturned => exact hgoes _ hlater hreturned
      | polled hlater _ _ hreturned => exact hgoes _ hlater hreturned
      | moved _ _ _ hlater hreturned => exact hgoes _ hlater hreturned
      | closed hsite hcomplete hhanded hreturned =>
          refine ⟨fun last hlast => absurd hlast (hgone hsite last), fun report hreport => ?_⟩
          simp only [Steps.history_cons, hreturned,
            history_of_no_site returned_of_no_site hsite, List.append_nil,
            List.mem_singleton] at hreport
          simp only [Steps.history_cons, hhanded, history_of_no_site handed_of_no_site hsite,
            List.append_nil, hreport]
          exact haccounts.exact hcomplete
      | lost hsite _ _ hreturned =>
          refine ⟨fun last hlast => absurd hlast (hgone hsite last), fun report hreport => ?_⟩
          simp only [Steps.history_cons, hreturned,
            history_of_no_site returned_of_no_site hsite, List.append_nil] at hreport
          cases hreport

end Whole

end Flush

end Rescan.Debounce
