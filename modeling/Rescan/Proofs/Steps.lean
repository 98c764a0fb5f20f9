/-! # Runs of a system

A system takes one step after another: a step leads from a state to the next one, as a move says.
A run takes a sequence of moves. What it does is told by its history, which collects an observation
of each move. A system may drive another one, of which its state is known in part; then the
history tells the moves of that one.
-/

namespace Rescan.Steps

variable {State Move α : Type}

/-- The state after a sequence of moves. -/
def run (step : State → Move → State) (state : State) (moves : List Move) : State :=
  moves.foldl step state

/-- What is observed of the moves of a run, in order. -/
def history (step : State → Move → State) (observe : State → Move → List α) :
    State → List Move → List α
  | _, [] => []
  | state, move :: moves => observe state move ++ history step observe (step state move) moves

section Run

variable (step : State → Move → State) (state : State)

@[simp] theorem run_nil : run step state [] = state := rfl

@[simp] theorem run_cons (move : Move) (moves : List Move) :
    run step state (move :: moves) = run step (step state move) moves := rfl

@[simp] theorem run_append (first second : List Move) :
    run step state (first ++ second) = run step (run step state first) second :=
  List.foldl_append

theorem run_concat (moves : List Move) (move : Move) :
    run step state (moves ++ [move]) = step (run step state moves) move :=
  run_append ..

variable {step state} in
/-- What a property of states needs in order to hold all along a run: it holds at the beginning, and
every move keeps it. -/
theorem run_induction {P : State → Prop} {moves : List Move} (hinit : P state)
    (hstep : ∀ before, ∀ move ∈ moves, P before → P (step before move)) :
    P (run step state moves) := by
  induction moves generalizing state with
  | nil => exact hinit
  | cons move moves ih =>
      exact ih (hstep state move List.mem_cons_self hinit) fun before other hother =>
        hstep before other (List.mem_cons_of_mem _ hother)

end Run

section History

variable (step : State → Move → State) (observe : State → Move → List α) (state : State)

@[simp] theorem history_nil : history step observe state [] = [] := rfl

@[simp] theorem history_cons (move : Move) (moves : List Move) :
    history step observe state (move :: moves) =
      observe state move ++ history step observe (step state move) moves := rfl

@[simp] theorem history_append (first second : List Move) :
    history step observe state (first ++ second) =
      history step observe state first ++ history step observe (run step state first) second := by
  induction first generalizing state with
  | nil => rfl
  | cons move moves ih =>
      simp only [List.cons_append, history_cons, run_cons, ih, List.append_assoc]

variable {step observe state} in
/-- What is observed in a run is observed of one of its moves. -/
theorem exists_of_mem_history {a : α} {moves : List Move}
    (hmem : a ∈ history step observe state moves) :
    ∃ first move last, moves = first ++ move :: last ∧ a ∈ observe (run step state first) move := by
  induction moves generalizing state with
  | nil => cases hmem
  | cons move moves ih =>
      rcases List.mem_append.mp hmem with hmem | hmem
      · exact ⟨[], move, moves, rfl, hmem⟩
      · obtain ⟨first, other, last, rfl, hobserved⟩ := ih hmem
        exact ⟨move :: first, other, last, rfl, hobserved⟩

variable {step observe state} in
/-- Nothing is observed in a run when nothing is observed of a move in the states that it can
reach. -/
theorem history_eq_nil {P : State → Prop} {moves : List Move} (hinit : P state)
    (hkept : ∀ before, ∀ move ∈ moves, P before → P (step before move))
    (hnone : ∀ before, ∀ move ∈ moves, P before → observe before move = []) :
    history step observe state moves = [] := by
  induction moves generalizing state with
  | nil => rfl
  | cons move moves ih =>
      have hrest := ih (hkept state move List.mem_cons_self hinit)
        (fun before other hother => hkept before other (List.mem_cons_of_mem _ hother))
        (fun before other hother => hnone before other (List.mem_cons_of_mem _ hother))
      rw [history_cons, hnone state move List.mem_cons_self hinit, hrest, List.append_nil]

end History

section Part

variable {Part PartMove : Type} {step : State → Move → State} {state : State}
  {partStep : Part → PartMove → Part} (part : State → Part) {drive : State → Move → List PartMove}

/-- A part of the state that every step drives by moves of its own is driven by all of these in a
run. The steps may count on what holds at the beginning and is kept by them. -/
theorem part_run_of_kept {P : State → Prop} (hinit : P state)
    (hkept : ∀ before move, P before → P (step before move))
    (hstep : ∀ before move, P before →
      part (step before move) = run partStep (part before) (drive before move))
    (moves : List Move) :
    part (run step state moves) = run partStep (part state) (history step drive state moves) := by
  induction moves generalizing state with
  | nil => rfl
  | cons move moves ih =>
      rw [history_cons, run_append, ← hstep state move hinit]
      exact ih (hkept state move hinit)

theorem part_run
    (hstep : ∀ before move,
      part (step before move) = run partStep (part before) (drive before move))
    (moves : List Move) :
    part (run step state moves) = run partStep (part state) (history step drive state moves) :=
  part_run_of_kept part (P := fun _ => True) trivial (fun _ _ _ => trivial)
    (fun before move _ => hstep before move) moves

end Part

end Rescan.Steps
