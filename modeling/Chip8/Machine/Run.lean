import Chip8.Machine.Cycle
import Chip8.Progress

/-!
Runs: cycles interleaved with key events, and the warnings they give.
-/

namespace Chip8

/-- A machine and the warnings given so far. -/
structure Run where
  machine : Machine
  warnings : Array Warning := #[]
deriving DecidableEq

/-- What can happen to a machine in a run. -/
inductive Action
  | cycle
  | key (event : KeyEvent)
deriving DecidableEq

namespace Run

def cycle (r : Run) : Run :=
  let step := r.machine.cycle
  ⟨step.machine, r.warnings ++ step.warning?.toArray⟩

def act (r : Run) : Action → Run
  | .cycle => r.cycle
  | .key event => { r with machine := r.machine.press event }

end Run

namespace Machine

/-- The run of a schedule. -/
def play (m : Machine) (schedule : List Action) : Run := schedule.foldl Run.act { machine := m }

/-- A number of cycles with the keypad untouched. -/
def run (m : Machine) (cycles : Int) : Run :=
  countedLoop cycles (fun _ r => r.cycle) { machine := m }

/-- A number of cycles with a progress bar. -/
def runReported (m : Machine) (cycles : Int) : Progress.Reported Run Empty :=
  Progress.reportedLoop (.ofRate cycles none) (.ofLoop cycles none []) (fun _ r => r.cycle)
    { machine := m }

/-- The same if the counter is fit for it. No cycles need no counter. -/
def runReported? (m : Machine) (cycles : Int) :
    Except CounterError (Progress.Reported Run Empty) := do
  if 0 < cycles then
    let _ ← (Progress.Plan.ofRate cycles none).check
  return m.runReported cycles

/-- A run goes on from where its first part ends, and its warnings follow those so far. -/
theorem foldl_act (r : Run) (schedule : List Action) :
    schedule.foldl Run.act r =
      ⟨(r.machine.play schedule).machine, r.warnings ++ (r.machine.play schedule).warnings⟩ := by
  induction schedule generalizing r with
  | nil => simp [play]
  | cons a rest ih =>
    rw [play, List.foldl_cons, List.foldl_cons, ih (r.act a), ih (Run.act _ a)]
    cases a <;> simp [Run.act, Run.cycle]

theorem play_append (m : Machine) (s t : List Action) :
    m.play (s ++ t) =
      ⟨((m.play s).machine.play t).machine,
        (m.play s).warnings ++ ((m.play s).machine.play t).warnings⟩ := by
  rw [play, List.foldl_append, foldl_act]
  rfl

theorem run_eq_play (m : Machine) (cycles : Int) :
    m.run cycles = m.play (List.replicate cycles.toNat .cycle) := by
  unfold run play countedLoop
  induction cycles.toNat with
  | zero => rfl
  | succ n ih => rw [Nat.fold_succ, ih, List.replicate_succ', List.foldl_append]; rfl

end Machine

end Chip8
