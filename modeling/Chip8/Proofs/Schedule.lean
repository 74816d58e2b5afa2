import Chip8.Host.Notice
import Chip8.Machine.Run
import Chip8.Proofs.HeldCycle
import Mathlib.Data.List.Induction

/-! Schedules of cycles and key events, taken apart at their first and at their last action. -/

namespace Chip8

def Action.event? : Action → Option KeyEvent
  | cycle => none
  | key event => some event

def keyEvents (schedule : List Action) : List KeyEvent := schedule.filterMap Action.event?

@[simp] theorem keyEvents_cycle (rest : List Action) :
    keyEvents (.cycle :: rest) = keyEvents rest := rfl

@[simp] theorem keyEvents_key (event : KeyEvent) (rest : List Action) :
    keyEvents (.key event :: rest) = event :: keyEvents rest := rfl

/-- The lines that a log at some level shows of a run. -/
def Run.log (r : Run) (level : Level) : List String :=
  ((r.warnings.toList.map Notice.unknownOpcode).filter (level ≤ ·.level)).map Notice.text

namespace Machine

theorem play_cycle (m : Machine) (rest : List Action) :
    m.play (.cycle :: rest) =
      ⟨(m.cycle.machine.play rest).machine,
        m.cycle.warning?.toArray ++ (m.cycle.machine.play rest).warnings⟩ := by
  rw [play, List.foldl_cons, foldl_act]
  simp [Run.act, Run.cycle]

theorem play_key (m : Machine) (event : KeyEvent) (rest : List Action) :
    m.play (.key event :: rest) = (m.press event).play rest := rfl

theorem play_concat (m : Machine) (schedule : List Action) (a : Action) :
    m.play (schedule ++ [a]) = (m.play schedule).act a := by
  rw [play, play, List.foldl_append, List.foldl_cons, List.foldl_nil]

/-- The machines that the cycles of a schedule start from. -/
def starts (m : Machine) : List Action → List Machine
  | [] => []
  | .cycle :: rest => m :: m.cycle.machine.starts rest
  | .key event :: rest => (m.press event).starts rest

/-- No warning is given while every cycle fetches a word of the table. -/
theorem warnings_play_of_known {m : Machine} {schedule : List Action}
    (h : ∀ p, p ++ [.cycle] <+: schedule → Instruction.Known (m.play p).machine.word) :
    (m.play schedule).warnings = #[] := by
  induction schedule using List.reverseRecOn with
  | nil => rfl
  | append_singleton schedule a ih =>
    have hrest := ih fun p hp => h p (hp.trans (List.prefix_append _ _))
    rw [play_concat]
    cases a with
    | cycle =>
      have hnone : (m.play schedule).machine.cycle.warning? = none := by
        rw [warning?_cycle, if_pos (h schedule List.prefix_rfl)]
      simp [Run.act, Run.cycle, hrest, hnone]
    | key event => exact hrest

end Machine

end Chip8
