import Chip8.Proofs.Schedule

/-! A machine on a word outside the table is stuck. It stays on that word for good, whatever keys
are pressed, and gives the same warning in every cycle. -/

namespace Chip8

theorem Run.log_replicate (m : Machine) (count : Nat) (w : Warning) {level : Level}
    (hlevel : level ≤ .warning) :
    Run.log ⟨m, Array.replicate count w⟩ level =
      List.replicate count (Notice.unknownOpcode w).text := by
  have hshown : level ≤ (Notice.unknownOpcode w).level := hlevel
  rw [Run.log, Array.toList_replicate, List.map_replicate,
    List.filter_replicate_of_pos (by simpa using hshown), List.map_replicate]

namespace Machine

open Instruction (Known)

theorem machine_cycle_of_not_known {m : Machine} (h : ¬ Known m.word) :
    m.cycle.machine = { m with beep := false, stalled := true } := by
  apply machine_cycle_of_holds
  exact Instruction.holds_ofWord_iff.mpr (.inl h)

theorem warning?_cycle_of_not_known {m : Machine} (h : ¬ Known m.word) :
    m.cycle.warning? = some ⟨m.word.toNat, m.pc⟩ := by
  rw [warning?_cycle, if_neg h]

theorem warnings_play_of_not_known {m : Machine} (h : ¬ Known m.word) (schedule : List Action) :
    (m.play schedule).warnings =
      Array.replicate (schedule.count .cycle) ⟨m.word.toNat, m.pc⟩ := by
  induction schedule generalizing m with
  | nil => rfl
  | cons a rest ih =>
    cases a with
    | cycle =>
      have hnext : ¬ Known m.cycle.machine.word := by
        rw [machine_cycle_of_not_known h]
        exact h
      rw [play_cycle, warning?_cycle_of_not_known h, ih hnext, machine_cycle_of_not_known h,
        List.count_cons_self, Array.replicate_succ']
      rfl
    | key event =>
      rw [play_key, ih (m := m.press event) h, List.count_cons_of_ne (by simp)]
      rfl

/-- A machine that is already held on such a word has only its keypad changed. -/
theorem machine_play_of_not_known {m : Machine} (h : ¬ Known m.word) (hbeep : m.beep = false)
    (hstalled : m.stalled = true) (schedule : List Action) :
    (m.play schedule).machine =
      { m with keypad := (keyEvents schedule).foldl Keypad.apply m.keypad } := by
  induction schedule generalizing m with
  | nil => rfl
  | cons a rest ih =>
    cases a with
    | cycle =>
      have hm : m.cycle.machine = m := by
        rw [machine_cycle_of_not_known h, ← hbeep, ← hstalled]
      rw [play_cycle, hm, ih h hbeep hstalled]
      rfl
    | key event =>
      rw [play_key, ih (m := m.press event) h hbeep hstalled]
      rfl

/-- From the first cycle that fetches a word outside the table on, nothing changes but the keypad
and two flags, and each cycle logs one and the same line. -/
theorem play_stuck (m : Machine) {before after : List Action} {level : Level}
    (hlevel : level ≤ .warning)
    (hknown : ∀ p, p ++ [.cycle] <+: before → Known (m.play p).machine.word)
    (hunknown : ¬ Known (m.play before).machine.word) :
    (∀ p, p <+: after →
      (m.play (before ++ .cycle :: p)).machine =
        { (m.play before).machine with
          keypad := (keyEvents p).foldl Keypad.apply (m.play before).machine.keypad
          beep := false
          stalled := true }) ∧
    (m.play before).log level = [] ∧
    (m.play (before ++ .cycle :: after)).log level =
      List.replicate (after.count .cycle + 1)
        ("Unknown opcode 0x" ++ Text.hexPadded 4 (m.play before).machine.word.toNat ++
          " at 0x" ++ Text.hexPadded 3 (m.play before).machine.pc.toNat) := by
  have hnone := warnings_play_of_known hknown
  refine ⟨?_, ?_, ?_⟩
  · intro p _
    rw [play_append, play_cycle, machine_cycle_of_not_known hunknown]
    exact machine_play_of_not_known
      (m := { (m.play before).machine with beep := false, stalled := true }) hunknown rfl rfl p
  · rw [Run.log, hnone]
    rfl
  · rw [play_append, hnone, Array.empty_append, warnings_play_of_not_known hunknown,
      List.count_cons_self, Run.log_replicate _ _ _ hlevel]
    rfl

/-- A program of one instruction, at the start of memory, that runs into data. -/
def straying : Machine :=
  { create 0 with memory := Memory.blank.writeBlock 0 [0x60, 0x05, 0x01, 0x23], pc := 0 }

theorem play_stuck_straying :
    Level.info ≤ .warning ∧
    (∀ p, p ++ [.cycle] <+: [Action.cycle, .key (.numbered 3 true)] →
      Known (straying.play p).machine.word) ∧
    ¬ Known (straying.play [.cycle, .key (.numbered 3 true)]).machine.word ∧
    (straying.play ([.cycle, .key (.numbered 3 true)] ++
        .cycle :: [.key (.numbered 5 true), .cycle])).log .info =
      ["Unknown opcode 0x0123 at 0x002", "Unknown opcode 0x0123 at 0x002"] := by
  have hknown : ∀ p, p ++ [.cycle] <+: [Action.cycle, .key (.numbered 3 true)] →
      Known (straying.play p).machine.word := by
    rintro p ⟨rest, h⟩
    match p with
    | [] => decide +kernel
    | [_] => simp at h
    | _ :: _ :: _ => simp at h
  have hunknown : ¬ Known (straying.play [.cycle, .key (.numbered 3 true)]).machine.word := by
    decide +kernel
  refine ⟨by decide, hknown, hunknown, ?_⟩
  rw [(play_stuck straying (by decide) hknown hunknown).2.2]
  decide +kernel

end Machine

end Chip8
