import Chip8.Machine.Load
import Chip8.Proofs.ByteStorage
import Chip8.Proofs.MatchedCall

/-! What holds of a machine at any time after a program is loaded. -/

namespace Chip8

namespace Stack

/-- The slots from the pointer on are clear. -/
def ClearAbove (s : Stack) : Prop := ∀ (i : Nat) (hi : i < 16), s.pointer.val ≤ i → s.slots[i] = 0

theorem clearAbove_empty : empty.ClearAbove := by
  intro i hi _
  simp [empty]

theorem ClearAbove.push {s : Stack} (h : s.ClearAbove) (hroom : s.pointer ≠ 15)
    (address : UInt16) : (s.push address).ClearAbove := by
  intro i hi hle
  have hpointer : (s.push address).pointer.val = s.pointer.val + 1 := by
    simp only [Stack.push]
    omega
  have hne : s.pointer.val ≠ i := by omega
  simpa [Stack.push, Vector.getElem_set_ne _ _ hne] using h i hi (by omega)

theorem ClearAbove.pop {s : Stack} (h : s.ClearAbove) (hsome : s.pointer ≠ 0) :
    s.pop.1.ClearAbove := by
  intro i hi hle
  have htop : (s.pointer - 1).val = s.pointer.val - 1 := by omega
  by_cases hi' : (s.pointer - 1).val = i
  · simp [Stack.pop, ← hi']
  · have hle' : (s.pointer - 1).val ≤ i := hle
    simpa [Stack.pop, Vector.getElem_set_ne _ _ hi'] using h i hi (by omega)

end Stack

namespace Machine

open Instruction (Fits Known)

variable {m : Machine}

/-- The two flags never stand together, and a held machine stands on a word that holds one. -/
structure Consistent (m : Machine) : Prop where
  flags : ¬ (m.beep = true ∧ m.stalled = true)
  held : m.stalled = true → ¬ Known m.word ∨ Fits "FX0A" m.word

theorem consistent_cycle (m : Machine) : m.cycle.machine.Consistent := by
  cases h : m.instruction.holds m.keypad with
  | true =>
    rw [machine_cycle_of_holds h]
    refine ⟨by simp, fun _ => ?_⟩
    rcases Instruction.holds_ofWord_iff.mp h with hunknown | ⟨hwait, -⟩
    · exact .inl hunknown
    · exact .inr hwait
  | false =>
    have hstalled : m.cycle.machine.stalled = false := by rw [stalled_cycle, h]
    exact ⟨by simp [hstalled], by simp [hstalled]⟩

theorem Consistent.play (h : m.Consistent) (schedule : List Action) :
    (m.play schedule).machine.Consistent := by
  induction schedule using List.reverseRecOn with
  | nil => exact h
  | append_singleton schedule a ih =>
    rw [play_concat]
    cases a with
    | cycle => exact consistent_cycle _
    | key event => exact ⟨ih.flags, ih.held⟩

theorem clearAbove_cycle (h : m.stack.ClearAbove)
    (hroom : Fits "2NNN" m.word → m.stack.pointer ≠ 15) : m.cycle.machine.stack.ClearAbove := by
  rcases stack_cycle m with hs | ⟨hcall, hs⟩ | ⟨hsome, hs⟩
  · rwa [hs]
  · rw [hs]
    exact h.push (hroom hcall) _
  · rw [hs]
    exact h.pop hsome

theorem clearAbove_play {schedule : List Action} (h : m.stack.ClearAbove)
    (hroom : ∀ s ∈ m.starts schedule, Fits "2NNN" s.word → s.stack.pointer ≠ 15) :
    (m.play schedule).machine.stack.ClearAbove := by
  induction schedule generalizing m with
  | nil => exact h
  | cons a rest ih =>
    cases a with
    | cycle =>
      have hcycle := clearAbove_cycle h (hroom m List.mem_cons_self)
      rw [play_cycle]
      exact ih hcycle fun s hs => hroom s (List.mem_cons_of_mem _ hs)
    | key event => exact ih (m := m.press event) h hroom

/-- However a loaded program is run, its display and its stack pointer keep to their values also in
bytes, it is never held and beeping at once, it is held on words only that hold a machine, and the
slots from the stack pointer on are clear while no call has gone round the end of the stack. -/
theorem reachable_invariant (seed : Int) {program : List UInt8} {start : Machine}
    (hload : (create seed).load program = .ok start) (schedule : List Action) :
    let reached := (start.play schedule).machine
    let stored := Storage.cleared.play start schedule
    (stored = Storage.ofMachine reached ∧
      (∀ (i : Nat) (hi : i < 2048), stored.cells[i] = 0 ∨ stored.cells[i] = 1) ∧
      stored.pointer < 16) ∧
    ¬ (reached.beep = true ∧ reached.stalled = true) ∧
    (reached.stalled = true → ¬ Known reached.word ∨ Fits "FX0A" reached.word) ∧
    ((∀ s ∈ start.starts schedule, Fits "2NNN" s.word → s.stack.pointer ≠ 15) →
      ∀ (i : Nat) (hi : i < 16), reached.stack.pointer.val ≤ i → reached.stack.slots[i] = 0) := by
  intro reached stored
  obtain ⟨-, hstart⟩ := load_eq_ok_iff.mp hload
  have hcleared : Storage.cleared = Storage.ofMachine start := by
    rw [hstart]
    exact (congrArg (Storage.mk · 0) Storage.cells_blank).symm
  have hstored : stored = Storage.ofMachine reached := by
    simp only [stored, hcleared]
    exact Storage.play_ofMachine start schedule
  have hconsistent : start.Consistent := by
    rw [hstart]
    exact ⟨by simp [create], by simp [create]⟩
  have hclear : start.stack.ClearAbove := by
    rw [hstart]
    exact Stack.clearAbove_empty
  have hreached : reached.Consistent := hconsistent.play schedule
  refine ⟨⟨hstored, ?_, ?_⟩, hreached.flags, hreached.held, ?_⟩
  · rw [hstored]
    exact Storage.cell_ofMachine reached
  · rw [hstored]
    exact Storage.pointer_ofMachine_lt reached
  · intro hroom
    exact clearAbove_play hclear hroom

/-- A program that draws a digit, and in a routine waits for a key. -/
def prompting : List UInt8 := [0xD0, 0x05, 0x22, 0x06, 0x00, 0x00, 0xF0, 0x0A]

theorem reachable_invariant_prompting :
    let start := { create 7 with memory := (create 7).memory.writeBlock 0x200 prompting }
    let schedule : List Action := [.cycle, .cycle, .key (.named "?" true), .cycle]
    let reached := (start.play schedule).machine
    (create 7).load prompting = .ok start ∧
      (∀ s ∈ start.starts schedule, Fits "2NNN" s.word → s.stack.pointer ≠ 15) ∧
      reached.stalled = true ∧ reached.beep = false ∧ Fits "FX0A" reached.word ∧
      (Storage.cleared.play start schedule).pointer = 1 ∧
      ∀ (i : Nat) (hi : i < 16), 1 ≤ i → reached.stack.slots[i] = 0 := by
  intro start schedule reached
  have hload : (create 7).load prompting = .ok start := load_eq_ok_iff.mpr ⟨by decide, rfl⟩
  obtain ⟨hroom, hstalled, hknown, hpointer⟩ :
      (∀ s ∈ start.starts schedule, Fits "2NNN" s.word → s.stack.pointer ≠ 15) ∧
        reached.stalled = true ∧ Known reached.word ∧ reached.stack.pointer.val = 1 := by
    decide +kernel
  obtain ⟨⟨hstored, -⟩, hflags, hheld, hclear⟩ := reachable_invariant 7 hload schedule
  have hbeep : reached.beep = false := Bool.eq_false_iff.mpr fun h => hflags ⟨h, hstalled⟩
  have hwaits : Fits "FX0A" reached.word := (hheld hstalled).resolve_left fun h => h hknown
  refine ⟨hload, hroom, hstalled, hbeep, hwaits, ?_, ?_⟩
  · rw [hstored, Storage.ofMachine, hpointer]
    rfl
  · intro i hi hle
    exact hclear hroom i hi (hpointer.trans_le hle)

end Machine

end Chip8
