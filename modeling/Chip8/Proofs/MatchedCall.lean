import Chip8.Proofs.Schedule

/-! Matched calls and returns. While the pointer stays above the slot that a call has filled,
nothing touches that slot or the ones below it, so the matching return finds its address there. -/

namespace Chip8

namespace Stack

/-- The slots of `s` below its pointer are unchanged in `t`, and the next one holds `address`. -/
structure Guards (s t : Stack) (address : UInt16) : Prop where
  below : ∀ (i : Nat) (hi : i < 16), i < s.pointer → t.slots[i] = s.slots[i]
  top : ∀ (i : Nat) (hi : i < 16), i = s.pointer → t.slots[i] = address

theorem guards_push (s : Stack) (address : UInt16) : Guards s (s.push address) address where
  below i hi hbelow := by
    have hne : s.pointer.val ≠ i := by omega
    simp [push, Vector.getElem_set_ne _ _ hne]
  top i hi htop := by simp [push, htop]

theorem Guards.set {s t : Stack} {address : UInt16} (h : Guards s t address) {slot : Fin 16}
    (habove : s.pointer < slot) (value : UInt16) (pointer : Fin 16) :
    Guards s ⟨t.slots.set slot value, pointer⟩ address where
  below i hi hbelow := by
    have hne : slot.val ≠ i := by omega
    simpa [Vector.getElem_set_ne _ _ hne] using h.below i hi hbelow
  top i hi htop := by
    have hne : slot.val ≠ i := by omega
    simpa [Vector.getElem_set_ne _ _ hne] using h.top i hi htop

theorem Guards.pop {s t : Stack} {address : UInt16} (h : Guards s t address)
    (hpointer : t.pointer.val = s.pointer.val + 1) :
    t.pop.2 = address ∧ t.pop.1.pointer = s.pointer ∧
      (∀ i : Fin 16, i < s.pointer → t.pop.1.slots.get i = s.slots.get i) ∧
      t.pop.1.slots.get s.pointer = 0 := by
  have htop : t.pointer - 1 = s.pointer := by omega
  refine ⟨?_, htop, ?_, ?_⟩
  · simpa [Stack.pop, htop] using h.top s.pointer s.pointer.isLt rfl
  · intro i hi
    have hne : s.pointer.val ≠ i.val := by omega
    change t.pop.1.slots[i] = s.slots[i]
    simpa [Stack.pop, htop, Vector.getElem_set_ne _ _ hne] using h.below i i.isLt hi
  · change t.pop.1.slots[s.pointer] = 0
    simp [Stack.pop, htop]

end Stack

namespace Machine

open Instruction (Fits)
open Stack (Guards)

theorem stack_cycle (m : Machine) :
    m.cycle.machine.stack = m.stack ∨
      (Fits "2NNN" m.word ∧ m.cycle.machine.stack = m.stack.push (m.pc + 2)) ∨
      (m.stack.pointer ≠ 0 ∧ m.cycle.machine.stack = m.stack.pop.1) := by
  cases h : m.instruction.holds m.keypad with
  | true =>
    rw [machine_cycle_of_holds h]
    exact .inl rfl
  | false =>
    rw [machine_cycle_of_not_holds h]
    rcases stack_perform m.fetched m.instruction with hs | ⟨hcall, hs⟩ | hs
    · exact .inl hs
    · exact .inr (.inl ⟨Instruction.fits_call_iff.mpr hcall, hs⟩)
    · exact .inr (.inr hs)

theorem guards_cycle {m : Machine} {s : Stack} {address : UInt16} (h : Guards s m.stack address)
    (hbefore : s.pointer < m.stack.pointer)
    (hafter : s.pointer < m.cycle.machine.stack.pointer) :
    Guards s m.cycle.machine.stack address := by
  rcases stack_cycle m with hs | ⟨-, hs⟩ | ⟨-, hs⟩
  · rwa [hs]
  · rw [hs]
    exact h.set hbefore _ _
  · rw [hs] at hafter ⊢
    exact h.set hafter 0 _

theorem guards_play {m : Machine} {s : Stack} {address : UInt16} (h : Guards s m.stack address)
    {schedule : List Action}
    (habove : ∀ p, p <+: schedule → s.pointer < (m.play p).machine.stack.pointer) :
    Guards s (m.play schedule).machine.stack address := by
  induction schedule using List.reverseRecOn with
  | nil => exact h
  | append_singleton schedule a ih =>
    have hrest := ih fun p hp => habove p (hp.trans (List.prefix_append _ _))
    cases a with
    | cycle =>
      have hbefore := habove schedule (List.prefix_append _ _)
      have hafter := habove (schedule ++ [.cycle]) List.prefix_rfl
      rw [play_concat] at hafter ⊢
      exact guards_cycle hrest hbefore hafter
    | key event =>
      rw [play_concat]
      exact hrest

theorem stack_cycle_of_call {m : Machine} (h : Fits "2NNN" m.word) :
    m.cycle.machine.stack = m.stack.push (m.pc + 2) := by
  obtain ⟨target, hi⟩ := Instruction.fits_call_iff.mp h
  have hholds : m.instruction.holds m.keypad = false := by simp [instruction, hi, Instruction.holds]
  rw [machine_cycle_of_not_holds hholds, instruction, hi]
  rfl

theorem cycle_of_leave {m : Machine} (h : Fits "00EE" m.word) (hp : m.stack.pointer ≠ 0) :
    m.cycle.machine.pc = m.stack.pop.2 ∧ m.cycle.machine.stack = m.stack.pop.1 := by
  have hi := Instruction.fits_leave_iff.mp h
  have hholds : m.instruction.holds m.keypad = false := by simp [instruction, hi, Instruction.holds]
  have hleave : m.fetched.leave = { m.fetched with stack := m.stack.pop.1, pc := m.stack.pop.2 } :=
    if_neg hp
  rw [machine_cycle_of_not_holds hholds, instruction, hi, perform, hleave]
  exact ⟨rfl, rfl⟩

/-- The return that matches a call goes on after it and leaves the stack as the call found it,
except that the slot of the return address is cleared. -/
theorem return_of_call (m : Machine) (schedule : List Action) (hcall : Fits "2NNN" m.word)
    (habove : ∀ p, p <+: schedule →
      m.stack.pointer < (m.play (.cycle :: p)).machine.stack.pointer)
    (hpointer : (m.play (.cycle :: schedule)).machine.stack.pointer.val = m.stack.pointer.val + 1)
    (hreturn : Fits "00EE" (m.play (.cycle :: schedule)).machine.word) :
    let returned := (m.play (.cycle :: schedule ++ [.cycle])).machine
    returned.pc = m.pc + 2 ∧ returned.stack.pointer = m.stack.pointer ∧
      (∀ i : Fin 16, i < m.stack.pointer → returned.stack.slots[i] = m.stack.slots[i]) ∧
      returned.stack.slots[m.stack.pointer] = 0 := by
  intro returned
  have hguards : Guards m.stack (m.play (.cycle :: schedule)).machine.stack (m.pc + 2) := by
    rw [play_cycle]
    apply guards_play
    · rw [stack_cycle_of_call hcall]
      exact Stack.guards_push _ _
    · intro p hp
      have h := habove p hp
      rwa [play_cycle] at h
  have hreturned : returned = (m.play (.cycle :: schedule)).machine.cycle.machine :=
    congrArg Run.machine (m.play_concat (.cycle :: schedule) .cycle)
  obtain ⟨hpc, hstack⟩ := cycle_of_leave hreturn (by omega)
  rw [hreturned, hpc, hstack]
  exact hguards.pop hpointer

/-- Two nested calls and their returns, at the start of memory. -/
def nesting : Machine :=
  { create 0 with
    memory := Memory.blank.writeBlock 0 [0x20, 0x06, 0, 0, 0, 0, 0x20, 0x0A, 0, 0xEE, 0, 0xEE]
    pc := 0 }

def innerCall : List Action := [.cycle, .key (.numbered 3 true), .cycle]

theorem return_of_call_nesting :
    Fits "2NNN" nesting.word ∧
    (∀ p, p <+: innerCall →
      nesting.stack.pointer < (nesting.play (.cycle :: p)).machine.stack.pointer) ∧
    (nesting.play (.cycle :: innerCall)).machine.stack.pointer.val = 1 ∧
    Fits "00EE" (nesting.play (.cycle :: innerCall)).machine.word ∧
    (nesting.play (.cycle :: innerCall ++ [.cycle])).machine.pc = 0x002 := by
  have hcall : Fits "2NNN" nesting.word := by decide +kernel
  have habove : ∀ p, p <+: innerCall →
      nesting.stack.pointer < (nesting.play (.cycle :: p)).machine.stack.pointer := by
    intro p hp
    simp only [innerCall, List.prefix_cons_iff, List.prefix_nil] at hp
    rcases hp with rfl | ⟨_, rfl, rfl | ⟨_, rfl, rfl | ⟨_, rfl, rfl⟩⟩⟩ <;> decide +kernel
  have hpointer : (nesting.play (.cycle :: innerCall)).machine.stack.pointer.val = 1 := by
    decide +kernel
  have hreturn : Fits "00EE" (nesting.play (.cycle :: innerCall)).machine.word := by
    decide +kernel
  exact ⟨hcall, habove, hpointer, hreturn,
    (return_of_call nesting innerCall hcall habove hpointer hreturn).1⟩

end Machine

end Chip8
