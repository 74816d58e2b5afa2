import Chip8.Machine.Execute

/-! What an instruction leaves alone. The effects with a condition are first written as plain
updates of the fields they can touch. -/

namespace Chip8

theorem get_set {α : Type} {n : Nat} (v : Vector α n) (i j : Fin n) (a : α) :
    (v.set i a i.isLt).get j = if j = i then a else v.get j := by
  by_cases h : j = i
  · rw [if_pos h, h]
    exact Vector.getElem_set_self i.isLt
  · have hne : i.val ≠ j.val := fun hval => h (Fin.ext hval.symm)
    rw [if_neg h]
    exact Vector.getElem_set_ne i.isLt j.isLt hne

namespace Stack

variable (s : Stack) (slot : Fin 16)

theorem get_push (address : UInt16) :
    (s.push address).slots.get slot = if slot = s.pointer then address else s.slots.get slot :=
  get_set s.slots s.pointer slot address

theorem get_pop :
    s.pop.1.slots.get slot = if slot = s.pointer - 1 then 0 else s.slots.get slot :=
  get_set s.slots (s.pointer - 1) slot 0

end Stack

namespace Machine

theorem skipIf_eq (m : Machine) (condition : Bool) :
    m.skipIf condition = { m with pc := if condition then m.pc + 2 else m.pc } := by
  cases condition <;> rfl

theorem compute_eq (m : Machine) (operation : Operation) (x y : Register) :
    m.compute operation x y =
      { m with
        registers :=
          (((operation.flag? (m.registers.get x) (m.registers.get y)).elim m
            (m.setRegister 0xF)).setRegister x
              (operation.result (m.registers.get x) (m.registers.get y))).registers } := by
  cases operation <;> rfl

theorem leave_eq (m : Machine) :
    m.leave =
      { m with
        stack := if m.stack.pointer = 0 then m.stack else m.stack.pop.1
        pc := if m.stack.pointer = 0 then m.pc else m.stack.pop.2 } := by
  unfold leave
  split <;> rfl

theorem waitForKey_eq (m : Machine) (x : Register) :
    m.waitForKey x =
      { m with
        registers :=
          m.keypad.lowest?.elim m.registers fun key => (m.setRegister x (UInt8.ofNat key)).registers
        pc := if m.keypad.lowest?.isNone then m.pc - 2 else m.pc
        stalled := m.stalled || m.keypad.lowest?.isNone } := by
  unfold waitForKey
  cases m.keypad.lowest? <;> simp [setRegister, hold]

theorem delay_perform (m : Machine) {i : Instruction} (h : ∀ x, i ≠ .setDelay x) :
    (m.perform i).delay = m.delay := by
  cases i with
  | setDelay x => exact absurd rfl (h x)
  | _ => simp only [perform, skipIf_eq, compute_eq, leave_eq, waitForKey_eq] <;> rfl

theorem sound_perform (m : Machine) {i : Instruction} (h : ∀ x, i ≠ .setSound x) :
    (m.perform i).sound = m.sound := by
  cases i with
  | setSound x => exact absurd rfl (h x)
  | _ => simp only [perform, skipIf_eq, compute_eq, leave_eq, waitForKey_eq] <;> rfl

theorem random_perform (m : Machine) {i : Instruction} (h : ∀ x value, i ≠ .random x value) :
    (m.perform i).random = m.random := by
  cases i with
  | random x value => exact absurd rfl (h x value)
  | _ => simp only [perform, skipIf_eq, compute_eq, leave_eq, waitForKey_eq] <;> rfl

/-- Only a call pushes, and only a return that finds an address pops. -/
theorem stack_perform (m : Machine) (i : Instruction) :
    (m.perform i).stack = m.stack ∨
      ((∃ target, i = .call target) ∧ (m.perform i).stack = m.stack.push m.pc) ∨
      (m.stack.pointer ≠ 0 ∧ (m.perform i).stack = m.stack.pop.1) := by
  cases i with
  | call target => exact .inr (.inl ⟨⟨target, rfl⟩, rfl⟩)
  | leave =>
    simp only [perform, leave_eq]
    split
    case isTrue hempty => exact .inl rfl
    case isFalse hsome => exact .inr (.inr ⟨hsome, rfl⟩)
  | _ =>
    left
    simp only [perform, skipIf_eq, compute_eq, waitForKey_eq] <;> rfl

end Machine

end Chip8
