import Chip8.Proofs.MatchedCall
import Chip8.Proofs.ProgramImage
import Chip8.Proofs.WriteFootprint
import Mathlib.Logic.Basic

/-! Where the program counter goes in a cycle. It is advanced once by the fetch, and then a second
time, overwritten or taken back by the instruction, all of it in sixteen bits. -/

namespace Chip8

namespace Instruction

/-- Where a machine goes on from an instruction that does not hold it. -/
def destination (m : Machine) : Instruction → UInt16
  | jump target => UInt16.ofNat target
  | call target => UInt16.ofNat target
  | jumpFromFirst base => UInt16.ofNat base + (m.registers.get 0).toUInt16
  | leave => if m.stack.pointer = 0 then m.pc + 2 else m.stack.slots.get (m.stack.pointer - 1)
  | i => if i.skips m then m.pc + 4 else m.pc + 2

section Assembled

variable (o x y n : Fin 16)

theorem nn_assemble :
    (Fields.ofInt (assemble o x y n).toNat).nn = UInt8.ofNat (0x10 * y + n) := by
  obtain ⟨-, -, -, -, hnn⟩ := fields_assemble o x y n
  rw [← hnn, UInt8.ofNat_toNat]

theorem ofWord_assemble_skipIfByte :
    ofWord (assemble 0x3 x y n) = skipIfByte x (UInt8.ofNat (0x10 * y + n)) := by
  obtain ⟨hopcode, hx, -, -, -⟩ := fields_assemble 0x3 x y n
  simp only [ofWord, ofInt, ofFields, hopcode, hx, nn_assemble]
  rfl

theorem ofWord_assemble_skipUnlessByte :
    ofWord (assemble 0x4 x y n) = skipUnlessByte x (UInt8.ofNat (0x10 * y + n)) := by
  obtain ⟨hopcode, hx, -, -, -⟩ := fields_assemble 0x4 x y n
  simp only [ofWord, ofInt, ofFields, hopcode, hx, nn_assemble]
  rfl

theorem ofWord_assemble_skipIfRegister :
    ofWord (assemble 0x5 x y n) = skipIfRegister x y := by
  obtain ⟨hopcode, hx, hy, -, -⟩ := fields_assemble 0x5 x y n
  simp only [ofWord, ofInt, ofFields, hopcode, hx, hy]
  rfl

theorem ofWord_assemble_skipUnlessRegister :
    ofWord (assemble 0x9 x y n) = skipUnlessRegister x y := by
  obtain ⟨hopcode, hx, hy, -, -⟩ := fields_assemble 0x9 x y n
  simp only [ofWord, ofInt, ofFields, hopcode, hx, hy]
  rfl

theorem ofWord_assemble_skipIfKey : ofWord (assemble 0xE x 0x9 0xE) = skipIfKey x := by
  obtain ⟨hopcode, hx, -, -, hnn⟩ := fields_assemble 0xE x 0x9 0xE
  simp only [ofWord, ofInt, ofFields, ofKeySkip, hopcode, hx, hnn]
  rfl

theorem ofWord_assemble_skipUnlessKey : ofWord (assemble 0xE x 0xA 0x1) = skipUnlessKey x := by
  obtain ⟨hopcode, hx, -, -, hnn⟩ := fields_assemble 0xE x 0xA 0x1
  simp only [ofWord, ofInt, ofFields, ofKeySkip, hopcode, hx, hnn]
  rfl

end Assembled

end Instruction

namespace Machine

open Instruction (Fits fits_iff operandsOf_ofWord OperandsOf assemble)

theorem pc_skipIf (m : Machine) (condition : Bool) :
    (m.fetched.skipIf condition).pc = if condition then m.pc + 4 else m.pc + 2 := by
  have hsum : m.pc + 2 + 2 = m.pc + 4 := UInt16.add_assoc m.pc 2 2
  rw [skipIf_eq, ← hsum]
  rfl

theorem pc_perform_fetched {m : Machine} {i : Instruction} (h : i.holds m.keypad = false) :
    (m.fetched.perform i).pc = i.destination m := by
  cases i with
  | unknown raw => cases h
  | waitForKey x =>
    have hkey : m.keypad.lowest?.isNone = false := h
    simp only [perform, waitForKey_eq]
    exact if_neg (by simp [fetched, hkey])
  | leave =>
    simp only [perform, leave_eq]
    rfl
  | compute operation x y => cases operation <;> rfl
  | skipIfByte x value => exact m.pc_skipIf _
  | skipUnlessByte x value => exact m.pc_skipIf _
  | skipIfRegister x y => exact m.pc_skipIf _
  | skipUnlessRegister x y => exact m.pc_skipIf _
  | skipIfKey x => exact m.pc_skipIf _
  | skipUnlessKey x => exact m.pc_skipIf _
  | _ => rfl

theorem pc_cycle (m : Machine) :
    m.cycle.machine.pc = if m.cycle.machine.stalled then m.pc else m.instruction.destination m := by
  rw [stalled_cycle]
  cases h : m.instruction.holds m.keypad with
  | true => rw [machine_cycle_of_holds h, if_pos rfl]
  | false =>
    rw [machine_cycle_of_not_holds h, if_neg Bool.false_ne_true]
    exact pc_perform_fetched h

instance (m : Machine) (w : UInt16) : Decidable (m.Returns w) :=
  inferInstanceAs (Decidable (Fits "00EE" w ∧ m.stack.pointer ≠ 0))

instance (m : Machine) (w : UInt16) : Decidable (m.Skips w) :=
  inferInstanceAs (Decidable (_ ∧ _ ∨ _ ∧ _ ∨ _ ∧ _ ∨ _ ∧ _ ∨ _ ∧ _ ∨ _ ∧ _))

theorem toNat_address (address : Fin 4096) : (UInt16.ofNat address).toNat = address :=
  Memory.toNat_offset address.isLt

theorem toNat_address_add (base : Fin 4096) (offset : UInt8) :
    (UInt16.ofNat base + offset.toUInt16).toNat = base + offset.toNat := by
  have hoffset := offset.toNat_lt
  have hsum := UInt16.toNat_add (UInt16.ofNat base) offset.toUInt16
  rw [toNat_address, UInt8.toNat_toUInt16] at hsum
  omega

theorem toNat_step (m : Machine) (skipped : Bool) :
    (if skipped then m.pc + 4 else m.pc + 2).toNat =
      if skipped then (m.pc.toNat + 4) % 0x10000 else (m.pc.toNat + 2) % 0x10000 := by
  cases skipped <;> exact UInt16.toNat_add _ _

theorem toNat_destination (m : Machine) (w : UInt16) :
    ((Instruction.ofWord w).destination m).toNat =
      if Fits "1NNN" w ∨ Fits "2NNN" w then w.toNat % 0x1000
      else if Fits "BNNN" w then w.toNat % 0x1000 + (m.registers.get 0).toNat
      else if m.Returns w then (m.stack.slots.get (m.stack.pointer - 1)).toNat
      else if m.Skips w then (m.pc.toNat + 4) % 0x10000
      else (m.pc.toNat + 2) % 0x10000 := by
  have hoperands := operandsOf_ofWord w
  have hskips : m.Skips w ↔ (Instruction.ofWord w).skips m = true := skips_ofWord_iff.symm
  have hreturns : m.Returns w ↔ (Instruction.ofWord w).row? = some "00EE" ∧ m.stack.pointer ≠ 0 := by
    rw [Returns, fits_iff (by decide)]
  simp (disch := decide) only [fits_iff, hskips, hreturns]
  cases hi : Instruction.ofWord w with
  | jump target =>
    rw [hi] at hoperands
    rw [if_pos (.inl rfl)]
    exact (toNat_address target).trans hoperands
  | call target =>
    rw [hi] at hoperands
    rw [if_pos (.inr rfl)]
    exact (toNat_address target).trans hoperands
  | jumpFromFirst base =>
    rw [hi] at hoperands
    have hbase : base.val = w.toNat % 0x1000 := hoperands
    simp only [Instruction.row?, Option.some.injEq, String.reduceEq, or_self, if_true, if_false]
    rw [← hbase]
    exact toNat_address_add base _
  | leave =>
    simp only [Instruction.row?, Option.some.injEq, String.reduceEq, or_self, if_false, true_and,
      Instruction.skips, Bool.false_eq_true]
    by_cases hempty : m.stack.pointer = 0
    · have hnext : Instruction.leave.destination m = m.pc + 2 := if_pos hempty
      rw [hnext, if_neg (not_not_intro hempty)]
      exact UInt16.toNat_add _ _
    · have hback : Instruction.leave.destination m = m.stack.slots.get (m.stack.pointer - 1) :=
        if_neg hempty
      rw [hback, if_pos hempty]
  | compute operation x y => cases operation <;> exact m.toNat_step _
  | _ => exact m.toNat_step _

theorem stack_call {m : Machine} (h : Fits "2NNN" m.word) :
    m.cycle.machine.stack.pointer.val = (m.stack.pointer.val + 1) % 16 ∧
      ∀ slot, m.cycle.machine.stack.slots.get slot =
        if slot = m.stack.pointer then m.pc + 2 else m.stack.slots.get slot := by
  rw [stack_cycle_of_call h]
  refine ⟨?_, fun slot => m.stack.get_push slot (m.pc + 2)⟩
  simp only [Stack.push]
  omega

theorem stack_return {m : Machine} (h : m.Returns m.word) :
    m.cycle.machine.stack.pointer.val = m.stack.pointer.val - 1 ∧
      ∀ slot, m.cycle.machine.stack.slots.get slot =
        if slot = m.stack.pointer - 1 then 0 else m.stack.slots.get slot := by
  rw [(cycle_of_leave h.1 h.2).2]
  refine ⟨?_, fun slot => m.stack.get_pop slot⟩
  have hsome := h.2
  simp only [Stack.pop]
  omega

/-- The machine with a word put where it fetches. -/
def facing (m : Machine) (w : UInt16) : Machine :=
  { m with memory := m.memory.writeBlock m.pc (Memory.wordBytes w) }

/-- A word is a skip that is taken. -/
def StepsOver (m : Machine) (w : UInt16) : Prop := (m.facing w).cycle.machine.pc = m.pc + 4

theorem word_facing (m : Machine) (w : UInt16) : (m.facing w).word = w := by
  have hnear : Memory.distance m.pc (m.facing w).pc = 0 := by
    rw [Memory.distance, facing, UInt16.sub_self]
    rfl
  have hlength : (Memory.wordBytes w).length ≤ 4096 := Nat.le_add_left 2 4094
  apply Memory.word_writeBlock hlength
  · rw [hnear]
    rfl
  · rw [hnear]
    rfl

theorem stepsOver_iff (m : Machine) {w : UInt16} {i : Instruction}
    (hi : Instruction.ofWord w = i) (hholds : ∀ k, i.holds k = false)
    (hskip : ∀ k : Machine, i.destination k = if i.skips k then k.pc + 4 else k.pc + 2) :
    m.StepsOver w ↔ i.skips (m.facing w) = true := by
  have hinstruction : (m.facing w).instruction = i := by rw [instruction, word_facing, hi]
  have hne : m.pc + 2 ≠ m.pc + 4 := by simp
  rw [StepsOver, pc_cycle, stalled_cycle, hinstruction, hholds, if_neg Bool.false_ne_true, hskip]
  cases i.skips (m.facing w) with
  | true => simp [facing]
  | false => simp [facing, hne]

section Skips

variable (m : Machine) (x y n : Fin 16)

theorem stepsOver_skipIfByte :
    m.StepsOver (assemble 0x3 x y n) ↔ m.registers.get x = UInt8.ofNat (0x10 * y + n) := by
  rw [m.stepsOver_iff (Instruction.ofWord_assemble_skipIfByte x y n) (fun _ => rfl) fun _ => rfl]
  exact beq_iff_eq

theorem stepsOver_skipUnlessByte :
    m.StepsOver (assemble 0x4 x y n) ↔ m.registers.get x ≠ UInt8.ofNat (0x10 * y + n) := by
  rw [m.stepsOver_iff (Instruction.ofWord_assemble_skipUnlessByte x y n) (fun _ => rfl)
    fun _ => rfl]
  exact bne_iff_ne

theorem stepsOver_skipIfRegister :
    m.StepsOver (assemble 0x5 x y n) ↔ m.registers.get x = m.registers.get y := by
  rw [m.stepsOver_iff (Instruction.ofWord_assemble_skipIfRegister x y n) (fun _ => rfl)
    fun _ => rfl]
  exact beq_iff_eq

theorem stepsOver_skipUnlessRegister :
    m.StepsOver (assemble 0x9 x y n) ↔ m.registers.get x ≠ m.registers.get y := by
  rw [m.stepsOver_iff (Instruction.ofWord_assemble_skipUnlessRegister x y n) (fun _ => rfl)
    fun _ => rfl]
  exact bne_iff_ne

theorem stepsOver_skipIfKey :
    m.StepsOver (assemble 0xE x 0x9 0xE) ↔
      m.keypad.get (Fin.ofNat 16 (m.registers.get x).toNat) = true := by
  rw [m.stepsOver_iff (Instruction.ofWord_assemble_skipIfKey x) (fun _ => rfl) fun _ => rfl]
  exact Iff.rfl

theorem stepsOver_skipUnlessKey :
    m.StepsOver (assemble 0xE x 0xA 0x1) ↔
      ¬ m.keypad.get (Fin.ofNat 16 (m.registers.get x).toNat) = true := by
  rw [m.stepsOver_iff (Instruction.ofWord_assemble_skipUnlessKey x) (fun _ => rfl) fun _ => rfl]
  exact (Iff.of_eq (Bool.not_eq_true' _)).trans Bool.eq_false_iff

end Skips

/-- A cycle goes on at the word it was held on, at the target of a jump or call, at the address a
return finds, or after one or two words. Of two skips on opposite conditions one is always taken. -/
theorem control_transfer (m : Machine) :
    (m.cycle.machine.pc.toNat =
      if m.cycle.machine.stalled then m.pc.toNat
      else if Fits "1NNN" m.word ∨ Fits "2NNN" m.word then m.word.toNat % 0x1000
      else if Fits "BNNN" m.word then m.word.toNat % 0x1000 + (m.registers.get 0).toNat
      else if m.Returns m.word then (m.stack.slots.get (m.stack.pointer - 1)).toNat
      else if m.Skips m.word then (m.pc.toNat + 4) % 0x10000
      else (m.pc.toNat + 2) % 0x10000) ∧
    (Fits "2NNN" m.word →
      m.cycle.machine.stack.pointer.val = (m.stack.pointer.val + 1) % 16 ∧
        ∀ slot, m.cycle.machine.stack.slots.get slot =
          if slot = m.stack.pointer then m.pc + 2 else m.stack.slots.get slot) ∧
    (m.Returns m.word →
      m.cycle.machine.stack.pointer.val = m.stack.pointer.val - 1 ∧
        ∀ slot, m.cycle.machine.stack.slots.get slot =
          if slot = m.stack.pointer - 1 then 0 else m.stack.slots.get slot) ∧
    ∀ x y n k : Fin 16,
      Xor (m.StepsOver (assemble 0x3 x y n)) (m.StepsOver (assemble 0x4 x y n)) ∧
        Xor (m.StepsOver (assemble 0x5 x y n)) (m.StepsOver (assemble 0x9 x y k)) ∧
        Xor (m.StepsOver (assemble 0xE x 0x9 0xE)) (m.StepsOver (assemble 0xE x 0xA 0x1)) ∧
        (m.StepsOver (assemble 0xE x 0x9 0xE) ↔
          m.keypad.get (Fin.ofNat 16 (m.registers.get x).toNat) = true) := by
  refine ⟨?_, stack_call, stack_return, ?_⟩
  · rw [pc_cycle, apply_ite UInt16.toNat, instruction, toNat_destination]
  · intro x y n k
    refine ⟨?_, ?_, ?_, m.stepsOver_skipIfKey x⟩
    · rw [xor_iff_not_iff', stepsOver_skipIfByte, stepsOver_skipUnlessByte]
    · rw [xor_iff_not_iff', stepsOver_skipIfRegister, stepsOver_skipUnlessRegister]
    · rw [xor_iff_not_iff', stepsOver_skipIfKey, stepsOver_skipUnlessKey]

/-- Fetches over both ends of memory, with the stack at its last slot. -/
def cornered : Machine :=
  { create 0 with pc := 0xFFFF, stack := ⟨Vector.replicate 16 0x0300, 15⟩ }

theorem control_transfer_cornered :
    let calling := cornered.facing 0x2ABC
    let returning := cornered.facing 0x00EE
    Fits "2NNN" calling.word ∧ calling.cycle.machine.pc.toNat = 0xABC ∧
      calling.cycle.machine.stack.pointer.val = 0 ∧
      calling.cycle.machine.stack.slots.get 15 = 0x0001 ∧
      returning.Returns returning.word ∧ returning.cycle.machine.pc.toNat = 0x0300 ∧
      returning.cycle.machine.stack.pointer.val = 14 ∧
      returning.cycle.machine.stack.slots.get 14 = 0 := by
  intro calling returning
  obtain ⟨hcallingPc, hcallingStack, -, -⟩ := control_transfer calling
  obtain ⟨hreturningPc, -, hreturningStack, -⟩ := control_transfer returning
  have hcall : Fits "2NNN" calling.word := by
    rw [word_facing]
    decide
  have hreturn : returning.Returns returning.word := by
    rw [word_facing]
    decide
  obtain ⟨hcallingPointer, hcallingSlots⟩ := hcallingStack hcall
  obtain ⟨hreturningPointer, hreturningSlots⟩ := hreturningStack hreturn
  refine ⟨hcall, hcallingPc.trans ?_, hcallingPointer.trans ?_, (hcallingSlots 15).trans ?_,
    hreturn, hreturningPc.trans ?_, hreturningPointer.trans ?_, (hreturningSlots 14).trans ?_⟩
  all_goals decide +kernel

end Machine

end Chip8
