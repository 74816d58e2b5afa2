import Chip8.Machine.Cycle
import Chip8.Proofs.Footprint
import Chip8.Proofs.InstructionTable

/-! Cycles that are held on their instruction, and those that are not. A held cycle takes back
the advance of the program counter and skips the timers, so it changes nothing but two flags. -/

namespace Chip8

namespace Instruction

/-- Whether an instruction holds a machine with these keys down. -/
def holds (k : Keypad) : Instruction → Bool
  | waitForKey _ => k.lowest?.isNone
  | unknown _ => true
  | _ => false

theorem holds_ofWord_iff {k : Keypad} {w : UInt16} :
    (ofWord w).holds k = true ↔
      ¬ Known w ∨ Fits "FX0A" w ∧ ∀ key : Fin 16, k[key] = false := by
  rw [fits_waitForKey_iff, ← k.lowest?_eq_none_iff]
  cases hi : ofWord w with
  | unknown raw => simp [holds, (ofWord_eq_unknown_iff.mp hi).1]
  | waitForKey x =>
    have hw : Known w := by simp [known_iff, hi, row?]
    simp [holds, hw]
  | compute operation x y =>
    have hw : Known w := by cases operation <;> simp [known_iff, hi, row?]
    simp [holds, hw]
  | _ =>
    have hw : Known w := by simp [known_iff, hi, row?]
    simp [holds, hw]

end Instruction

namespace Machine

open Instruction (Fits Known)

def word (m : Machine) : UInt16 := m.memory.word m.pc

def instruction (m : Machine) : Instruction := .ofWord m.word

/-- The machine that a cycle hands to its instruction. -/
def fetched (m : Machine) : Machine :=
  { m with pc := m.pc + 2, beep := false, stalled := false }

theorem toNat_word (m : Machine) :
    m.word.toNat = 256 * m.memory.bytes[m.pc.toNat % 4096].toNat +
      m.memory.bytes[(m.pc.toNat + 1) % 4096].toNat := by
  have hhigh := (m.memory.read m.pc).toNat_lt
  have hlow := (m.memory.read (m.pc + 1)).toNat_lt
  rw [word, Memory.word, UInt16.toNat_ofNat_of_lt' (by simp [UInt16.size]; omega)]
  simp [Memory.read, Memory.cell]

theorem perform_of_holds {m : Machine} {i : Instruction} (h : i.holds m.keypad = true) :
    m.perform i = m.hold := by
  cases i with
  | waitForKey x =>
    have hkey : m.keypad.lowest? = none := Option.isNone_iff_eq_none.mp h
    simp [perform, waitForKey, hkey]
  | unknown raw => rfl
  | _ => cases h

theorem stalled_perform (m : Machine) (i : Instruction) :
    (m.perform i).stalled = (m.stalled || i.holds m.keypad) := by
  cases i with
  | unknown raw => simp [perform, hold, Instruction.holds]
  | waitForKey x => simp only [perform, waitForKey_eq, Instruction.holds]
  | _ =>
    simp only [perform, skipIf_eq, compute_eq, leave_eq, Instruction.holds, Bool.or_false] <;> rfl

theorem cycle_eq (m : Machine) :
    m.cycle =
      if (m.fetched.perform m.instruction).stalled then m.fetched.execute m.instruction
      else { m.fetched.execute m.instruction with
        machine := (m.fetched.perform m.instruction).tick } := rfl

theorem stalled_perform_fetched (m : Machine) :
    (m.fetched.perform m.instruction).stalled = m.instruction.holds m.keypad := by
  rw [stalled_perform]
  rfl

theorem machine_cycle_of_holds {m : Machine} (h : m.instruction.holds m.keypad = true) :
    m.cycle.machine = { m with beep := false, stalled := true } := by
  have hheld : m.fetched.perform m.instruction = { m with beep := false, stalled := true } := by
    rw [perform_of_holds (m := m.fetched) h]
    simp [hold, fetched]
  rw [cycle_eq, if_pos (by rw [stalled_perform_fetched, h])]
  exact hheld

theorem machine_cycle_of_not_holds {m : Machine} (h : m.instruction.holds m.keypad = false) :
    m.cycle.machine = (m.fetched.perform m.instruction).tick := by
  rw [cycle_eq, if_neg (by simp [stalled_perform_fetched, h])]

theorem machine_cycle_eq (m : Machine) :
    m.cycle.machine =
      if m.instruction.holds m.keypad then { m with beep := false, stalled := true }
      else (m.fetched.perform m.instruction).tick := by
  split
  case isTrue h => exact machine_cycle_of_holds h
  case isFalse h => exact machine_cycle_of_not_holds (Bool.not_eq_true _ ▸ h)

theorem stalled_cycle (m : Machine) :
    m.cycle.machine.stalled = m.instruction.holds m.keypad := by
  cases h : m.instruction.holds m.keypad with
  | true => rw [machine_cycle_of_holds h]
  | false =>
    rw [machine_cycle_of_not_holds h, ← h, ← stalled_perform_fetched]
    rfl

/-- The cycle of a word `FX..` that does not hold the machine. -/
theorem cycle_of_miscellaneous {m : Machine} {row : String} {i : Register → Instruction}
    (hrow : (row, i) ∈ Instruction.miscellaneous) (hword : Fits row m.word)
    (hholds : (i (Instruction.nibble m.word.toNat 2)).holds m.keypad = false) :
    m.cycle.machine = (m.fetched.perform (i (Instruction.nibble m.word.toNat 2))).tick ∧
      m.cycle.machine.stalled = false := by
  have hi : m.instruction = i (Instruction.nibble m.word.toNat 2) :=
    (Instruction.fits_miscellaneous_iff hrow).mp hword
  rw [stalled_cycle, machine_cycle_of_not_holds (by rw [hi, hholds]), hi, hholds]
  exact ⟨rfl, rfl⟩

theorem warning?_execute (m : Machine) (w : UInt16) :
    (m.execute (.ofWord w)).warning? = if Known w then none else some ⟨w.toNat, m.pc - 2⟩ := by
  unfold execute
  split
  case h_1 raw hi =>
    obtain ⟨hw, rfl⟩ := Instruction.ofWord_eq_unknown_iff.mp hi
    rw [if_neg hw]
  case h_2 hi =>
    have hw : Known w := by
      by_contra hw
      exact hi _ (Instruction.ofWord_eq_unknown_iff.mpr ⟨hw, rfl⟩)
    rw [if_pos hw]

theorem warning?_cycle (m : Machine) :
    m.cycle.warning? = if Known m.word then none else some ⟨m.word.toNat, m.pc⟩ := by
  have hcycle : m.cycle.warning? = (m.fetched.execute m.instruction).warning? := by
    rw [cycle_eq]
    split <;> rfl
  have hpc : m.fetched.pc - 2 = m.pc := by simp [fetched]
  rw [hcycle, instruction, warning?_execute, hpc]

/-- A cycle is held exactly on a word outside the table and on `FX0A` while no key is down. It
leaves everything but two flags as it was, and only a word outside the table is warned of. -/
theorem held_cycle (m : Machine) :
    m.word.toNat = 256 * m.memory.bytes[m.pc.toNat % 4096].toNat +
        m.memory.bytes[(m.pc.toNat + 1) % 4096].toNat ∧
      (m.cycle.machine.stalled = true ↔
        ¬ Known m.word ∨ Fits "FX0A" m.word ∧ ∀ key : Fin 16, m.keypad[key] = false) ∧
      (m.cycle.machine.stalled = true →
        m.cycle.machine = { m with beep := false, stalled := true }) ∧
      m.cycle.warning? = if Known m.word then none else some ⟨m.word.toNat, m.pc⟩ := by
  refine ⟨m.toNat_word, ?_, ?_, m.warning?_cycle⟩
  · rw [stalled_cycle]
    exact Instruction.holds_ofWord_iff
  · intro h
    rw [stalled_cycle] at h
    exact machine_cycle_of_holds h

end Machine

end Chip8
