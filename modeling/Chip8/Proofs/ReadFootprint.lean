import Chip8.Proofs.HeldCycle

/-! What a cycle looks at in memory: the word it fetches, and the cells that a sprite or a load of
registers takes. What the other cells hold makes no difference to anything but themselves. -/

namespace Chip8

namespace Memory

theorem toNat_offset {k : Nat} (hk : k < 4096) : (UInt16.ofNat k).toNat = k :=
  UInt16.toNat_ofNat_of_lt' (by simp [UInt16.size]; omega)

theorem distance_add (a : UInt16) {k : Nat} (hk : k < 4096) :
    distance a (a + UInt16.ofNat k) = k := by
  have ha := a.toNat_lt
  rw [distance_eq, UInt16.toNat_add, toNat_offset hk]
  omega

theorem read_add_distance (m : Memory) (a c : UInt16) :
    m.read (a + UInt16.ofNat (distance a c)) = m.read c := by
  have ha := a.toNat_lt
  have hc := c.toNat_lt
  have hlt : distance a c < 4096 := Nat.mod_lt _ (by decide)
  have hcell : cell (a + UInt16.ofNat (distance a c)) = cell c := by
    rw [cell_eq_iff, UInt16.toNat_add, toNat_offset hlt, distance_eq]
    omega
  simp only [read, hcell]

def block (start : UInt16) (count : Nat) : List UInt16 :=
  (List.range count).map fun k => start + UInt16.ofNat k

theorem mem_block {start : UInt16} {count k : Nat} (hk : k < count) :
    start + UInt16.ofNat k ∈ block start count :=
  List.mem_map_of_mem (List.mem_range.mpr hk)

theorem readBlock_congr {m n : Memory} {start : UInt16} {count : Nat}
    (h : ∀ a ∈ block start count, m.read a = n.read a) :
    m.readBlock start count = n.readBlock start count := by
  apply List.map_congr_left
  intro k hk
  exact h _ (List.mem_map_of_mem hk)

/-- Memories in which the same bytes are written have the same cells there, and wherever they had
them before. -/
theorem read_writeBlock_congr {m n : Memory} {a c : UInt16} {bytes : List UInt8}
    (hlength : bytes.length ≤ 4096) (h : m.read c = n.read c ∨ c ∈ block a bytes.length) :
    (m.writeBlock a bytes).read c = (n.writeBlock a bytes).read c := by
  rw [read_writeBlock m a c bytes hlength, read_writeBlock n a c bytes hlength]
  rcases h with hread | hblock
  · rw [hread]
  · obtain ⟨k, hk, rfl⟩ := List.mem_map.mp hblock
    have hlt : k < bytes.length := List.mem_range.mp hk
    rw [distance_add a (by omega), List.getElem?_eq_getElem hlt]
    rfl

end Memory

namespace Instruction

/-- How many cells an instruction looks at, from the index register on. -/
def reach : Instruction → Nat
  | draw _ _ rows => rows
  | load last => last + 1
  | _ => 0

/-- The bytes that an instruction puts into memory, from the index register on. -/
def stored (registers : Registers) : Instruction → List UInt8
  | decimal x =>
    let value := registers.get x
    [value / 100, value / 10 % 10, value % 10]
  | store last => registers.toList.take (last + 1)
  | _ => []

theorem stored_of_holds {k : Keypad} {i : Instruction} (h : i.holds k = true)
    (registers : Registers) : i.stored registers = [] := by
  cases i with
  | waitForKey x => rfl
  | unknown raw => rfl
  | _ => cases h

theorem length_stored_store (registers : Registers) (last : Register) :
    ((store last).stored registers).length = last + 1 := by
  have hlast := last.isLt
  rw [stored, List.length_take, Vector.length_toList]
  omega

theorem length_stored_le (registers : Registers) (i : Instruction) :
    (i.stored registers).length ≤ 16 := by
  cases i with
  | decimal x => exact Nat.le_add_left 3 13
  | store last =>
    rw [length_stored_store]
    exact last.isLt
  | _ => exact Nat.zero_le 16

end Instruction

namespace Machine

open Memory (block mem_block)
open Instruction (Fits nibble operandsOf_ofWord fits_iff)

theorem loadRegisters_withMemory {m : Machine} {memory : Memory} {last : Register}
    (h : ∀ a ∈ block m.index (last + 1), m.memory.read a = memory.read a) :
    ({ m with memory } : Machine).loadRegisters last = { m.loadRegisters last with memory } := by
  have hbyte (j : Register) (hj : j ≤ last) :
      memory.read (m.index + UInt16.ofNat j) = m.memory.read (m.index + UInt16.ofNat j) :=
    (h _ (mem_block (Nat.lt_succ_of_le hj))).symm
  simp only [loadRegisters]
  congr 2
  funext j
  split
  case isTrue hj => exact hbyte j hj
  case isFalse => rfl

theorem draw_withMemory {m : Machine} {memory : Memory} {x y : Register} {rows : Nat}
    (h : ∀ a ∈ block m.index rows, m.memory.read a = memory.read a) :
    ({ m with memory } : Machine).draw x y rows = { m.draw x y rows with memory } := by
  simp only [draw, Memory.readBlock_congr h]

/-- No instruction looks at any further cell, and what it stores it has from the registers. -/
theorem perform_withMemory {m : Machine} {memory : Memory} {i : Instruction}
    (h : ∀ a ∈ block m.index i.reach, m.memory.read a = memory.read a) :
    ({ m with memory } : Machine).perform i =
      { m.perform i with memory := memory.writeBlock m.index (i.stored m.registers) } := by
  cases i with
  | draw x y rows => exact draw_withMemory h
  | load last => exact loadRegisters_withMemory h
  | compute operation x y => cases operation <;> rfl
  | skipIfByte | skipUnlessByte | skipIfRegister | skipUnlessRegister | skipIfKey | skipUnlessKey
  | leave | waitForKey =>
    simp only [perform, skipIf_eq, leave_eq, waitForKey_eq]
    rfl
  | _ => rfl

theorem cycle_withMemory {m : Machine} {memory : Memory} (hword : memory.word m.pc = m.word)
    (h : ∀ a ∈ block m.index m.instruction.reach, m.memory.read a = memory.read a) :
    ({ m with memory } : Machine).cycle.machine =
      { m.cycle.machine with
        memory := memory.writeBlock m.index (m.instruction.stored m.registers) } := by
  have hi : ({ m with memory } : Machine).instruction = m.instruction :=
    congrArg Instruction.ofWord hword
  rw [machine_cycle_eq m, machine_cycle_eq { m with memory }, hi]
  split
  case isTrue hholds =>
    rw [Instruction.stored_of_holds hholds]
    rfl
  case isFalse =>
    have hperform : ({ m with memory } : Machine).fetched.perform m.instruction = _ :=
      perform_withMemory (m := m.fetched) h
    rw [hperform]
    rfl

def looksAt (m : Machine) : List UInt16 :=
  [m.pc, m.pc + 1] ++
    block m.index
      (if Fits "DXYN" m.word then (nibble m.word.toNat 0).val
        else if Fits "FX65" m.word then (nibble m.word.toNat 2).val + 1 else 0)

def putsAt (m : Machine) : List UInt16 :=
  block m.index
    (if Fits "FX33" m.word then 3
      else if Fits "FX55" m.word then (nibble m.word.toNat 2).val + 1 else 0)

theorem reach_instruction (m : Machine) :
    m.instruction.reach =
      if Fits "DXYN" m.word then (nibble m.word.toNat 0).val
        else if Fits "FX65" m.word then (nibble m.word.toNat 2).val + 1 else 0 := by
  have hoperands := operandsOf_ofWord m.word
  simp (disch := decide) only [fits_iff]
  unfold instruction
  cases hi : Instruction.ofWord m.word with
  | draw x y rows =>
    simp only [hi, Instruction.OperandsOf] at hoperands
    simp [Instruction.row?, Instruction.reach, hoperands]
  | load last =>
    simp only [hi, Instruction.OperandsOf] at hoperands
    simp [Instruction.row?, Instruction.reach, hoperands]
  | compute operation x y => cases operation <;> simp [Instruction.row?, Instruction.reach]
  | _ => simp [Instruction.row?, Instruction.reach]

theorem length_stored (m : Machine) :
    (m.instruction.stored m.registers).length =
      if Fits "FX33" m.word then 3
        else if Fits "FX55" m.word then (nibble m.word.toNat 2).val + 1 else 0 := by
  have hoperands := operandsOf_ofWord m.word
  simp (disch := decide) only [fits_iff]
  unfold instruction
  cases hi : Instruction.ofWord m.word with
  | store last =>
    simp only [hi, Instruction.OperandsOf] at hoperands
    simp [Instruction.row?, Instruction.length_stored_store, hoperands]
  | compute operation x y => cases operation <;> simp [Instruction.row?, Instruction.stored]
  | _ => simp [Instruction.row?, Instruction.stored]

theorem memory_cycle (m : Machine) :
    m.cycle.machine.memory = m.memory.writeBlock m.index (m.instruction.stored m.registers) := by
  have hcycle : ({ m with memory := m.memory } : Machine).cycle.machine = _ :=
    cycle_withMemory rfl fun _ _ => rfl
  exact congrArg Machine.memory hcycle

/-- Machines that differ in memory alone, and not where a cycle looks, go through the cycle in the
same way and differ in memory alone again, at no cell but those that they differed in. -/
theorem read_footprint {m n : Machine} (hsame : n = { m with memory := n.memory })
    (hread : ∀ a ∈ m.looksAt, m.memory.read a = n.memory.read a) :
    n.cycle.machine = { m.cycle.machine with memory := n.cycle.machine.memory } ∧
      n.cycle.warning? = m.cycle.warning? ∧
      ∀ a, m.memory.read a = n.memory.read a ∨ a ∈ m.putsAt →
        m.cycle.machine.memory.read a = n.cycle.machine.memory.read a := by
  have hhigh : m.memory.read m.pc = n.memory.read m.pc := hread _ (by simp [looksAt])
  have hlow : m.memory.read (m.pc + 1) = n.memory.read (m.pc + 1) :=
    hread _ (by simp [looksAt])
  have hreach : ∀ a ∈ block m.index m.instruction.reach, m.memory.read a = n.memory.read a := by
    intro a ha
    rw [reach_instruction] at ha
    exact hread a (List.mem_append_right _ ha)
  have hword : n.memory.word m.pc = m.word := by
    rw [word, Memory.word, Memory.word, hhigh, hlow]
  -- The other memory now stands for the second machine as a whole.
  obtain ⟨memory, rfl⟩ : ∃ memory, n = { m with memory } := ⟨_, hsame⟩
  have hcycle := cycle_withMemory hword hreach
  refine ⟨?_, ?_, fun a ha => ?_⟩
  · rw [hcycle]
  · have hother : ({ m with memory } : Machine).word = m.word := hword
    rw [warning?_cycle, warning?_cycle, hother]
  · have hlength : (m.instruction.stored m.registers).length ≤ 4096 :=
      Nat.le_trans (Instruction.length_stored_le _ _) (by decide)
    rw [putsAt, ← length_stored] at ha
    rw [hcycle, memory_cycle]
    exact Memory.read_writeBlock_congr hlength ha

def wrapping : Machine :=
  { create 0 with
    memory := (Memory.blank.writeBlock 0x200 [0xF1, 0x65]).writeBlock 0xFFF [7, 8]
    index := 0xFFFF }

theorem read_footprint_wrapping :
    let other : Machine := { wrapping with memory := wrapping.memory.write 1 9 }
    other = { wrapping with memory := other.memory } ∧
      (∀ a ∈ wrapping.looksAt, wrapping.memory.read a = other.memory.read a) ∧
      wrapping.looksAt = [0x200, 0x201, 0xFFFF, 0x0000] ∧
      other.cycle.machine =
        { wrapping.cycle.machine with memory := other.cycle.machine.memory } ∧
      other.cycle.machine.registers.get 0 = 7 ∧ other.cycle.machine.registers.get 1 = 8 ∧
      wrapping.memory.read 1 ≠ other.memory.read 1 := by
  intro other
  have hsame : other = { wrapping with memory := other.memory } := rfl
  have hread : ∀ a ∈ wrapping.looksAt, wrapping.memory.read a = other.memory.read a := by
    have hall : wrapping.looksAt.all (fun a => wrapping.memory.read a == other.memory.read a) := by
      decide +kernel
    intro a ha
    exact beq_iff_eq.mp (List.all_eq_true.mp hall a ha)
  obtain ⟨hcycle, -, -⟩ := read_footprint hsame hread
  exact ⟨hsame, hread, by decide +kernel, hcycle, by decide +kernel⟩

end Machine

end Chip8
