import Chip8.Proofs.RegisterBlock

/-! A register stored as its three decimal digits, and the digits loaded again. The load may
overwrite that very register, but by then its digits are in memory. -/

namespace Chip8

theorem decimal_byte (value : UInt8) :
    value / 100 ≤ 9 ∧ value / 10 % 10 ≤ 9 ∧ value % 10 ≤ 9 ∧
      100 * (value / 100).toNat + 10 * (value / 10 % 10).toNat + (value % 10).toNat =
        value.toNat := by
  have hvalue := value.toNat_lt
  have hhundreds : (value / 100).toNat = value.toNat / 100 := UInt8.toNat_div _ _
  have htens : (value / 10 % 10).toNat = value.toNat / 10 % 10 := by
    rw [UInt8.toNat_mod, UInt8.toNat_div]
    rfl
  have hunits : (value % 10).toNat = value.toNat % 10 := UInt8.toNat_mod _ _
  simp only [UInt8.le_iff_toNat_le, hhundreds, htens, hunits, UInt8.reduceToNat]
  omega

namespace Machine

theorem execute_decimal (m : Machine) (x : Register) :
    (m.execute (.ofWord (Instruction.assemble 0xF x 0x3 0x3))).machine =
      { m with
        memory := m.memory.writeBlock m.index ((Instruction.decimal x).stored m.registers) } := by
  rw [Instruction.ofWord_assemble_decimal]
  rfl

/-- A load takes the bytes that were written where it looks. -/
theorem get_loadRegisters_of_written {m k : Machine} {bytes : List UInt8}
    (hlength : bytes.length ≤ 4096) (hmemory : k.memory = m.memory.writeBlock m.index bytes)
    (hindex : k.index = m.index) {last j : Register} (hj : j ≤ last) {b : UInt8}
    (hbyte : bytes[j.val]? = some b) : (k.loadRegisters last).registers.get j = b := by
  rw [get_loadRegisters, if_pos hj, hmemory, hindex]
  apply Memory.read_writeBlock_of_getElem? hlength
  rw [Memory.distance_add _ (by omega), hbyte]

/-- The digits go to three cells, and nowhere else. A load brings them to the first three registers,
whatever has become of the registers before. -/
theorem decimal_digits (m : Machine) (x : Register) :
    let store := Instruction.ofWord (Instruction.assemble 0xF x 0x3 0x3)
    let load := Instruction.ofWord (Instruction.assemble 0xF 0x2 0x6 0x5)
    let stored := (m.execute store).machine
    ∃ hundreds tens units : UInt8,
      hundreds ≤ 9 ∧ tens ≤ 9 ∧ units ≤ 9 ∧
      100 * hundreds.toNat + 10 * tens.toNat + units.toNat = (m.registers.get x).toNat ∧
      stored.memory.bytes[m.place 0]? = some hundreds ∧
      stored.memory.bytes[m.place 1]? = some tens ∧
      stored.memory.bytes[m.place 2]? = some units ∧
      (∀ a : Nat, (∀ offset < 3, a ≠ m.place offset) →
        stored.memory.bytes[a]? = m.memory.bytes[a]?) ∧
      stored = { m with memory := stored.memory } ∧
      ∀ changed : Machine, changed.memory = stored.memory → changed.index = m.index →
        let loaded := (changed.execute load).machine
        loaded.registers.get 0 = hundreds ∧ loaded.registers.get 1 = tens ∧
          loaded.registers.get 2 = units ∧
          (∀ j > 2, loaded.registers.get j = changed.registers.get j) ∧
          loaded = { changed with registers := loaded.registers } := by
  intro store load stored
  let value := m.registers.get x
  let digits := [value / 100, value / 10 % 10, value % 10]
  have hstored : stored = { m with memory := m.memory.writeBlock m.index digits } :=
    m.execute_decimal x
  have hmemory : stored.memory = m.memory.writeBlock m.index digits := by rw [hstored]
  have hroom : digits.length ≤ 4096 := Nat.le_add_left 3 4093
  have hcell (offset : Nat) (h : offset < 3) :
      stored.memory.bytes[m.place offset]? = digits[offset]? := by
    rw [hmemory]
    exact m.memory.getElem?_writeBlock m.index hroom h
  obtain ⟨hhundreds, htens, hunits, hsum⟩ := decimal_byte value
  refine ⟨_, _, _, hhundreds, htens, hunits, hsum, hcell 0 (by decide), hcell 1 (by decide),
    hcell 2 (by decide), ?_, ?_, ?_⟩
  · intro a hother
    rw [hmemory]
    exact m.memory.getElem?_writeBlock_of_ne m.index hroom hother
  · rw [hstored]
  · intro changed hchanged hindex loaded
    have hloaded : loaded = changed.loadRegisters 2 := changed.execute_load 2
    have hwritten := hchanged.trans hmemory
    rw [hloaded]
    refine ⟨get_loadRegisters_of_written hroom hwritten hindex (by decide) rfl,
      get_loadRegisters_of_written hroom hwritten hindex (by decide) rfl,
      get_loadRegisters_of_written hroom hwritten hindex (by decide) rfl, ?_, rfl⟩
    intro j hj
    rw [get_loadRegisters, if_neg (Fin.not_le.mpr hj)]

/-- The digits of the second register go to the last cell and the first two. -/
def counting : Machine :=
  { create 0 with
    registers := #v[7, 254, 9, 8, 0, 0, 0, 0, 0, 0, 0, 0, 0, 0, 0, 0]
    index := 0xFFFF }

theorem decimal_digits_counting :
    let stored := (counting.execute (.ofWord (Instruction.assemble 0xF 0x1 0x3 0x3))).machine
    let changed := { stored with registers := Vector.replicate 16 0, pc := 0x300 }
    let loaded := (changed.execute (.ofWord (Instruction.assemble 0xF 0x2 0x6 0x5))).machine
    stored.memory.bytes[0xFFF]? = some 2 ∧ stored.memory.bytes[0x000]? = some 5 ∧
      stored.memory.bytes[0x001]? = some 4 ∧
      (∀ offset < 3, 0x002 ≠ counting.place offset) ∧
      stored.memory.bytes[0x002]? = counting.memory.bytes[0x002]? ∧
      changed.memory = stored.memory ∧ changed.index = counting.index ∧
      loaded.registers.get 0x0 = 2 ∧ loaded.registers.get 0x1 = 5 ∧
      loaded.registers.get 0x2 = 4 ∧
      (0x3 : Register) > 0x2 ∧ loaded.registers.get 0x3 = 0 ∧ loaded.pc = 0x300 := by
  intro stored changed loaded
  obtain ⟨hundreds, tens, units, hhundreds, htens, hunits, hsum, hfirst, hsecond, hthird, hother,
    hstored, hload⟩ := decimal_digits counting 0x1
  have hvalue : (counting.registers.get 0x1).toNat = 254 := rfl
  rw [hvalue] at hsum
  simp only [UInt8.le_iff_toNat_le, UInt8.reduceToNat] at hhundreds htens hunits
  obtain rfl : hundreds = 2 := UInt8.toNat_inj.mp (show hundreds.toNat = 2 by omega)
  obtain rfl : tens = 5 := UInt8.toNat_inj.mp (show tens.toNat = 5 by omega)
  obtain rfl : units = 4 := UInt8.toNat_inj.mp (show units.toNat = 4 by omega)
  have hne : ∀ offset < 3, 0x002 ≠ counting.place offset := by decide
  have hindex : changed.index = counting.index := (congrArg Machine.index hstored).trans rfl
  obtain ⟨h0, h1, h2, hlast, hloaded⟩ := hload changed rfl hindex
  have hgt : (0x3 : Register) > 0x2 := by decide
  exact ⟨hfirst, hsecond, hthird, hne, hother 0x002 hne, rfl, hindex, h0, h1, h2, hgt,
    hlast 0x3 hgt, congrArg Machine.pc hloaded⟩

end Machine

end Chip8
