import Chip8.Proofs.ReadFootprint
import Mathlib.Data.List.FinRange

/-! Registers stored in memory as a block, and loaded from it. The block may run past the end of
memory, but it is too short to come round to itself, so each register has a cell of its own. -/

namespace Chip8

namespace Memory

theorem getElem?_bytes (m : Memory) (a : UInt16) : m.bytes[a.toNat % 4096]? = some (m.read a) :=
  Vector.getElem?_eq_getElem (cell a).isLt

theorem getElem?_bytes_of_lt (m : Memory) {a : Nat} (ha : a < 4096) :
    m.bytes[a]? = some (m.read (UInt16.ofNat a)) := by
  have h := m.getElem?_bytes (UInt16.ofNat a)
  rwa [toNat_offset ha, Nat.mod_eq_of_lt ha] at h

theorem read_writeBlock_of_getElem? {m : Memory} {a c : UInt16} {bytes : List UInt8} {b : UInt8}
    (hlength : bytes.length ≤ 4096) (h : bytes[distance a c]? = some b) :
    (m.writeBlock a bytes).read c = b := by
  rw [read_writeBlock m a c bytes hlength, h]
  rfl

/-- A block goes to the cells from its address on, and round the end of memory. -/
theorem getElem?_writeBlock (m : Memory) (a : UInt16) {bytes : List UInt8}
    (hlength : bytes.length ≤ 4096) {i : Nat} (hi : i < bytes.length) :
    (m.writeBlock a bytes).bytes[(a.toNat + i) % 4096]? = bytes[i]? := by
  have hplace : (a + UInt16.ofNat i).toNat % 4096 = (a.toNat + i) % 4096 := by
    rw [UInt16.toNat_add, toNat_offset (by omega)]
    omega
  have hbyte : bytes[distance a (a + UInt16.ofNat i)]? = some bytes[i] := by
    rw [distance_add a (by omega)]
    exact List.getElem?_eq_getElem hi
  rw [← hplace, getElem?_bytes, read_writeBlock_of_getElem? hlength hbyte,
    List.getElem?_eq_getElem hi]

theorem getElem?_writeBlock_of_ne (m : Memory) (a : UInt16) {bytes : List UInt8}
    (hlength : bytes.length ≤ 4096) {c : Nat}
    (hother : ∀ i < bytes.length, c ≠ (a.toNat + i) % 4096) :
    (m.writeBlock a bytes).bytes[c]? = m.bytes[c]? := by
  by_cases hin : c < 4096
  · have hword : (UInt16.ofNat c).toNat = c := toNat_offset hin
    have hfar : bytes.length ≤ distance a (UInt16.ofNat c) := by
      by_contra hnear
      refine hother _ (Nat.not_le.mp hnear) ?_
      rw [distance_eq, hword]
      omega
    rw [getElem?_bytes_of_lt _ hin, getElem?_bytes_of_lt _ hin, read_writeBlock _ _ _ _ hlength,
      List.getElem?_eq_none hfar]
    rfl
  · rw [Vector.getElem?_eq_none (by omega), Vector.getElem?_eq_none (by omega)]

/-- To write the first `k` bytes is to write all of them, but for the others what is there. -/
theorem writeBlock_take (m : Memory) (a : UInt16) (bytes : List UInt8)
    (hlength : bytes.length ≤ 4096) (k : Nat) :
    m.writeBlock a (bytes.take k) =
      m.writeBlock a
        (bytes.mapIdx fun i b => if i < k then b else m.read (a + UInt16.ofNat i)) := by
  refine ext fun c => ?_
  rw [read_writeBlock _ _ _ _ (by simp; omega), read_writeBlock _ _ _ _ (by simpa using hlength),
    List.getElem?_take, List.getElem?_mapIdx]
  by_cases hd : distance a c < k
  · simp [hd]
  · cases bytes[distance a c]? with
    | none => simp [hd]
    | some b => simp [hd, read_add_distance]

theorem writeBlock_concat (m : Memory) (a : UInt16) (bytes : List UInt8) (last : UInt8) :
    m.writeBlock a (bytes ++ [last]) =
      (m.writeBlock a bytes).write (a + UInt16.ofNat bytes.length) last := by
  induction bytes generalizing m a with
  | nil => simp [writeBlock]
  | cons b rest ih =>
    have hplace : a + 1 + UInt16.ofNat rest.length = a + UInt16.ofNat (b :: rest).length := by
      rw [List.length_cons, UInt16.ofNat_add, UInt16.add_assoc, UInt16.add_comm 1]
      rfl
    rw [List.cons_append, writeBlock, ih, hplace]
    rfl

end Memory

namespace Machine

/-- The cell so many places after the one the index register points to. -/
def place (m : Machine) (offset : Nat) : Nat := (m.index.toNat + offset) % 4096

/-- Stores the registers up to `last` one byte after the other. -/
def storeLoop (m : Machine) (last : Register) : Memory := Id.run do
  let mut memory := m.memory
  for j in (List.finRange 16).take (last + 1) do
    memory := memory.write (m.index + UInt16.ofNat j) (m.registers.get j)
  return memory

/-- Stores all sixteen registers at once, those after `last` with what is in their cells. -/
def storeMasked (m : Machine) (last : Register) : Memory :=
  m.memory.writeBlock m.index
    (m.registers.toList.mapIdx fun j value =>
      if j < last + 1 then value else m.memory.read (m.index + UInt16.ofNat j))

theorem getElem?_place (m : Machine) (memory : Memory) (j : Register) :
    memory.bytes[m.place j]? = some (memory.read (m.index + UInt16.ofNat j)) := by
  rw [Memory.read_add]
  exact Vector.getElem?_eq_getElem _

theorem exists_register {last : Register} {offset : Nat} (h : offset ≤ last) :
    ∃ j ≤ last, j.val = offset :=
  ⟨⟨offset, Nat.lt_of_le_of_lt h last.isLt⟩, h, rfl⟩

theorem read_storeRegisters_eq (m : Machine) (last : Register) (a : UInt16) :
    (m.storeRegisters last).memory.read a =
      (m.registers.toList.take (last + 1))[Memory.distance m.index a]?.getD (m.memory.read a) :=
  Memory.read_writeBlock _ _ _ _
    (Nat.le_trans (Instruction.length_stored_le m.registers (.store last)) (by decide))

theorem read_storeRegisters (m : Machine) (last j : Register) :
    (m.storeRegisters last).memory.read (m.index + UInt16.ofNat j) =
      if j ≤ last then m.registers.get j else m.memory.read (m.index + UInt16.ofNat j) := by
  have hregister : m.registers.toList[j.val]? = some (m.registers.get j) := by
    rw [Vector.getElem?_toList]
    exact Vector.getElem?_eq_getElem j.isLt
  rw [read_storeRegisters_eq, Memory.distance_add _ (by omega), List.getElem?_take, hregister]
  by_cases hj : j ≤ last
  · have hstored : j.val < last + 1 := Nat.lt_succ_of_le hj
    rw [if_pos hstored, if_pos hj]
    rfl
  · have hkept : ¬ j.val < last + 1 := fun h => hj (Nat.le_of_lt_succ h)
    rw [if_neg hkept, if_neg hj]
    rfl

theorem getElem?_storeRegisters (m : Machine) (last j : Register) :
    (m.storeRegisters last).memory.bytes[m.place j]? =
      if j ≤ last then some (m.registers.get j) else m.memory.bytes[m.place j]? := by
  rw [getElem?_place, read_storeRegisters, getElem?_place, apply_ite some]

theorem read_storeRegisters_of_far (m : Machine) (last : Register) {a : UInt16}
    (hfar : last < Memory.distance m.index a) :
    (m.storeRegisters last).memory.read a = m.memory.read a := by
  rw [read_storeRegisters_eq, List.getElem?_take, if_neg (by omega)]
  rfl

theorem getElem?_storeRegisters_of_ne (m : Machine) {last : Register} {a : Nat}
    (hother : ∀ j ≤ last, a ≠ m.place j) :
    (m.storeRegisters last).memory.bytes[a]? = m.memory.bytes[a]? := by
  have hlength := Instruction.length_stored_store m.registers last
  refine Memory.getElem?_writeBlock_of_ne _ _ (Nat.le_trans (Nat.le_of_eq hlength) (by omega)) ?_
  intro i hi
  obtain ⟨j, hle, rfl⟩ := exists_register (Nat.le_of_lt_succ (Nat.lt_of_lt_of_eq hi hlength))
  exact hother j hle

theorem writeBlock_take_registers (m : Machine) {count : Nat} (hcount : count ≤ 16) :
    m.memory.writeBlock m.index (m.registers.toList.take count) =
      ((List.finRange 16).take count).foldl
        (fun memory j => memory.write (m.index + UInt16.ofNat j) (m.registers.get j))
        m.memory := by
  induction count with
  | zero => rfl
  | succ count ih =>
    have hlt : count < 16 := hcount
    have hnext : (List.finRange 16).take (count + 1) =
        (List.finRange 16).take count ++ [⟨count, hlt⟩] := by
      rw [List.take_add_one, List.getElem?_eq_getElem (by simpa using hlt),
        List.getElem_finRange]
      rfl
    have hregister : m.registers.toList.take (count + 1) =
        m.registers.toList.take count ++ [m.registers.get ⟨count, hlt⟩] := by
      rw [List.take_add_one, List.getElem?_eq_getElem (by simpa using hlt)]
      rfl
    have hlength : (m.registers.toList.take count).length = count := by simp; omega
    rw [hregister, Memory.writeBlock_concat, ih (by omega), hlength, hnext, List.foldl_append]
    rfl

theorem storeRegisters_eq_storeLoop (m : Machine) (last : Register) :
    m.storeRegisters last = { m with memory := m.storeLoop last } := by
  rw [storeRegisters, m.writeBlock_take_registers (by omega), storeLoop]
  simp

theorem get_loadRegisters (m : Machine) (last j : Register) :
    (m.loadRegisters last).registers.get j =
      if j ≤ last then m.memory.read (m.index + UInt16.ofNat j) else m.registers.get j :=
  Vector.getElem_ofFn j.isLt

theorem get_loadRegisters_of_stored {m k : Machine} {last : Register}
    (hmemory : k.memory = (m.storeRegisters last).memory) (hindex : k.index = m.index)
    (j : Register) :
    (k.loadRegisters last).registers.get j =
      if j ≤ last then m.registers.get j else k.registers.get j := by
  rw [get_loadRegisters, hmemory, hindex, read_storeRegisters]
  by_cases hj : j ≤ last
  · rw [if_pos hj, if_pos hj, if_pos hj]
  · rw [if_neg hj, if_neg hj]

theorem storeRegisters_loadRegisters (m : Machine) (last : Register) :
    ((m.loadRegisters last).storeRegisters last).memory = m.memory := by
  have hindex : (m.loadRegisters last).index = m.index := by simp only [loadRegisters]
  have hmemory : (m.loadRegisters last).memory = m.memory := by simp only [loadRegisters]
  refine Memory.ext fun a => ?_
  by_cases hnear : Memory.distance m.index a ≤ last
  · obtain ⟨j, hle, hj⟩ := exists_register hnear
    have hread := (m.loadRegisters last).read_storeRegisters last j
    rwa [if_pos hle, get_loadRegisters, if_pos hle, hindex, hj, Memory.read_add_distance,
      Memory.read_add_distance] at hread
  · rw [read_storeRegisters_of_far _ last (by rw [hindex]; omega), hmemory]

theorem execute_store (m : Machine) (last : Register) :
    (m.execute (.ofWord (Instruction.assemble 0xF last 0x5 0x5))).machine =
      m.storeRegisters last := by
  rw [Instruction.ofWord_assemble_store]
  rfl

theorem execute_load (m : Machine) (last : Register) :
    (m.execute (.ofWord (Instruction.assemble 0xF last 0x6 0x5))).machine =
      m.loadRegisters last := by
  rw [Instruction.ofWord_assemble_load]
  rfl

/-- A store fills the cells of its registers, as the loop over them does and as all sixteen at once
do when the others are masked, and leaves all other cells. A load gives the registers back, whatever has become of them, and what was loaded can be stored again
without a change. -/
theorem register_block (m : Machine) (last : Register) :
    let store := Instruction.ofWord (Instruction.assemble 0xF last 0x5 0x5)
    let load := Instruction.ofWord (Instruction.assemble 0xF last 0x6 0x5)
    let stored := (m.execute store).machine
    (∀ j ≤ last, stored.memory.bytes[m.place j]? = some (m.registers.get j)) ∧
      (∀ j > last, stored.memory.bytes[m.place j]? = m.memory.bytes[m.place j]?) ∧
      (∀ a : Nat, (∀ j ≤ last, a ≠ m.place j) → stored.memory.bytes[a]? = m.memory.bytes[a]?) ∧
      stored = { m with memory := m.storeLoop last } ∧
      stored.memory = m.storeMasked last ∧
      (∀ changed : Machine, changed.memory = stored.memory → changed.index = m.index →
        let restored := (changed.execute load).machine
        (∀ j ≤ last, restored.registers.get j = m.registers.get j) ∧
          (∀ j > last, restored.registers.get j = changed.registers.get j) ∧
          restored = { changed with registers := restored.registers }) ∧
      ((m.execute load).machine.execute store).machine.memory = m.memory := by
  intro store load stored
  have hstored : stored = m.storeRegisters last := m.execute_store last
  have hload (k : Machine) : (k.execute load).machine = k.loadRegisters last := k.execute_load last
  refine ⟨?_, ?_, ?_, ?_, ?_, ?_, ?_⟩
  · intro j hj
    rw [hstored, getElem?_storeRegisters, if_pos hj]
  · intro j hj
    rw [hstored, getElem?_storeRegisters, if_neg (Fin.not_le.mpr hj)]
  · intro a hother
    rw [hstored]
    exact m.getElem?_storeRegisters_of_ne hother
  · rw [hstored, storeRegisters_eq_storeLoop]
  · rw [hstored]
    exact m.memory.writeBlock_take m.index m.registers.toList (by simp) (last + 1)
  · intro changed hmemory hindex restored
    rw [hstored] at hmemory
    have hrestored : restored = changed.loadRegisters last := hload changed
    rw [hrestored]
    refine ⟨?_, ?_, rfl⟩
    · intro j hj
      rw [get_loadRegisters_of_stored hmemory hindex, if_pos hj]
    · intro j hj
      rw [get_loadRegisters_of_stored hmemory hindex, if_neg (Fin.not_le.mpr hj)]
  · rw [hload, execute_store]
    exact m.storeRegisters_loadRegisters last

/-- The last two cells of memory and the first two take the registers. -/
def straddling : Machine :=
  { create 0 with
    registers := #v[1, 2, 3, 4, 5, 6, 7, 8, 9, 10, 11, 12, 13, 14, 15, 16]
    index := 0xFFE }

theorem register_block_straddling :
    let stored := (straddling.execute (.ofWord (Instruction.assemble 0xF 0x3 0x5 0x5))).machine
    let changed := { stored with registers := Vector.replicate 16 0 }
    let restored := (changed.execute (.ofWord (Instruction.assemble 0xF 0x3 0x6 0x5))).machine
    (0x2 : Register) ≤ 0x3 ∧ straddling.place 0x2 = 0x000 ∧
      stored.memory.bytes[straddling.place 0x2]? = some 3 ∧
      (0x4 : Register) > 0x3 ∧ straddling.place 0x4 = 0x002 ∧
      stored.memory.bytes[straddling.place 0x4]? =
        straddling.memory.bytes[straddling.place 0x4]? ∧
      (∀ j ≤ (0x3 : Register), 0xFFD ≠ straddling.place j) ∧
      stored.memory.bytes[0xFFD]? = straddling.memory.bytes[0xFFD]? ∧
      changed.memory = stored.memory ∧ changed.index = straddling.index ∧
      restored.registers.get 0x2 = 3 ∧ restored.registers.get 0x4 = 0 := by
  intro stored changed restored
  obtain ⟨hnear, hfar, hother, -, -, hload, -⟩ := register_block straddling 0x3
  have hle : (0x2 : Register) ≤ 0x3 := by decide
  have hgt : (0x4 : Register) > 0x3 := by decide
  have hne : ∀ j ≤ (0x3 : Register), 0xFFD ≠ straddling.place j := by decide +kernel
  obtain ⟨hrestored, hkept, -⟩ := hload changed rfl rfl
  exact ⟨hle, rfl, hnear 0x2 hle, hgt, rfl, hfar 0x4 hgt, hne, hother 0xFFD hne, rfl, rfl,
    hrestored 0x2 hle, hkept 0x4 hgt⟩

end Machine

end Chip8
