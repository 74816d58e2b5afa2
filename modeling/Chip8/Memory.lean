/-!
The 4 KiB memory. Addresses are 16-bit words of which only the low twelve bits select a cell,
so every access is total and runs past the end come round to the start.
-/

namespace Chip8

structure Memory where
  bytes : Vector UInt8 4096
deriving DecidableEq

namespace Memory

abbrev size : Nat := 4096

/-- The bits of an address that select a cell. -/
abbrev addressMask : Nat := 0xFFF

def blank : Memory := ⟨Vector.replicate 4096 0⟩

/-- The cell an address selects. -/
def cell (a : UInt16) : Fin 4096 := ⟨a.toNat % 4096, Nat.mod_lt _ (by decide)⟩

def read (m : Memory) (a : UInt16) : UInt8 := m.bytes[cell a]

def write (m : Memory) (a : UInt16) (b : UInt8) : Memory :=
  ⟨m.bytes.set (cell a) b⟩

/-- The big-endian word at `a` and `a + 1`. -/
def word (m : Memory) (a : UInt16) : UInt16 :=
  UInt16.ofNat (256 * (m.read a).toNat + (m.read (a + 1)).toNat)

def readBlock (m : Memory) (a : UInt16) (n : Nat) : List UInt8 :=
  (List.range n).map fun i => m.read (a + UInt16.ofNat i)

def writeBlock (m : Memory) (a : UInt16) : List UInt8 → Memory
  | [] => m
  | b :: bs => (m.write a b).writeBlock (a + 1) bs

theorem cell_ofNat (i : Nat) (h : i < 4096) : cell (UInt16.ofNat i) = ⟨i, h⟩ := by
  apply Fin.ext
  have hi : (UInt16.ofNat i).toNat = i := UInt16.toNat_ofNat_of_lt' (by simp [UInt16.size]; omega)
  simp only [cell, hi]
  exact Nat.mod_eq_of_lt h

theorem ext {m m' : Memory} (h : ∀ a, m.read a = m'.read a) : m = m' := by
  obtain ⟨v⟩ := m
  obtain ⟨w⟩ := m'
  refine congrArg Memory.mk (Vector.ext fun i hi => ?_)
  have hr := h (UInt16.ofNat i)
  simp only [read, cell_ofNat i hi] at hr
  exact hr

theorem read_write (m : Memory) (a c : UInt16) (b : UInt8) :
    (m.write a b).read c = if cell a = cell c then b else m.read c := by
  simp [read, write, Vector.getElem_set, Fin.ext_iff]

/-- The cell so many places after an address. -/
theorem read_add (m : Memory) (a : UInt16) (k : Nat) :
    m.read (a + UInt16.ofNat k) =
      m.bytes.get ⟨(a.toNat + k) % 4096, Nat.mod_lt _ (by decide)⟩ := by
  have hcell : cell (a + UInt16.ofNat k) = ⟨(a.toNat + k) % 4096, Nat.mod_lt _ (by decide)⟩ := by
    apply Fin.ext
    simp only [cell, UInt16.toNat_add, UInt16.toNat_ofNat']
    omega
  exact congrArg m.bytes.get hcell

theorem cell_eq_iff {a c : UInt16} : cell a = cell c ↔ a.toNat % 4096 = c.toNat % 4096 := by
  simp [cell]

theorem getElem?_readBlock (m : Memory) (a : UInt16) (n i : Nat) :
    (m.readBlock a n)[i]? = if i < n then some (m.read (a + UInt16.ofNat i)) else none := by
  by_cases h : i < n <;> simp [readBlock, h]

/-- How many cells `c` lies after `a`, going round the end of memory. -/
def distance (a c : UInt16) : Nat := (c - a).toNat % 4096

theorem distance_eq (a c : UInt16) :
    distance a c = (c.toNat % 4096 + 4096 - a.toNat % 4096) % 4096 := by
  have ha := a.toNat_lt
  have hc := c.toNat_lt
  rw [distance, UInt16.toNat_sub]
  omega

/-- A block that fits into memory reads back, and leaves everything else as it was. -/
theorem read_writeBlock (m : Memory) (a c : UInt16) (bs : List UInt8) (h : bs.length ≤ 4096) :
    (m.writeBlock a bs).read c = bs[distance a c]?.getD (m.read c) := by
  induction bs generalizing m a with
  | nil => simp [writeBlock]
  | cons b bs ih =>
    simp only [List.length_cons] at h
    rw [writeBlock, ih _ _ (by omega), read_write]
    have ha := a.toNat_lt
    have hs : (a + 1).toNat % 4096 = (a.toNat % 4096 + 1) % 4096 := by
      rw [UInt16.toNat_add, UInt16.toNat_one]
      omega
    by_cases hd : distance a c = 0
    · have hc : cell a = cell c := by
        rw [cell_eq_iff]
        rw [distance_eq] at hd
        omega
      have hn : distance (a + 1) c = 4095 := by
        rw [distance_eq] at *
        omega
      simp [hd, hc, hn, List.getElem?_eq_none (show bs.length ≤ 4095 by omega)]
    · have hc : cell a ≠ cell c := by
        rw [Ne, cell_eq_iff]
        rw [distance_eq] at hd
        omega
      obtain ⟨k, hk⟩ := Nat.exists_eq_succ_of_ne_zero hd
      have hn : distance (a + 1) c = k := by
        rw [distance_eq] at *
        omega
      simp [hk, hc, hn]

end Memory

end Chip8
