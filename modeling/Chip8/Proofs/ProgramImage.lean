import Chip8.Machine.Cycle
import Chip8.Machine.Load
import Chip8.Proofs.RegisterBlock

/-! Programs loaded into memory, and fetched from there word by word. The room for a program ends
with memory, so that a program fills it to the last cell and never comes round. -/

namespace Chip8

namespace Memory

/-- A word as it lies in memory, the high byte first. -/
def wordBytes (w : UInt16) : List UInt8 := [(w >>> 8).toUInt8, w.toUInt8]

def image (words : List UInt16) : List UInt8 := words.flatMap wordBytes

theorem toNat_wordBytes (w : UInt16) :
    256 * (w >>> 8).toUInt8.toNat + w.toUInt8.toNat = w.toNat := by
  have hw := w.toNat_lt
  have hhigh : (w >>> 8).toNat = w.toNat / 256 := by
    rw [UInt16.toNat_shiftRight]
    exact Nat.shiftRight_eq_div_pow _ 8
  rw [UInt16.toNat_toUInt8, UInt16.toNat_toUInt8, hhigh]
  omega

theorem length_image (words : List UInt16) : (image words).length = 2 * words.length := by
  induction words with
  | nil => rfl
  | cons w rest ih =>
    rw [image, List.flatMap_cons, List.length_append, ← image, ih, List.length_cons]
    have hlength : (wordBytes w).length = 2 := rfl
    omega

theorem getElem?_image {words : List UInt16} {k : Nat} {w : UInt16} (h : words[k]? = some w) :
    (image words)[2 * k]? = some (w >>> 8).toUInt8 ∧
      (image words)[2 * k + 1]? = some w.toUInt8 := by
  induction words generalizing k with
  | nil => cases h
  | cons first rest ih =>
    cases k with
    | zero =>
      obtain rfl := Option.some.inj h
      exact ⟨rfl, rfl⟩
    | succ k => exact ih h

/-- A word is read where its two bytes have been written. -/
theorem word_writeBlock {m : Memory} {a c w : UInt16} {bytes : List UInt8}
    (hlength : bytes.length ≤ 4096)
    (hhigh : bytes[distance a c]? = some (w >>> 8).toUInt8)
    (hlow : bytes[distance a c + 1]? = some w.toUInt8) : (m.writeBlock a bytes).word c = w := by
  have hc := c.toNat_lt
  have hinside : distance a c + 1 < bytes.length := (List.getElem?_eq_some_iff.mp hlow).1
  have hnext : distance a (c + 1) = distance a c + 1 := by
    rw [distance_eq] at hinside ⊢
    rw [distance_eq, UInt16.toNat_add, UInt16.toNat_one]
    omega
  rw [word, read_writeBlock_of_getElem? hlength hhigh,
    read_writeBlock_of_getElem? hlength (hnext ▸ hlow), toNat_wordBytes, UInt16.ofNat_toNat]

end Memory

namespace Machine

open Memory (image)

theorem distance_programStart (a : UInt16) :
    Memory.distance (UInt16.ofNat programStart) a = (a.toNat % 4096 + 3584) % 4096 := by
  have hstart : (UInt16.ofNat programStart).toNat = 0x200 := rfl
  rw [Memory.distance_eq, hstart]
  omega

section Loaded

variable {m loaded : Machine} {program : List UInt8} (h : m.load program = .ok loaded)

include h

theorem length_le_of_load : program.length ≤ 3584 := (load_eq_ok_iff.mp h).1

theorem memory_load :
    loaded.memory = m.memory.writeBlock (UInt16.ofNat programStart) program := by
  rw [(load_eq_ok_iff.mp h).2]

theorem getElem?_load {i : Nat} (hi : i < program.length) :
    loaded.memory.bytes[0x200 + i]? = program[i]? := by
  have hroom := length_le_of_load h
  have hstart : (UInt16.ofNat programStart).toNat = 0x200 := rfl
  have hwritten := m.memory.getElem?_writeBlock (UInt16.ofNat programStart) (by omega) hi
  rwa [← memory_load h, hstart, Nat.mod_eq_of_lt (by omega)] at hwritten

theorem getElem?_load_of_outside {a : Nat} (ha : a < 0x200 ∨ 0x200 + program.length ≤ a) :
    loaded.memory.bytes[a]? = m.memory.bytes[a]? := by
  have hroom := length_le_of_load h
  rw [memory_load h]
  refine Memory.getElem?_writeBlock_of_ne _ _ (by omega) fun i hi => ?_
  have hstart : (UInt16.ofNat programStart).toNat = 0x200 := rfl
  omega

end Loaded

theorem fetch_load {m loaded : Machine} {words : List UInt16}
    (h : m.load (image words) = .ok loaded) {k : Nat} {w : UInt16} (hw : words[k]? = some w)
    {pc : UInt16} (hpc : pc.toNat % 4096 = 0x200 + 2 * k) :
    ({ loaded with pc } : Machine).fetch = ({ loaded with pc := pc + 2 }, w) := by
  have hroom := length_le_of_load h
  obtain ⟨hhigh, hlow⟩ := Memory.getElem?_image hw
  have hplace : Memory.distance (UInt16.ofNat programStart) pc = 2 * k := by
    rw [distance_programStart, hpc]
    omega
  have hword : loaded.memory.word pc = w := by
    rw [memory_load h]
    apply Memory.word_writeBlock (by omega)
    · rw [hplace, hhigh]
    · rw [hplace, hlow]
  rw [fetch, ← hword]

/-- A program is loaded exactly if there is room for it, to the place that is kept for it and nowhere
else. Words that are loaded are fetched again from wherever an address selects their cells. -/
theorem load_fetch (m : Machine) :
    (∀ program : List UInt8,
      ((∃ loaded, m.load program = .ok loaded) ↔ program.length ≤ 3584) ∧
      (∀ cause, m.load program = .error cause →
        cause = .tooLong program.length ∧ (m.load program).toOption.getD m = m) ∧
      ∀ loaded, m.load program = .ok loaded →
        (∀ i < program.length, loaded.memory.bytes[0x200 + i]? = program[i]?) ∧
          (∀ a : Nat, a < 0x200 ∨ 0x200 + program.length ≤ a →
            loaded.memory.bytes[a]? = m.memory.bytes[a]?) ∧
          loaded = { m with memory := loaded.memory }) ∧
    ∀ words : List UInt16, words.length ≤ 1792 →
      ∃ loaded, m.load (image words) = .ok loaded ∧
        ∀ k w, words[k]? = some w → ∀ pc : UInt16, pc.toNat % 4096 = 0x200 + 2 * k →
          ({ loaded with pc } : Machine).fetch = ({ loaded with pc := pc + 2 }, w) := by
  have hloads (program : List UInt8) :
      (∃ loaded, m.load program = .ok loaded) ↔ program.length ≤ 3584 :=
    ⟨fun ⟨_, h⟩ => length_le_of_load h, fun h => ⟨_, if_pos h⟩⟩
  refine ⟨fun program => ⟨hloads program, ?_, ?_⟩, ?_⟩
  · intro cause h
    refine ⟨(load_eq_error_iff.mp h).2, ?_⟩
    rw [h]
    rfl
  · intro loaded h
    refine ⟨fun i => getElem?_load h, fun a => getElem?_load_of_outside h, ?_⟩
    rw [memory_load h]
    exact (load_eq_ok_iff.mp h).2
  · intro words hwords
    have hlength := Memory.length_image words
    obtain ⟨loaded, h⟩ := (hloads (image words)).mpr (by omega)
    exact ⟨loaded, h, fun k w hw pc => fetch_load h hw⟩

/-- As many words as there is room for, of which the last lies in the last cells. -/
def full : List UInt16 := List.replicate 1792 0x1ABC

theorem load_fetch_full :
    full.length ≤ 1792 ∧ full[1791]? = some 0x1ABC ∧
      (0xFFFE : UInt16).toNat % 4096 = 0x200 + 2 * 1791 ∧
      ∃ loaded, (create 0).load (image full) = .ok loaded ∧
        loaded.memory.bytes[0x0004]? = some 0xF0 ∧ loaded.memory.bytes[0xFFF]? = some 0xBC ∧
        ({ loaded with pc := 0xFFFE } : Machine).fetch = ({ loaded with pc := 0 }, 0x1ABC) ∧
        loaded.load (0x00 :: image full) = .error (.tooLong 3585) ∧
        (loaded.load (0x00 :: image full)).toOption.getD loaded = loaded := by
  have hlength : full.length = 1792 := List.length_replicate
  have hlast : full[1791]? = some 0x1ABC := by
    rw [full, List.getElem?_replicate]
    rfl
  obtain ⟨hprogram, hwords⟩ := load_fetch (create 0)
  obtain ⟨loaded, h, hfetch⟩ := hwords full (Nat.le_of_eq hlength)
  obtain ⟨hinside, houtside, -⟩ := (hprogram (image full)).2.2 loaded h
  have hbytes := Memory.length_image full
  have hlong : (0x00 :: image full).length = 3585 := by
    rw [List.length_cons, hbytes, hlength]
  have hrefused : loaded.load (0x00 :: image full) = .error (.tooLong 3585) := by
    rw [load_eq_error_iff, hlong]
    exact ⟨by decide, rfl⟩
  have hkept := (((load_fetch loaded).1 _).2.1 _ hrefused).2
  refine ⟨Nat.le_of_eq hlength, hlast, rfl, loaded, h, ?_, ?_, hfetch 1791 _ hlast 0xFFFE rfl,
    hrefused, hkept⟩
  · rw [houtside 0x004 (by omega)]
    decide +kernel
  · rw [show 0xFFF = 0x200 + 3583 from rfl, hinside 3583 (by omega)]
    exact (Memory.getElem?_image hlast).2

end Machine

end Chip8
