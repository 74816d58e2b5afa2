import Chip8.Proofs.WideWord

/-! The instruction table that programs are promised. Its register skips end in zero, and the
decoder takes them with any last digit. All other words outside the promised table are reported. -/

namespace Chip8

namespace Instruction

def documented : List String :=
  ["00E0", "00EE", "1NNN", "2NNN", "3XNN", "4XNN", "5XY0", "9XY0", "6XNN", "7XNN",
   "8XY0", "8XY1", "8XY2", "8XY3", "8XY4", "8XY5", "8XY6", "8XY7", "8XYE",
   "ANNN", "BNNN", "CXNN", "DXYN", "EX9E", "EXA1",
   "FX07", "FX0A", "FX15", "FX18", "FX1E", "FX29", "FX33", "FX55", "FX65"]

def Documented (w : UInt16) : Prop := ∃ row ∈ documented, Fits row w

instance (w : UInt16) : Decidable (Documented w) :=
  inferInstanceAs (Decidable (∃ row ∈ documented, Fits row w))

/-- A register skip, with its row as the decoder has it and as it is documented. -/
structure RegisterSkip where
  row : String
  strict : String
  instruction : Register → Register → Instruction

def registerSkips : List RegisterSkip :=
  [⟨"5XYN", "5XY0", skipIfRegister⟩, ⟨"9XYN", "9XY0", skipUnlessRegister⟩]

/-- A register skip with something else than zero in its last digit. -/
def LooseSkip (w : UInt16) : Prop := (∃ s ∈ registerSkips, Fits s.row w) ∧ w.toNat % 16 ≠ 0

theorem exists_registerSkip_of_not_documented {row : String} (h : row ∈ table)
    (hrow : row ∉ documented) : ∃ s ∈ registerSkips, s.row = row := by
  have hrows : ∀ row ∈ table, row ∈ documented ∨ ∃ s ∈ registerSkips, s.row = row := by decide
  exact (hrows row h).resolve_left hrow

theorem exists_registerSkip_of_not_mem {row : String} (h : row ∈ documented)
    (hrow : row ∉ table) : ∃ s ∈ registerSkips, s.strict = row := by
  have hrows : ∀ row ∈ documented, row ∈ table ∨ ∃ s ∈ registerSkips, s.strict = row := by decide
  exact (hrows row h).resolve_left hrow

section RegisterSkips

variable {s : RegisterSkip} {w : UInt16}

theorem registerSkip_rows (h : s ∈ registerSkips) :
    s.row ∈ table ∧ s.row ∉ documented ∧ s.strict ∈ documented := by
  have hrows : ∀ s ∈ registerSkips,
      s.row ∈ table ∧ s.row ∉ documented ∧ s.strict ∈ documented := by decide
  exact hrows s h

theorem fits_strict_iff (h : s ∈ registerSkips) :
    Fits s.strict w ↔ Fits s.row w ∧ w.toNat % 16 = 0 := by
  fin_cases h <;> simp [Fits, digits, digit?, eq_comm]

theorem ofWord_of_registerSkip (h : s ∈ registerSkips) (hw : Fits s.row w) :
    ofWord w = s.instruction (nibble w.toNat 2) (nibble w.toNat 1) := by
  unfold ofWord ofInt ofFields
  rw [opcode_ofInt]
  fin_cases h <;> simp [Fits, digits, digit?] at hw <;> simp only [← hw] <;> rfl

/-- The word with zero for its last digit. -/
def strictWord (w : UInt16) : UInt16 := w - w % 16

theorem toNat_strictWord (w : UInt16) : (strictWord w).toNat = w.toNat - w.toNat % 16 := by
  have hle : w % 16 ≤ w := UInt16.le_iff_toNat_le.mpr (Nat.mod_le _ _)
  rw [strictWord, UInt16.toNat_sub_of_le _ _ hle, UInt16.toNat_mod]
  rfl

theorem nibble_strictWord (w : UInt16) (place : Nat) :
    nibble (strictWord w).toNat (place + 1) = nibble w.toNat (place + 1) := by
  have hword := toNat_strictWord w
  have hhigh : ((strictWord w).toNat : Int) >>> (4 : Nat) = (w.toNat : Int) >>> (4 : Nat) := by
    simp only [Int.shiftRight_eq_div_pow]
    omega
  have hshift (n : Int) : n >>> (4 * (place + 1)) = n >>> (4 : Nat) >>> (4 * place) := by
    rw [Nat.mul_succ, Nat.add_comm, Int.shiftRight_add]
  simp only [nibble, hshift, hhigh]

theorem fits_strictWord (h : s ∈ registerSkips) (hw : Fits s.row w) :
    Fits s.strict (strictWord w) := by
  have hword := toNat_strictWord w
  fin_cases h <;> simp [Fits, digits, digit?] at hw ⊢ <;> omega

theorem ofWord_strictWord (h : s ∈ registerSkips) (hw : Fits s.row w) :
    ofWord (strictWord w) = ofWord w := by
  have hstrict := ((fits_strict_iff h).mp (fits_strictWord h hw)).1
  rw [ofWord_of_registerSkip h hstrict, ofWord_of_registerSkip h hw, nibble_strictWord w 1,
    nibble_strictWord w 0]

end RegisterSkips

theorem known_iff_documented {w : UInt16} : Known w ↔ Documented w ∨ LooseSkip w := by
  constructor
  · rintro ⟨row, hrow, h⟩
    by_cases hdocumented : row ∈ documented
    · exact .inl ⟨row, hdocumented, h⟩
    · obtain ⟨s, hs, rfl⟩ := exists_registerSkip_of_not_documented hrow hdocumented
      by_cases hzero : w.toNat % 16 = 0
      · exact .inl ⟨s.strict, (registerSkip_rows hs).2.2, (fits_strict_iff hs).mpr ⟨h, hzero⟩⟩
      · exact .inr ⟨⟨s, hs, h⟩, hzero⟩
  · rintro (⟨row, hrow, h⟩ | ⟨⟨s, hs, h⟩, -⟩)
    · by_cases htable : row ∈ table
      · exact ⟨row, htable, h⟩
      · obtain ⟨s, hs, rfl⟩ := exists_registerSkip_of_not_mem hrow htable
        exact ⟨s.row, (registerSkip_rows hs).1, ((fits_strict_iff hs).mp h).1⟩
    · exact ⟨s.row, (registerSkip_rows hs).1, h⟩

theorem not_documented_of_looseSkip {w : UInt16} (hw : LooseSkip w) : ¬ Documented w := by
  obtain ⟨⟨s, hs, h⟩, hlast⟩ := hw
  rintro ⟨row, hrow, hfits⟩
  obtain ⟨htable, hstrict, -⟩ := registerSkip_rows hs
  by_cases hknown : row ∈ table
  · -- A word is written in one row of the decoder's table.
    have hsame : some row = some s.row :=
      (row?_ofWord_of_fits hknown hfits).symm.trans (row?_ofWord_of_fits htable h)
    exact hstrict (Option.some.inj hsame ▸ hrow)
  · obtain ⟨t, ht, rfl⟩ := exists_registerSkip_of_not_mem hrow hknown
    exact hlast ((fits_strict_iff ht).mp hfits).2

end Instruction

namespace Machine

open Instruction (Known Documented LooseSkip strictWord)

/-- The word is warned of and holds the machine where it stands, and nothing else happens. -/
def Reports (m : Machine) (w : UInt16) : Prop :=
  m.executeInt w.toNat =
    .ok ⟨{ m with pc := m.pc - 2, stalled := true }, some ⟨w.toNat, m.pc - 2⟩⟩

theorem executeInt_word (m : Machine) (w : UInt16) :
    m.executeInt w.toNat = .ok (m.execute (.ofWord w)) := by
  have hw := w.toNat_lt
  exact m.executeInt_eq_ok (by omega)

theorem reports_iff_not_known (m : Machine) (w : UInt16) : m.Reports w ↔ ¬ Known w := by
  rw [Reports, executeInt_word, Except.ok.injEq]
  constructor
  · intro h hknown
    have hnone : (m.execute (.ofWord w)).warning? = none := by
      rw [warning?_execute, if_pos hknown]
    rw [h] at hnone
    cases hnone
  · intro h
    rw [Instruction.ofWord_eq_unknown_iff.mpr ⟨h, rfl⟩]
    rfl

/-- The words that are reported are those outside the documented table, but for the register skips
that do not end in zero. Such a skip is carried out as the one that does. -/
theorem reports_iff (m : Machine) (w : UInt16) :
    (m.Reports w ↔ ¬ Documented w ∧ ¬ LooseSkip w) ∧
    (m.Reports w → ∀ level ≤ Level.warning, (m.execute (.ofWord w)).log level =
      ["Unknown opcode 0x" ++ Text.hexPadded 4 w.toNat ++
        " at 0x" ++ Text.hexPadded 3 (m.pc - 2).toNat]) ∧
    (LooseSkip w → ¬ Documented w ∧ Documented (strictWord w) ∧
      m.executeInt w.toNat = m.executeInt (strictWord w).toNat) := by
  refine ⟨?_, ?_, ?_⟩
  · rw [reports_iff_not_known, Instruction.known_iff_documented, not_or]
  · intro h level hlevel
    rw [Reports, executeInt_word, Except.ok.injEq] at h
    rw [Step.log_eq, if_pos hlevel, h]
    rfl
  · intro h
    refine ⟨Instruction.not_documented_of_looseSkip h, ?_⟩
    obtain ⟨⟨s, hs, hrow⟩, -⟩ := h
    refine ⟨?_, ?_⟩
    · exact ⟨s.strict, (Instruction.registerSkip_rows hs).2.2, Instruction.fits_strictWord hs hrow⟩
    · rw [executeInt_word, executeInt_word, Instruction.ofWord_strictWord hs hrow]

/-- Two equal registers are compared by a word that is not in the documented table. -/
theorem loose_skip_unreported :
    let m := create 0
    ¬ Documented 0x5121 ∧ ¬ m.Reports 0x5121 ∧
      m.executeInt 0x5121 = .ok ⟨{ m with pc := 0x202 }, none⟩ := by
  intro m
  have hword : ((0x5121 : UInt16).toNat : Int) = 0x5121 := rfl
  have hskip : Instruction.ofWord 0x5121 = .skipIfRegister 1 2 := by decide +kernel
  have hexecute : m.executeInt 0x5121 = .ok ⟨{ m with pc := 0x202 }, none⟩ := by
    rw [← hword, executeInt_word, hskip]
    rfl
  refine ⟨by decide +kernel, ?_, hexecute⟩
  rw [reports_iff_not_known]
  decide +kernel

end Machine

end Chip8
