import Chip8.Instruction.Basic
import Mathlib.Data.List.Forall2
import Mathlib.Tactic.FinCases

/-! The instruction table, written in rows such as `8XY4`, and the reading of words by it. A word
fits a row exactly if the instruction it is read as is written in that row. -/

namespace Chip8.Instruction

/-- The digit a letter of a row stands for. A letter that is no digit stands for any. -/
def digit? (letter : Char) : Option Nat :=
  if '0' ≤ letter ∧ letter ≤ '9' then some (letter.toNat - '0'.toNat)
  else if 'A' ≤ letter ∧ letter ≤ 'F' then some (letter.toNat - 'A'.toNat + 10)
  else none

def digits (w : UInt16) : List Nat :=
  [w.toNat / 0x1000, w.toNat / 0x100 % 16, w.toNat / 0x10 % 16, w.toNat % 16]

def Fits (row : String) (w : UInt16) : Prop :=
  List.Forall₂ (fun letter digit => digit? letter = none ∨ digit? letter = some digit)
    row.toList (digits w)

instance (row : String) (w : UInt16) : Decidable (Fits row w) :=
  inferInstanceAs (Decidable (List.Forall₂ _ _ _))

def table : List String :=
  ["00E0", "00EE", "1NNN", "2NNN", "3XNN", "4XNN", "5XYN", "6XNN", "7XNN",
   "8XY0", "8XY1", "8XY2", "8XY3", "8XY4", "8XY5", "8XY6", "8XY7", "8XYE", "9XYN",
   "ANNN", "BNNN", "CXNN", "DXYN", "EX9E", "EXA1",
   "FX07", "FX0A", "FX15", "FX18", "FX1E", "FX29", "FX33", "FX55", "FX65"]

def Known (w : UInt16) : Prop := ∃ row ∈ table, Fits row w

instance (w : UInt16) : Decidable (Known w) :=
  inferInstanceAs (Decidable (∃ row ∈ table, Fits row w))

def row? : Instruction → Option String
  | clear => some "00E0"
  | leave => some "00EE"
  | jump _ => some "1NNN"
  | call _ => some "2NNN"
  | skipIfByte .. => some "3XNN"
  | skipUnlessByte .. => some "4XNN"
  | skipIfRegister .. => some "5XYN"
  | setByte .. => some "6XNN"
  | addByte .. => some "7XNN"
  | compute .copy .. => some "8XY0"
  | compute .or .. => some "8XY1"
  | compute .and .. => some "8XY2"
  | compute .xor .. => some "8XY3"
  | compute .add .. => some "8XY4"
  | compute .subtract .. => some "8XY5"
  | compute .shiftRight .. => some "8XY6"
  | compute .subtractFrom .. => some "8XY7"
  | compute .shiftLeft .. => some "8XYE"
  | skipUnlessRegister .. => some "9XYN"
  | setIndex _ => some "ANNN"
  | jumpFromFirst _ => some "BNNN"
  | random .. => some "CXNN"
  | draw .. => some "DXYN"
  | skipIfKey _ => some "EX9E"
  | skipUnlessKey _ => some "EXA1"
  | readDelay _ => some "FX07"
  | waitForKey _ => some "FX0A"
  | setDelay _ => some "FX15"
  | setSound _ => some "FX18"
  | addIndex _ => some "FX1E"
  | glyph _ => some "FX29"
  | decimal _ => some "FX33"
  | store _ => some "FX55"
  | load _ => some "FX65"
  | unknown _ => none

theorem opcode_ofInt (w : UInt16) : (Fields.ofInt w.toNat).opcode.val = w.toNat / 0x1000 := by
  have hw := w.toNat_lt
  simp only [Fields.ofInt, nibble, Int.shiftRight_eq_div_pow]
  omega

theorem n_ofInt (w : UInt16) : (Fields.ofInt w.toNat).n.val = w.toNat % 16 := by
  simp only [Fields.ofInt, nibble, Int.shiftRight_eq_div_pow]
  omega

theorem nn_ofInt (w : UInt16) :
    (Fields.ofInt w.toNat).nn.toNat = 16 * (w.toNat / 0x10 % 16) + w.toNat % 16 := by
  simp only [Fields.ofInt, UInt8.toNat_ofNat']
  omega

theorem nn_eq_toUInt8 (w : UInt16) : (Fields.ofInt w.toNat).nn = w.toUInt8 := by
  rw [← UInt8.toNat_inj, nn_ofInt, UInt16.toNat_toUInt8]
  omega

theorem word_eq_digits (w : UInt16) :
    w.toNat = 0x1000 * (w.toNat / 0x1000) + 0x100 * (w.toNat / 0x100 % 16) +
      0x10 * (w.toNat / 0x10 % 16) + w.toNat % 16 := by
  omega

theorem row?_ofWord_of_fits {row : String} {w : UInt16} (hrow : row ∈ table) (h : Fits row w) :
    (ofWord w).row? = some row := by
  have hw := word_eq_digits w
  have hraw : (Fields.ofInt w.toNat).raw = w.toNat := rfl
  unfold ofWord ofInt ofFields ofKeySkip ofMiscellaneous Operation.ofNibble?
  rw [opcode_ofInt, n_ofInt, nn_ofInt, hraw]
  fin_cases hrow <;> simp [Fits, digits, digit?] at h <;> simp [← h, row?]
  -- The system instructions are told from the whole word.
  · have hclear : w.toNat = 0x00E0 := by omega
    simp [ofSystem, hclear]
  · have hleave : w.toNat = 0x00EE := by omega
    simp [ofSystem, hleave]

theorem fits_of_row?_ofSystem {row : String} {w : UInt16}
    (h : (ofSystem w.toNat).row? = some row) : row ∈ table ∧ Fits row w := by
  unfold ofSystem at h
  split at h
  · obtain rfl := Option.some.inj h
    have hw : w = 0x00E0 := UInt16.toNat_inj.mp (by simp; omega)
    simp [table, hw, Fits, digits, digit?]
  · split at h
    · obtain rfl := Option.some.inj h
      have hw : w = 0x00EE := UInt16.toNat_inj.mp (by simp; omega)
      simp [table, hw, Fits, digits, digit?]
    · cases h

theorem fits_of_row?_compute {row : String} {w : UInt16} {operation : Operation} {x y : Register}
    (ho : w.toNat / 0x1000 = 8)
    (hoperation : Operation.ofNibble? (Fields.ofInt w.toNat).n = some operation)
    (h : (compute operation x y).row? = some row) : row ∈ table ∧ Fits row w := by
  have hn := n_ofInt w
  unfold Operation.ofNibble? at hoperation
  split at hoperation <;> cases hoperation <;> obtain rfl := Option.some.inj h <;>
    simp [table, Fits, digits, digit?] <;> omega

theorem fits_of_row?_ofKeySkip {row : String} {w : UInt16} (ho : w.toNat / 0x1000 = 14)
    (h : (ofKeySkip (Fields.ofInt w.toNat)).row? = some row) : row ∈ table ∧ Fits row w := by
  have hnn := nn_ofInt w
  unfold ofKeySkip at h
  split at h <;> cases h <;> simp [table, Fits, digits, digit?] <;> omega

theorem fits_of_row?_ofMiscellaneous {row : String} {w : UInt16} (ho : w.toNat / 0x1000 = 15)
    (h : (ofMiscellaneous (Fields.ofInt w.toNat)).row? = some row) :
    row ∈ table ∧ Fits row w := by
  have hnn := nn_ofInt w
  unfold ofMiscellaneous at h
  split at h <;> cases h <;> simp [table, Fits, digits, digit?] <;> omega

theorem fits_of_row?_ofWord {row : String} {w : UInt16} (h : (ofWord w).row? = some row) :
    row ∈ table ∧ Fits row w := by
  have ho := opcode_ofInt w
  have hw := w.toNat_lt
  unfold ofWord ofInt ofFields at h
  split at h
  case h_1 => exact fits_of_row?_ofSystem h
  case h_9 =>
    split at h
    case h_1 operation hoperation => exact fits_of_row?_compute (by omega) hoperation h
    case h_2 => cases h
  case h_15 => exact fits_of_row?_ofKeySkip (by omega) h
  case h_16 => exact fits_of_row?_ofMiscellaneous (by grind) h
  all_goals
    cases h
    simp [table, Fits, digits, digit?]
    omega

theorem fits_of_ofWord {row : String} {w : UInt16} {i : Instruction} (hi : ofWord w = i)
    (hrow : i.row? = some row) : Fits row w :=
  (fits_of_row?_ofWord (hi ▸ hrow)).2

theorem fits_iff {row : String} {w : UInt16} (hrow : row ∈ table) :
    Fits row w ↔ (ofWord w).row? = some row :=
  ⟨row?_ofWord_of_fits hrow, fun h => (fits_of_row?_ofWord h).2⟩

theorem known_iff {w : UInt16} : Known w ↔ (ofWord w).row?.isSome := by
  constructor
  · rintro ⟨row, hrow, h⟩
    rw [row?_ofWord_of_fits hrow h]
    rfl
  · intro h
    obtain ⟨row, h⟩ := Option.isSome_iff_exists.mp h
    exact ⟨row, fits_of_row?_ofWord h⟩

theorem row?_eq_none_iff {i : Instruction} : i.row? = none ↔ ∃ raw, i = unknown raw := by
  unfold row?
  split <;> simp

theorem raw_eq_of_ofFields {f : Fields} {raw : Int} (h : ofFields f = unknown raw) :
    raw = f.raw := by
  unfold ofFields ofSystem ofKeySkip ofMiscellaneous at h
  grind

/-- A word outside the table is read as unknown, and as nothing else. -/
theorem ofWord_eq_unknown_iff {w : UInt16} {raw : Int} :
    ofWord w = unknown raw ↔ ¬ Known w ∧ raw = w.toNat := by
  constructor
  · intro h
    refine ⟨?_, raw_eq_of_ofFields h⟩
    rw [known_iff, h]
    simp [row?]
  · rintro ⟨hw, rfl⟩
    have hrow : (ofWord w).row? = none := by simpa [known_iff] using hw
    obtain ⟨raw, h⟩ := row?_eq_none_iff.mp hrow
    rw [h, raw_eq_of_ofFields h]
    rfl

theorem fits_waitForKey_iff {w : UInt16} : Fits "FX0A" w ↔ ∃ x, ofWord w = waitForKey x := by
  rw [fits_iff (by decide)]
  unfold row?
  split <;> simp_all

theorem fits_call_iff {w : UInt16} : Fits "2NNN" w ↔ ∃ target, ofWord w = call target := by
  rw [fits_iff (by decide)]
  unfold row?
  split <;> simp_all

theorem fits_leave_iff {w : UInt16} : Fits "00EE" w ↔ ofWord w = leave := by
  rw [fits_iff (by decide)]
  unfold row?
  split <;> simp_all

theorem fits_of_random {w : UInt16} {x : Register} {value : UInt8} (h : ofWord w = random x value) :
    Fits "CXNN" w :=
  fits_of_ofWord h rfl

theorem fits_random_iff {w : UInt16} :
    Fits "CXNN" w ↔ ofWord w = random (nibble w.toNat 2) w.toUInt8 := by
  constructor
  · intro h
    unfold ofWord ofInt ofFields
    rw [opcode_ofInt, nn_eq_toUInt8]
    simp [Fits, digits, digit?] at h
    simp only [← h]
    rfl
  · exact fits_of_random

/-- The rows `FX..`, whose instructions have the second digit of the word as their register. -/
def miscellaneous : List (String × (Register → Instruction)) :=
  [("FX07", readDelay), ("FX0A", waitForKey), ("FX15", setDelay), ("FX18", setSound),
   ("FX1E", addIndex), ("FX29", glyph), ("FX33", decimal), ("FX55", store), ("FX65", load)]

theorem fits_of_miscellaneous {row : String} {i : Register → Instruction}
    (hrow : (row, i) ∈ miscellaneous) {w : UInt16} {x : Register} (h : ofWord w = i x) :
    Fits row w := by
  have hi : (i x).row? = some row := by fin_cases hrow <;> rfl
  exact fits_of_ofWord h hi

theorem fits_miscellaneous_iff {row : String} {i : Register → Instruction}
    (hrow : (row, i) ∈ miscellaneous) {w : UInt16} :
    Fits row w ↔ ofWord w = i (nibble w.toNat 2) := by
  constructor
  · intro h
    unfold ofWord ofInt ofFields ofMiscellaneous
    rw [opcode_ofInt, nn_ofInt]
    fin_cases hrow <;> simp [Fits, digits, digit?] at h <;> simp [← h] <;> rfl
  · exact fits_of_miscellaneous hrow

/-- The operands of an instruction are digits of the word, each at its place. -/
def OperandsOf (w : UInt16) : Instruction → Prop
  | clear | leave | unknown _ => True
  | jump address | call address | setIndex address | jumpFromFirst address =>
    address.val = w.toNat % 0x1000
  | skipIfByte x value | skipUnlessByte x value | setByte x value | addByte x value
  | random x value =>
    x = nibble w.toNat 2 ∧ value = w.toUInt8
  | skipIfRegister x y | skipUnlessRegister x y | compute _ x y =>
    x = nibble w.toNat 2 ∧ y = nibble w.toNat 1
  | draw x y rows => x = nibble w.toNat 2 ∧ y = nibble w.toNat 1 ∧ rows = nibble w.toNat 0
  | skipIfKey x | skipUnlessKey x | readDelay x | waitForKey x | setDelay x | setSound x
  | addIndex x | glyph x | decimal x | store x | load x =>
    x = nibble w.toNat 2

theorem operandsOf_ofSystem (w : UInt16) (raw : Int) : OperandsOf w (ofSystem raw) := by
  unfold ofSystem
  split
  · trivial
  · split <;> trivial

theorem operandsOf_ofKeySkip (w : UInt16) : OperandsOf w (ofKeySkip (Fields.ofInt w.toNat)) := by
  unfold ofKeySkip
  split
  · rfl
  · rfl
  · trivial

theorem operandsOf_ofMiscellaneous (w : UInt16) :
    OperandsOf w (ofMiscellaneous (Fields.ofInt w.toNat)) := by
  unfold ofMiscellaneous
  split
  case h_10 => trivial
  all_goals rfl

theorem operandsOf_ofWord (w : UInt16) : OperandsOf w (ofWord w) := by
  have haddress : (Fields.ofInt w.toNat).nnn.val = w.toNat % 0x1000 := by
    simp only [Fields.ofInt]
    omega
  have hvalue := nn_eq_toUInt8 w
  unfold ofWord ofInt ofFields
  split
  case h_1 => exact operandsOf_ofSystem w _
  case h_9 =>
    split
    · exact ⟨rfl, rfl⟩
    · trivial
  case h_14 => exact ⟨rfl, rfl, rfl⟩
  case h_15 => exact operandsOf_ofKeySkip w
  case h_16 => exact operandsOf_ofMiscellaneous w
  case h_6 | h_10 => exact ⟨rfl, rfl⟩
  case h_4 | h_5 | h_7 | h_8 | h_13 => exact ⟨rfl, hvalue⟩
  all_goals exact haddress

/-- The word of four digits. -/
def assemble (o x y n : Fin 16) : UInt16 :=
  UInt16.ofNat (0x1000 * o + 0x100 * x + 0x10 * y + n)

section Assembled

variable (o x y n : Fin 16)

theorem toNat_assemble : (assemble o x y n).toNat = 0x1000 * o + 0x100 * x + 0x10 * y + n := by
  have ho := o.isLt
  have hx := x.isLt
  have hy := y.isLt
  have hn := n.isLt
  rw [assemble, UInt16.toNat_ofNat_of_lt' (by simp [UInt16.size]; omega)]

theorem fields_assemble :
    let f := Fields.ofInt (assemble o x y n).toNat
    f.opcode = o ∧ f.x = x ∧ f.y = y ∧ f.n = n ∧ f.nn.toNat = 0x10 * y + n := by
  have ho := o.isLt
  have hx := x.isLt
  have hy := y.isLt
  have hn := n.isLt
  intro f
  have hnn : f.nn.toNat = 0x10 * y + n := by
    rw [nn_ofInt, toNat_assemble]
    omega
  refine ⟨Fin.ext ?_, Fin.ext ?_, Fin.ext ?_, Fin.ext ?_, hnn⟩
  all_goals
    simp only [f, Fields.ofInt, nibble, Int.shiftRight_eq_div_pow, toNat_assemble]
    omega

theorem ofWord_assemble_draw : ofWord (assemble 0xD x y n) = draw x y n := by
  obtain ⟨hopcode, hx, hy, hn, -⟩ := fields_assemble 0xD x y n
  simp only [ofWord, ofInt, ofFields, hopcode, hx, hy, hn]
  rfl

theorem ofWord_assemble_decimal : ofWord (assemble 0xF x 0x3 0x3) = decimal x := by
  obtain ⟨hopcode, hx, -, -, hnn⟩ := fields_assemble 0xF x 0x3 0x3
  simp only [ofWord, ofInt, ofFields, ofMiscellaneous, hopcode, hx, hnn]
  rfl

theorem ofWord_assemble_store : ofWord (assemble 0xF x 0x5 0x5) = store x := by
  obtain ⟨hopcode, hx, -, -, hnn⟩ := fields_assemble 0xF x 0x5 0x5
  simp only [ofWord, ofInt, ofFields, ofMiscellaneous, hopcode, hx, hnn]
  rfl

theorem ofWord_assemble_load : ofWord (assemble 0xF x 0x6 0x5) = load x := by
  obtain ⟨hopcode, hx, -, -, hnn⟩ := fields_assemble 0xF x 0x6 0x5
  simp only [ofWord, ofInt, ofFields, ofMiscellaneous, hopcode, hx, hnn]
  rfl

theorem ofWord_assemble_compute {operation : Operation}
    (h : Operation.ofNibble? n = some operation) :
    ofWord (assemble 0x8 x y n) = compute operation x y := by
  obtain ⟨hopcode, hx, hy, hn, -⟩ := fields_assemble 0x8 x y n
  simp only [ofWord, ofInt, ofFields, hopcode, hx, hy, hn, h]
  rfl

end Assembled

end Chip8.Instruction
