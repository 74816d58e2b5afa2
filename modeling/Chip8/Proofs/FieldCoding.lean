import Chip8.Proofs.WideWord
import Mathlib.Data.Int.Bitwise
import Mathlib.Data.Nat.Bitwise

/-! Reading the fields of a word and writing four digits as a word are inverse to each other. The
fields overlap as the digits do, and together they are the low sixteen bits of the word. -/

namespace Chip8

namespace Instruction

theorem ldiff_mask (n k : Nat) : Nat.ldiff (2 ^ k - 1) n = 2 ^ k - (n % 2 ^ k + 1) := by
  have hlt : n % 2 ^ k < 2 ^ k := Nat.mod_lt n (Nat.two_pow_pos k)
  apply Nat.eq_of_testBit_eq
  intro i
  rw [Nat.testBit_ldiff, Nat.testBit_two_pow_sub_one, Nat.testBit_two_pow_sub_succ hlt,
    Nat.testBit_mod_two_pow]
  by_cases hi : i < k
  · simp [hi]
  · simp [hi]

/-- A mask of low bits takes the remainder, of a negative number too. -/
theorem land_mask (word : Int) (k : Nat) : Int.land word (2 ^ k - 1 : Nat) = word % 2 ^ k := by
  cases word with
  | ofNat n =>
    have h : Int.land n (2 ^ k - 1 : Nat) = (n &&& (2 ^ k - 1) : Nat) := rfl
    rw [Int.ofNat_eq_natCast, h, Nat.and_two_pow_sub_one_eq_mod]
    push_cast
    rfl
  | negSucc n =>
    have h : Int.land (Int.negSucc n) (2 ^ k - 1 : Nat) = Nat.ldiff (2 ^ k - 1) n := rfl
    have hlt : n % 2 ^ k < 2 ^ k := Nat.mod_lt n (Nat.two_pow_pos k)
    have hpos : (0 : Int) < 2 ^ k := Int.pow_pos (by decide)
    rw [h, ldiff_mask, Int.negSucc_emod n hpos, Int.ofNat_sub hlt]
    push_cast
    omega

theorem cast_nibble (word : Int) (place : Nat) :
    ((nibble word place).val : Int) = word >>> (4 * place) % 16 :=
  Int.toNat_of_nonneg (by omega)

/-- The fields as remainders of the word. -/
theorem cast_fields (word : Int) :
    let f := Fields.ofInt word
    (f.opcode.val : Int) = word / 0x1000 % 16 ∧ (f.x.val : Int) = word / 0x100 % 16 ∧
      (f.y.val : Int) = word / 0x10 % 16 ∧ (f.n.val : Int) = word % 16 ∧
      (f.nn.toNat : Int) = word % 0x100 ∧ (f.nnn.val : Int) = word % 0x1000 := by
  simp only [Fields.ofInt, cast_nibble, Int.shiftRight_eq_div_pow, UInt8.toNat_ofNat']
  omega

/-- The fields as the shifts and masks that cut them out of the word. -/
theorem cast_fields_land (word : Int) :
    let f := Fields.ofInt word
    (f.opcode.val : Int) = Int.land (word >>> (12 : Nat)) 0xF ∧
      (f.x.val : Int) = Int.land (word >>> (8 : Nat)) 0xF ∧
      (f.y.val : Int) = Int.land (word >>> (4 : Nat)) 0xF ∧ (f.n.val : Int) = Int.land word 0xF ∧
      (f.nn.toNat : Int) = Int.land word 0xFF ∧ (f.nnn.val : Int) = Int.land word 0xFFF := by
  have hdigit (i : Int) : Int.land i 0xF = i % 16 := land_mask i 4
  have hbyte : Int.land word 0xFF = word % 0x100 := land_mask word 8
  have haddress : Int.land word 0xFFF = word % 0x1000 := land_mask word 12
  rw [hdigit, hdigit, hdigit, hdigit, hbyte, haddress]
  simp only [Int.shiftRight_eq_div_pow]
  exact cast_fields word

theorem fields_ofDigits (m : Int) (o x y n : Fin 16) :
    let f := Fields.ofInt (0x10000 * m + 0x1000 * o.val + 0x100 * x.val + 0x10 * y.val + n.val)
    f.opcode = o ∧ f.x = x ∧ f.y = y ∧ f.n = n := by
  intro f
  obtain ⟨hopcode, hx, hy, hn, -, -⟩ := cast_fields
    (0x10000 * m + 0x1000 * o.val + 0x100 * x.val + 0x10 * y.val + n.val)
  refine ⟨Fin.ext ?_, Fin.ext ?_, Fin.ext ?_, Fin.ext ?_⟩ <;> dsimp only [f]
  · omega
  · omega
  · omega
  · omega

theorem ofInt_eq_iff {word other : Int} :
    Fields.ofInt word = { Fields.ofInt other with raw := word } ↔
      word % 0x10000 = other % 0x10000 := by
  constructor
  · intro h
    have hopcode : (Fields.ofInt word).opcode = (Fields.ofInt other).opcode := by rw [h]
    have haddress : (Fields.ofInt word).nnn = (Fields.ofInt other).nnn := by rw [h]
    obtain ⟨ho, -, -, -, -, hnnn⟩ := cast_fields word
    obtain ⟨ho', -, -, -, -, hnnn'⟩ := cast_fields other
    rw [hopcode] at ho
    rw [haddress] at hnnn
    omega
  · intro h
    have hlow : { Fields.ofInt word with raw := word % 0x10000 } =
        { Fields.ofInt other with raw := word % 0x10000 } := by
      rw [← ofInt_emod, h, ofInt_emod]
    exact congrArg (fun f : Fields => { f with raw := word }) hlow

/-- A word of any size and sign has four digits, of which the other fields are made, and they are
its low sixteen bits. Every choice of digits is read back, whatever stands above them, so words with
the same fields are those with the same low sixteen bits. -/
theorem fields_coding :
    (∀ word : Int,
      let f := Fields.ofInt word
      f.raw = word ∧ f.opcode.val < 16 ∧ f.x.val < 16 ∧ f.y.val < 16 ∧ f.n.val < 16 ∧
        f.nn.toNat = 16 * f.y.val + f.n.val ∧ f.nnn.val = 256 * f.x.val + f.nn.toNat ∧
        (4096 * f.opcode.val + f.nnn.val : Int) = word % 0x10000 ∧
        (f.opcode.val : Int) = Int.land (word >>> (12 : Nat)) 0xF ∧
        (f.x.val : Int) = Int.land (word >>> (8 : Nat)) 0xF ∧
        (f.y.val : Int) = Int.land (word >>> (4 : Nat)) 0xF ∧ (f.n.val : Int) = Int.land word 0xF ∧
        (f.nn.toNat : Int) = Int.land word 0xFF ∧ (f.nnn.val : Int) = Int.land word 0xFFF) ∧
    (∀ (m : Int) (o x y n : Fin 16),
      let f := Fields.ofInt (0x10000 * m + 0x1000 * o.val + 0x100 * x.val + 0x10 * y.val + n.val)
      f.opcode = o ∧ f.x = x ∧ f.y = y ∧ f.n = n) ∧
    ∀ word other : Int,
      Fields.ofInt word = { Fields.ofInt other with raw := word } ↔
        word % 0x10000 = other % 0x10000 := by
  refine ⟨?_, fields_ofDigits, fun word other => ofInt_eq_iff⟩
  intro word f
  obtain ⟨hopcode, hx, hy, hn, hnn, hnnn⟩ := cast_fields word
  refine ⟨rfl, f.opcode.isLt, f.x.isLt, f.y.isLt, f.n.isLt, ?_, ?_, ?_, cast_fields_land word⟩ <;>
    dsimp only [f]
  · omega
  · omega
  · omega

end Instruction

end Chip8
