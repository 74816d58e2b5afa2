import Chip8.Proofs.Footprint
import Chip8.Proofs.InstructionTable

/-! The operations `8XYN` in whole numbers. Both values are taken before anything is written, so
that the registers may be the same, and either of them the one for the flag. -/

namespace Chip8

namespace Operation

/-- The last digit of the words of an operation. -/
def lastNibble : Operation → Fin 16
  | copy => 0x0
  | or => 0x1
  | and => 0x2
  | xor => 0x3
  | add => 0x4
  | subtract => 0x5
  | shiftRight => 0x6
  | subtractFrom => 0x7
  | shiftLeft => 0xE

/-- What comes of the values `a` and `b`: a result, and a flag where the operation has one. -/
inductive Yields (a b : Nat) : Operation → Nat → Option Nat → Prop
  | copy : Yields a b copy b none
  | or : Yields a b or (a ||| b) none
  | and : Yields a b and (a &&& b) none
  | xor : Yields a b xor (a ^^^ b) none
  | add {r f : Nat} (sum : r + 256 * f = a + b) : Yields a b add r (some f)
  | subtract {r f : Nat} (difference : (r : Int) = ((a : Int) - b) % 256) (flag : f = 1 ↔ a > b) :
    Yields a b subtract r (some f)
  | shiftRight {r f : Nat} (halves : 2 * r + f = a) : Yields a b shiftRight r (some f)
  | subtractFrom {r f : Nat} (difference : (r : Int) = ((b : Int) - a) % 256)
    (flag : f = 1 ↔ b > a) : Yields a b subtractFrom r (some f)
  | shiftLeft {r f : Nat} (double : r + 256 * f = 2 * a) : Yields a b shiftLeft r (some f)

theorem ofNibble?_lastNibble (operation : Operation) :
    ofNibble? operation.lastNibble = some operation := by
  cases operation <;> rfl

theorem toNat_flag (condition : Bool) : condition.toUInt8.toNat = if condition then 1 else 0 := by
  cases condition <;> rfl

theorem toNat_flag_eq_one_iff {condition : Prop} [Decidable condition] :
    (decide condition).toUInt8.toNat = 1 ↔ condition := by
  by_cases h : condition <;> simp [toNat_flag, h]

theorem carry_add (a b : UInt8) :
    (a + b).toNat + 256 * (decide (0xFF < a.toNat + b.toNat)).toUInt8.toNat =
      a.toNat + b.toNat := by
  have ha := a.toNat_lt
  have hb := b.toNat_lt
  rw [UInt8.toNat_add, toNat_flag]
  by_cases hcarry : 0xFF < a.toNat + b.toNat
  · rw [decide_eq_true hcarry, if_pos rfl]
    omega
  · rw [decide_eq_false hcarry, if_neg Bool.false_ne_true]
    omega

theorem toNat_sub_eq (a b : UInt8) :
    ((a - b).toNat : Int) = ((a.toNat : Int) - b.toNat) % 256 := by
  have hb := b.toNat_lt
  rw [UInt8.toNat_sub]
  omega

theorem toNat_and_one (a : UInt8) : (a &&& 1).toNat = a.toNat % 2 := by
  rw [UInt8.toNat_and]
  exact Nat.and_one_is_mod _

theorem toNat_shiftRight_seven (a : UInt8) : (a >>> 7).toNat = a.toNat / 128 := by
  rw [UInt8.toNat_shiftRight]
  exact Nat.shiftRight_eq_div_pow _ 7

theorem halves_shiftRight (a : UInt8) : 2 * (a >>> 1).toNat + (a &&& 1).toNat = a.toNat := by
  have hhalf : (a >>> 1).toNat = a.toNat / 2 := by
    rw [UInt8.toNat_shiftRight]
    exact Nat.shiftRight_eq_div_pow _ 1
  rw [hhalf, toNat_and_one]
  omega

theorem double_shiftLeft (a : UInt8) :
    (a <<< 1).toNat + 256 * (a >>> 7).toNat = 2 * a.toNat := by
  have ha := a.toNat_lt
  have hdouble : (a <<< 1).toNat = 2 * a.toNat % 256 := by
    rw [UInt8.toNat_shiftLeft, Nat.mul_comm]
    exact congrArg (· % 256) (Nat.shiftLeft_eq _ 1)
  rw [hdouble, toNat_shiftRight_seven]
  omega

theorem flag?_le_one {operation : Operation} {a b f : UInt8}
    (h : operation.flag? a b = some f) : f.toNat ≤ 1 := by
  have ha := a.toNat_lt
  cases operation with
  | copy | or | and | xor => cases h
  | add | subtract | subtractFrom =>
    obtain rfl := Option.some.inj h
    rw [toNat_flag]
    split <;> decide
  | shiftRight =>
    obtain rfl := Option.some.inj h
    rw [toNat_and_one]
    omega
  | shiftLeft =>
    obtain rfl := Option.some.inj h
    rw [toNat_shiftRight_seven]
    omega

theorem yields_result_flag? (operation : Operation) (a b : UInt8) :
    operation.Yields a.toNat b.toNat (operation.result a b).toNat
      ((operation.flag? a b).map UInt8.toNat) := by
  cases operation with
  | copy => exact .copy
  | or =>
    rw [result, UInt8.toNat_or]
    exact .or
  | and =>
    rw [result, UInt8.toNat_and]
    exact .and
  | xor =>
    rw [result, UInt8.toNat_xor]
    exact .xor
  | add => exact .add (carry_add a b)
  | subtract =>
    have hflag : (decide (b < a)).toUInt8.toNat = 1 ↔ b < a := toNat_flag_eq_one_iff
    exact .subtract (toNat_sub_eq a b) (hflag.trans UInt8.lt_iff_toNat_lt)
  | shiftRight => exact .shiftRight (halves_shiftRight a)
  | subtractFrom =>
    have hflag : (decide (a < b)).toUInt8.toNat = 1 ↔ a < b := toNat_flag_eq_one_iff
    exact .subtractFrom (toNat_sub_eq b a) (hflag.trans UInt8.lt_iff_toNat_lt)
  | shiftLeft => exact .shiftLeft (double_shiftLeft a)

end Operation

namespace Machine

variable (m : Machine) (operation : Operation) (x y : Register)

/-- The word `8XYN` of an operation, executed. -/
def calculate : Machine :=
  (m.execute (.ofWord (Instruction.assemble 0x8 x y operation.lastNibble))).machine

theorem get_setRegister (value : UInt8) (j : Register) :
    (m.setRegister x value).registers.get j = if j = x then value else m.registers.get j :=
  get_set m.registers x j value

theorem execute_compute :
    m.execute (.ofWord (Instruction.assemble 0x8 x y operation.lastNibble)) =
      ⟨m.compute operation x y, none⟩ := by
  rw [Instruction.ofWord_assemble_compute x y _ operation.ofNibble?_lastNibble]
  rfl

theorem calculate_eq : m.calculate operation x y = m.compute operation x y := by
  rw [calculate, execute_compute]

theorem get_compute (j : Register) :
    (m.compute operation x y).registers.get j =
      if j = x then operation.result (m.registers.get x) (m.registers.get y)
      else if j = 0xF then
        (operation.flag? (m.registers.get x) (m.registers.get y)).getD (m.registers.get 0xF)
      else m.registers.get j := by
  rw [compute_eq]
  dsimp only
  rw [get_setRegister]
  cases operation.flag? (m.registers.get x) (m.registers.get y) with
  | none =>
    by_cases hj : j = 0xF
    · rw [if_pos hj, hj]
      rfl
    · rw [if_neg hj]
      rfl
  | some flag =>
    rw [Option.elim_some, get_setRegister]
    rfl

theorem get_calculate_of_ne {j : Register} (hx : j ≠ x) (hflag : j ≠ 0xF) :
    (m.calculate operation x y).registers.get j = m.registers.get j := by
  rw [calculate_eq, get_compute, if_neg hx, if_neg hflag]

theorem get_calculate_self :
    (m.calculate operation x y).registers.get x =
      operation.result (m.registers.get x) (m.registers.get y) := by
  rw [calculate_eq, get_compute, if_pos rfl]

theorem get_calculate_xor (j : Register) :
    (m.calculate .xor x y).registers.get j =
      if j = x then m.registers.get x ^^^ m.registers.get y else m.registers.get j := by
  rw [calculate_eq, get_compute]
  by_cases hj : j = 0xF
  · rw [if_pos hj, hj]
    rfl
  · rw [if_neg hj]
    rfl

theorem get_swapped {x y : Register} (hxy : x ≠ y) (j : Register) :
    (((m.calculate .xor x y).calculate .xor y x).calculate .xor x y).registers.get j =
      if j = x then m.registers.get y else if j = y then m.registers.get x
      else m.registers.get j := by
  have honce_x : (m.calculate .xor x y).registers.get x =
      m.registers.get x ^^^ m.registers.get y := by
    rw [get_calculate_xor, if_pos rfl]
  have honce_y : (m.calculate .xor x y).registers.get y = m.registers.get y := by
    rw [get_calculate_xor, if_neg hxy.symm]
  have htwice_x : ((m.calculate .xor x y).calculate .xor y x).registers.get x =
      m.registers.get x ^^^ m.registers.get y := by
    rw [get_calculate_xor, if_neg hxy, honce_x]
  have htwice_y : ((m.calculate .xor x y).calculate .xor y x).registers.get y =
      m.registers.get x := by
    rw [get_calculate_xor, if_pos rfl, honce_x, honce_y, UInt8.xor_comm, UInt8.xor_assoc,
      UInt8.xor_self, UInt8.xor_zero]
  rw [get_calculate_xor]
  by_cases hx : j = x
  · rw [if_pos hx, if_pos hx, htwice_x, htwice_y, UInt8.xor_comm, ← UInt8.xor_assoc,
      UInt8.xor_self, UInt8.zero_xor]
  · rw [if_neg hx, if_neg hx]
    by_cases hy : j = y
    · rw [if_pos hy, hy, htwice_y]
    · rw [if_neg hy, get_calculate_xor, if_neg hy, get_calculate_xor, if_neg hx]

theorem get_calculate_add_subtract {x y : Register} (hxy : x ≠ y) (hy : y ≠ 0xF) :
    ((m.calculate .add x y).calculate .subtract x y).registers.get x = m.registers.get x := by
  have hsum : (m.calculate .add x y).registers.get x = m.registers.get x + m.registers.get y :=
    get_calculate_self m .add x y
  have hother : (m.calculate .add x y).registers.get y = m.registers.get y :=
    get_calculate_of_ne m .add x y hxy.symm hy
  have hdifference := get_calculate_self (m.calculate .add x y) .subtract x y
  rw [hdifference, hsum, hother]
  exact UInt8.add_sub_cancel _ _

/-- The result and the flag of every operation are as in whole numbers. The result stays in a
register that is the one for the flag, and every other register is kept, so that values can be
exchanged without a third register and a sum can be taken back. -/
theorem register_arithmetic (m : Machine) (x y : Register) :
    (∀ operation : Operation,
      let a := m.registers.get x
      let b := m.registers.get y
      let r := operation.result a b
      let flag? := operation.flag? a b
      let word := Instruction.assemble 0x8 x y operation.lastNibble
      let after := (m.execute (.ofWord word)).machine
      operation.Yields a.toNat b.toNat r.toNat (flag?.map UInt8.toNat) ∧
        (∀ f, flag? = some f → f.toNat ≤ 1) ∧
        m.execute (.ofWord word) = ⟨{ m with registers := after.registers }, none⟩ ∧
        after.registers.get x = r ∧
        (x ≠ 0xF → after.registers.get 0xF = flag?.getD (m.registers.get 0xF)) ∧
        ∀ j, j ≠ x → j ≠ 0xF → after.registers.get j = m.registers.get j) ∧
    (x ≠ y →
      let swapped := ((m.calculate .xor x y).calculate .xor y x).calculate .xor x y
      swapped.registers.get x = m.registers.get y ∧
        swapped.registers.get y = m.registers.get x ∧
        ∀ j, j ≠ x → j ≠ y → swapped.registers.get j = m.registers.get j) ∧
    (x ≠ y → y ≠ 0xF →
      ((m.calculate .add x y).calculate .subtract x y).registers.get x = m.registers.get x) := by
  refine ⟨?_, ?_, fun hxy hy => m.get_calculate_add_subtract hxy hy⟩
  · intro operation a b r flag? word after
    have hafter : after = m.compute operation x y := m.calculate_eq operation x y
    refine ⟨operation.yields_result_flag? a b, fun f hf => Operation.flag?_le_one hf, ?_,
      m.get_calculate_self operation x y, ?_, fun j => m.get_calculate_of_ne operation x y⟩
    · rw [m.execute_compute operation x y, hafter, compute_eq]
    · intro hx
      rw [hafter, get_compute, if_neg hx.symm, if_pos rfl]
  · intro hxy swapped
    refine ⟨?_, ?_, ?_⟩
    · rw [get_swapped m hxy, if_pos rfl]
    · rw [get_swapped m hxy, if_neg hxy.symm, if_pos rfl]
    · intro j hx hy
      rw [get_swapped m hxy, if_neg hx, if_neg hy]

/-- Two numbers whose sum is no byte. -/
def summing : Machine :=
  { create 0 with registers := #v[0, 200, 100, 0, 0, 0, 0, 0, 0, 0, 0, 0, 0, 0, 0, 7] }

theorem register_arithmetic_summing :
    let added := summing.calculate .add 1 2
    let swapped := ((summing.calculate .xor 1 2).calculate .xor 2 1).calculate .xor 1 2
    (1 : Register) ≠ 2 ∧ (1 : Register) ≠ 0xF ∧ (2 : Register) ≠ 0xF ∧
      Operation.add.flag? 200 100 = some 1 ∧ (1 : UInt8).toNat ≤ 1 ∧
      added.registers.get 1 = 44 ∧ added.registers.get 0xF = 1 ∧ (3 : Register) ≠ 1 ∧
      (3 : Register) ≠ 0xF ∧ added.registers.get 3 = 0 ∧
      swapped.registers.get 1 = 100 ∧ swapped.registers.get 2 = 200 ∧ (0xF : Register) ≠ 1 ∧
      (0xF : Register) ≠ 2 ∧ swapped.registers.get 0xF = 7 ∧
      (added.calculate .subtract 1 2).registers.get 1 = 200 := by
  intro added swapped
  obtain ⟨hoperations, hswap, hback⟩ := register_arithmetic summing 1 2
  obtain ⟨-, hle, -, hresult, hflag, hother⟩ := hoperations .add
  have hxy : (1 : Register) ≠ 2 := by decide
  have hx : (1 : Register) ≠ 0xF := by decide
  have hy : (2 : Register) ≠ 0xF := by decide
  obtain ⟨hfirst, hsecond, hkept⟩ := hswap hxy
  exact ⟨hxy, hx, hy, rfl, hle 1 rfl, hresult, hflag hx, by decide, by decide,
    hother 3 (by decide) (by decide), hfirst, hsecond, by decide, by decide,
    hkept 0xF (by decide) (by decide), hback hxy hy⟩

end Machine

end Chip8
