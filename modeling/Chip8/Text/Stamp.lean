import Chip8.Text.Padded

/-!
Elapsed time in seconds with two decimals.
-/

namespace Chip8.Text

/-- The whole number nearest to `num / den`; of two equally near ones the even one. -/
def roundHalfEven (num den : Nat) : Nat :=
  let q := num / den
  let r := num % den
  if 2 * r < den then q else if den < 2 * r then q + 1 else q + q % 2

/-- The nearest number with at most so many significant binary digits; of two equally near ones
the one whose digits are even. -/
def roundDigits (digits n : Nat) : Nat :=
  let unit := 1 <<< (n.log2 + 1 - digits)
  roundHalfEven n unit * unit

/-- What a clock shows of a number of ticks: 53 significant binary digits. -/
def reading (ticks : Int) : Int :=
  if ticks < 0 then -roundDigits 53 ticks.natAbs else roundDigits 53 ticks.natAbs

/-- The ticks between two readings of a clock. -/
def elapsed (start now : Int) : Int := reading (reading now - reading start)

/-- Seconds with two decimals, for a clock of `2 ^ bits` ticks a second. -/
def seconds (bits : Nat) (ticks : Int) : String :=
  let hundredths := roundHalfEven (100 * ticks.natAbs) (1 <<< bits)
  let text := toString (hundredths / 100) ++ "." ++ padLeft 2 '0' (toString (hundredths % 100))
  if ticks < 0 then "-" ++ text else text

example : seconds 3 1 = "0.12" ∧ seconds 3 3 = "0.38" ∧ seconds 3 (-1) = "-0.12" := by
  decide +kernel

end Chip8.Text
