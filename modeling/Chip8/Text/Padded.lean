/-!
Numbers padded to a width, in hexadecimal and in groups of three decimal digits.
-/

namespace Chip8.Text

def padLeft (width : Nat) (fill : Char) (s : String) : String :=
  String.ofList (List.replicate (width - s.length) fill) ++ s

def upperHex (n : Nat) : String := String.ofList ((Nat.toDigits 16 n).map Char.toUpper)

/-- At least `width` characters, filled up with zeros after the sign, which counts as one. -/
def hexPadded (width : Nat) (i : Int) : String :=
  if i < 0 then "-" ++ padLeft (width - 1) '0' (upperHex i.natAbs)
  else padLeft width '0' (upperHex i.natAbs)

/-- Puts a comma after every third digit, the last digit coming first. -/
def commaGroups : List Char → List Char
  | a :: b :: c :: d :: rest => a :: b :: c :: ',' :: commaGroups (d :: rest)
  | digits => digits

/-- Decimal with a comma between thousands. -/
def thousands (i : Int) : String :=
  let digits := String.ofList (commaGroups (Nat.toDigits 10 i.natAbs).reverse).reverse
  if i < 0 then "-" ++ digits else digits

example : hexPadded 4 0x123 = "0123" ∧ hexPadded 4 (-1) = "-001" ∧
    hexPadded 3 0x12345 = "12345" := by
  decide +kernel

example : thousands 1234567 = "1,234,567" ∧ thousands 999 = "999" ∧
    thousands (-1000) = "-1,000" := by
  decide +kernel

end Chip8.Text
