import Chip8.Text.Digit

/-!
Reading whole numbers: blanks around them, a sign, and digits of any script with single
underscores between them.
-/

namespace Chip8.Text

/-- Blanks that may surround a number. The separator controls from `0x1C` to `0x1F` do not
belong to them. -/
def isBlank (c : Char) : Bool :=
  let n := c.toNat
  (0x09 ≤ n && n ≤ 0x0D) || n == 0x20 || n == 0x85 || n == 0xA0 || n == 0x1680 ||
    (0x2000 ≤ n && n ≤ 0x200A) || n == 0x2028 || n == 0x2029 || n == 0x202F || n == 0x205F ||
    n == 0x3000

def trimBlanks (s : List Char) : List Char :=
  ((s.dropWhile isBlank).reverse.dropWhile isBlank).reverse

/-- The digits of a numeral. An underscore has a digit on either side. -/
def digits? : List Char → Option (List Nat)
  | [] => none
  | [c] => (digit? c).map ([·])
  | c :: '_' :: rest => do return (← digit? c) :: (← digits? rest)
  | c :: rest => do return (← digit? c) :: (← digits? rest)

/-- The digits a numeral may have, zeros in front included. -/
def maxDigits : Nat := 4300

def natural? (s : List Char) : Option Nat := do
  let digits ← digits? s
  if digits.length ≤ maxDigits then some (digits.foldl (10 * · + ·) 0) else none

def integer? (s : String) : Option Int :=
  match trimBlanks s.toList with
  | '-' :: rest => (natural? rest).map fun n => -n
  | '+' :: rest => (natural? rest).map Int.ofNat
  | rest => (natural? rest).map Int.ofNat

end Chip8.Text
