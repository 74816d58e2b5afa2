import Chip8.Picture.Basic

/-!
Pictures of displays and colors that come as plain numbers. Checks are made in the order display
values, display length, lit color, unlit color, and of a color first the components and then
their count.
-/

namespace Chip8

inductive PictureError
  | valueRange (value : Int)
  /-- The value does not even fit 64 bits with sign. -/
  | valueSize
  | displayLength (length : Nat)
  | colorShape (components cells : Nat)
deriving DecidableEq

def PictureError.message : PictureError → String
  | valueRange value => s!"Python integer {value} out of bounds for uint8"
  | valueSize => "Python int too large to convert to C long"
  | displayLength length => s!"cannot reshape array of size {length} into shape (32,64)"
  | colorShape components cells =>
    s!"shape mismatch: value array of shape ({components},) could not be broadcast to " ++
      s!"indexing result of shape ({cells},3)"

namespace Picture

/-- The complaint about a number that is no byte. -/
def valueError (value : Int) : PictureError :=
  if -0x8000000000000000 ≤ value ∧ value < 0x8000000000000000 then .valueRange value else .valueSize

/-- Numbers as bytes, or the first that is none. -/
def bytes? (values : List Int) : Except PictureError (List UInt8) :=
  match values.find? fun v => v < 0 ∨ 255 < v with
  | some v => .error (valueError v)
  | none => .ok (values.map fun v => UInt8.ofNat v.toNat)

/-- The display of 2048 bytes, a cell being lit if its byte is not zero. -/
def display? (values : List Int) : Except PictureError Display := do
  let bytes ← bytes? values
  if h : bytes.length = 2048 then
    return ⟨(bytes.map (· != 0)).toArray, by simp [h]⟩
  else
    throw (.displayLength bytes.length)

/-- A color of three components, or of one that serves for all three. The error tells how many
cells were to be given the color. -/
def color? (components : List Int) (cells : Nat) : Except PictureError Color := do
  match ← bytes? components with
  | [r, g, b] => return ⟨r, g, b⟩
  | [v] => return ⟨v, v, v⟩
  | other => throw (.colorShape other.length cells)

def render? (values : List Int) (scale : Int) (on off : List Int) :
    Except PictureError Picture := do
  let display ← display? values
  let lit := display.toList.count true
  let on ← color? on lit
  let off ← color? off (2048 - lit)
  return paint on off scale display

end Picture

end Chip8
