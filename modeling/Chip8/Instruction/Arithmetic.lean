import Chip8.Instruction.Fields

/-!
The operations `8XYN` on two register values. Each has a result, and all but the copy and the
bitwise ones have a flag.
-/

namespace Chip8

inductive Operation
  | copy
  | or
  | and
  | xor
  | add
  | subtract
  | shiftRight
  | subtractFrom
  | shiftLeft
deriving DecidableEq

namespace Operation

/-- The operation a last nibble selects. -/
def ofNibble? (n : Fin 16) : Option Operation :=
  match n.val with
  | 0x0 => some copy
  | 0x1 => some or
  | 0x2 => some and
  | 0x3 => some xor
  | 0x4 => some add
  | 0x5 => some subtract
  | 0x6 => some shiftRight
  | 0x7 => some subtractFrom
  | 0xE => some shiftLeft
  | _ => none

def result (a b : UInt8) : Operation → UInt8
  | copy => b
  | or => a ||| b
  | and => a &&& b
  | xor => a ^^^ b
  | add => a + b
  | subtract => a - b
  | shiftRight => a >>> 1
  | subtractFrom => b - a
  | shiftLeft => a <<< 1

/-- Carry, "strictly greater" for the subtractions, or the bit shifted out. -/
def flag? (a b : UInt8) : Operation → Option UInt8
  | copy | or | and | xor => none
  | add => some (decide (0xFF < a.toNat + b.toNat)).toUInt8
  | subtract => some (decide (b < a)).toUInt8
  | shiftRight => some (a &&& 1)
  | subtractFrom => some (decide (a < b)).toUInt8
  | shiftLeft => some (a >>> 7)

end Operation

end Chip8
