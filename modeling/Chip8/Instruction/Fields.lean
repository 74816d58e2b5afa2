import Chip8.Nibble

/-!
The fields of an instruction word, laid out as `oxyn` in hexadecimal. A word is any integer in
two's complement; the fields see its low sixteen bits.
-/

namespace Chip8

namespace Instruction

structure Fields where
  raw : Int
  opcode : Fin 16
  x : Register
  y : Register
  n : Fin 16
  /-- The low byte, `yn`. -/
  nn : UInt8
  /-- The low twelve bits, `xyn`. -/
  nnn : Fin 4096
deriving DecidableEq

/-- The hexadecimal digit at a place, counted from the last. -/
def nibble (word : Int) (place : Nat) : Fin 16 :=
  ⟨(word >>> (4 * place) % 16).toNat, by omega⟩

def Fields.ofInt (word : Int) : Fields where
  raw := word
  opcode := nibble word 3
  x := nibble word 2
  y := nibble word 1
  n := nibble word 0
  nn := UInt8.ofNat (word % 256).toNat
  nnn := ⟨(word % 4096).toNat, by omega⟩

end Instruction

end Chip8
