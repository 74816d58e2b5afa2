import Chip8.Instruction.Arithmetic

/-!
The instruction set and its reading from words.
-/

namespace Chip8

inductive Instruction
  | clear
  | leave
  | jump (target : Fin 4096)
  | call (target : Fin 4096)
  | skipIfByte (x : Register) (value : UInt8)
  | skipUnlessByte (x : Register) (value : UInt8)
  | skipIfRegister (x y : Register)
  | setByte (x : Register) (value : UInt8)
  | addByte (x : Register) (value : UInt8)
  | compute (operation : Operation) (x y : Register)
  | skipUnlessRegister (x y : Register)
  | setIndex (address : Fin 4096)
  | jumpFromFirst (base : Fin 4096)
  | random (x : Register) (value : UInt8)
  | draw (x y : Register) (rows : Fin 16)
  | skipIfKey (x : Register)
  | skipUnlessKey (x : Register)
  | readDelay (x : Register)
  | waitForKey (x : Register)
  | setDelay (x : Register)
  | setSound (x : Register)
  | addIndex (x : Register)
  | glyph (x : Register)
  | decimal (x : Register)
  | store (last : Register)
  | load (last : Register)
  | unknown (raw : Int)
deriving DecidableEq

namespace Instruction

/-- `0NNN`. The two system instructions are told from the whole word, not from its low bits. -/
def ofSystem (raw : Int) : Instruction :=
  if raw = 0x00E0 then clear else if raw = 0x00EE then leave else unknown raw

/-- `EXNN`. -/
def ofKeySkip (f : Fields) : Instruction :=
  match f.nn.toNat with
  | 0x9E => skipIfKey f.x
  | 0xA1 => skipUnlessKey f.x
  | _ => unknown f.raw

/-- `FXNN`. -/
def ofMiscellaneous (f : Fields) : Instruction :=
  match f.nn.toNat with
  | 0x07 => readDelay f.x
  | 0x0A => waitForKey f.x
  | 0x15 => setDelay f.x
  | 0x18 => setSound f.x
  | 0x1E => addIndex f.x
  | 0x29 => glyph f.x
  | 0x33 => decimal f.x
  | 0x55 => store f.x
  | 0x65 => load f.x
  | _ => unknown f.raw

/-- The register skips `5XYN` and `9XYN` take any last nibble. -/
def ofFields (f : Fields) : Instruction :=
  match f.opcode.val with
  | 0x0 => ofSystem f.raw
  | 0x1 => jump f.nnn
  | 0x2 => call f.nnn
  | 0x3 => skipIfByte f.x f.nn
  | 0x4 => skipUnlessByte f.x f.nn
  | 0x5 => skipIfRegister f.x f.y
  | 0x6 => setByte f.x f.nn
  | 0x7 => addByte f.x f.nn
  | 0x8 =>
    match Operation.ofNibble? f.n with
    | some operation => compute operation f.x f.y
    | none => unknown f.raw
  | 0x9 => skipUnlessRegister f.x f.y
  | 0xA => setIndex f.nnn
  | 0xB => jumpFromFirst f.nnn
  | 0xC => random f.x f.nn
  | 0xD => draw f.x f.y f.n
  | 0xE => ofKeySkip f
  | _ => ofMiscellaneous f

def ofInt (word : Int) : Instruction := ofFields (Fields.ofInt word)

def ofWord (word : UInt16) : Instruction := ofInt word.toNat

end Instruction

end Chip8
