import Chip8.Log.Level
import Chip8.Machine.Execute
import Chip8.Machine.Load
import Chip8.Progress

/-!
What the host has to say about a run, with the level and the wording of each message, and why a run
breaks off.
-/

namespace Chip8

inductive Notice
  | loaded (rom : String)
  | rejected (cause : LoadError)
  | controls
  | unknownOpcode (warning : Warning)
  | beep
  | stopped (cycles : Nat)
  | registers (pc index : UInt16) (values : Registers)
deriving DecidableEq

namespace Notice

def level : Notice → Level
  | rejected _ => .error
  | unknownOpcode _ => .warning
  | loaded _ | controls | stopped _ | registers .. => .info
  | beep => .debug

def registerText (number : Fin 16) (value : UInt8) : String :=
  s!"V{Text.hexPadded 1 number.val}:{Text.hexPadded 2 value.toNat}"

def text : Notice → String
  | loaded rom => s!"Loaded: {rom}"
  | rejected cause => cause.message
  | controls => "Controls: 1234/QWER/ASDF/ZXCV = keypad, ESC = quit"
  | unknownOpcode w =>
    s!"Unknown opcode 0x{Text.hexPadded 4 w.raw} at 0x{Text.hexPadded 3 w.address.toNat}"
  | beep => "Beep"
  | stopped cycles => s!"Stopped after {cycles} cycles"
  | registers pc index values =>
    s!"PC: 0x{Text.hexPadded 3 pc.toNat} I: 0x{Text.hexPadded 3 index.toNat} " ++
      " ".intercalate ((List.finRange 16).map fun i => registerText i (values.get i))

/-- The register summary of a machine. -/
def ofRegisters (m : Machine) : Notice := registers m.pc m.index m.registers

end Notice

namespace Host

/-- Why a run breaks off. -/
inductive RunError
  | blankLevel
  | blankSeed
  | blankCycles
  | blankScheme
  | blankScale
  | load (cause : LoadError)
  | counter (cause : CounterError)
deriving DecidableEq

def RunError.message : RunError → String
  | blankLevel => "'list' object has no attribute 'upper'"
  | blankSeed => "unsupported operand type(s) for &: 'list' and 'int'"
  | blankCycles | blankScale => "'>' not supported between instances of 'list' and 'int'"
  | blankScheme => "unhashable type: 'list'"
  | load cause => cause.message
  | counter cause => cause.message

end Host

end Chip8
