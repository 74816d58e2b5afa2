import Chip8.Display
import Chip8.Font
import Chip8.Keypad
import Chip8.Memory
import Chip8.Random
import Chip8.Stack

/-!
The state of the machine. The program counter and the index register are full 16-bit words; only
memory looks at their low twelve bits.
-/

namespace Chip8

abbrev Registers := Vector UInt8 16

structure Machine where
  memory : Memory
  registers : Registers
  index : UInt16
  pc : UInt16
  stack : Stack
  delay : UInt8
  sound : UInt8
  keypad : Keypad
  display : Display
  random : Random.Key
  /-- The sound timer was running at the last timer step. -/
  beep : Bool
  /-- The last cycle was held on its instruction. -/
  stalled : Bool
deriving DecidableEq

namespace Machine

abbrev registerCount : Nat := 16

/-- Where programs are loaded and start. -/
abbrev programStart : Nat := 0x200

/-- The machine when it is switched on: the font in memory and the rest clear. -/
def create (seed : Int) : Machine where
  memory := Memory.blank.writeBlock (UInt16.ofNat Font.start) Font.glyphs
  registers := Vector.replicate 16 0
  index := 0
  pc := UInt16.ofNat programStart
  stack := Stack.empty
  delay := 0
  sound := 0
  keypad := Keypad.released
  display := Display.blank
  random := Random.Key.ofSeed seed
  beep := false
  stalled := false

def press (m : Machine) (event : KeyEvent) : Machine :=
  { m with keypad := m.keypad.apply event }

end Machine

end Chip8
