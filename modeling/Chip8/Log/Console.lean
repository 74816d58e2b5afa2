import Chip8.Log.Level
import Chip8.Text.Stamp

/-!
The console that log messages are written to. It drops messages below its threshold and puts a
time stamp, the level and its own name in front of the others.
-/

namespace Chip8

structure Console where
  name : String := "chipax"
  threshold : Level := .info
  colors : Bool := true
  timestamps : Bool := true
  /-- Whether the text goes to a terminal, which alone is given colors. -/
  terminal : Bool := false
  /-- The clock at the start. It counts binary fractions of a second, of so many digits. -/
  start : Int := 0
  bits : Nat := 22
deriving DecidableEq

namespace Console

/-- What a console can be asked for. Levels come by name, except in the five plain calls. -/
inductive Request
  | setThreshold (level : String)
  | isEnabled (level : String)
  | log (level message : String)
  | message (level : Level) (text : String)
deriving DecidableEq

/-- What a request printed, and the answer if it asked. -/
structure Reply where
  printed : String
  enabled? : Option Bool
deriving DecidableEq

def colorCode : Level → String
  | .debug => "36"
  | .info => "32"
  | .warning => "33"
  | .error => "31"
  | .critical => "35"

def tag (c : Console) (level : Level) : String :=
  let plain := "[" ++ Text.padLeft 8 ' ' level.name ++ "]"
  if c.colors && c.terminal then "\x1b[" ++ colorCode level ++ "m" ++ plain ++ "\x1b[0m" else plain

def stamp (c : Console) (now : Int) : String :=
  if c.timestamps then
    "[" ++ Text.padLeft 8 ' ' (Text.seconds c.bits (Text.elapsed c.start now)) ++ "s]"
  else ""

def line (c : Console) (now : Int) (level : Level) (text : String) : String :=
  c.stamp now ++ c.tag level ++ "[" ++ c.name ++ "] " ++ text

def print (c : Console) (now : Int) (level : Level) (text : String) : String :=
  if c.threshold ≤ level then c.line now level text ++ "\n" else ""

/-- Serves a request at a time. A refused one leaves the console as it was. -/
def serve (c : Console) (now : Int) : Request → Except LevelError (Console × Reply)
  | .setThreshold name => do
    let level ← Level.threshold? name
    return ({ c with threshold := level }, ⟨"", none⟩)
  | .isEnabled name => do
    let level ← Level.named? name
    return (c, ⟨"", some (decide (c.threshold ≤ level))⟩)
  | .log name text => do
    let level ← Level.named? name
    return (c, ⟨c.print now level text, none⟩)
  | .message level text => .ok (c, ⟨c.print now level text, none⟩)

end Console

end Chip8
