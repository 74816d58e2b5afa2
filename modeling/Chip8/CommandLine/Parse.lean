import Chip8.CommandLine.Usage
import Chip8.CommandLine.Word

/-!
Reading a command line. The first value that belongs to no flag is the ROM; whatever nobody
takes is left over and refused at the end.
-/

namespace Chip8.CommandLine

/-- What has been read so far. -/
structure Draft where
  options : Options := {}
  rom? : Option String := none
  leftOver : List String := []
deriving DecidableEq

namespace Draft

def leave (d : Draft) (texts : List String) : Draft :=
  { d with leftOver := d.leftOver ++ texts }

def take (d : Draft) (rom : String) : Draft := { d with rom? := some rom }

/-- The effect of asking for help. The flag takes no value, but letters `h` attached to the short
one repeat it. -/
def askHelp (short : Bool) : Option String → Exit
  | none => .help
  | some text =>
    let rest := if short then text.toList.dropWhile (· == 'h') else text.toList
    if rest.isEmpty && !text.isEmpty then .help
    else .refused (.needlessValue .help (String.ofList rest))

def assign (d : Draft) (flag : Flag) (text : String) : Except Exit Draft :=
  match flag.assign text d.options with
  | .ok options => .ok { d with options }
  | .error cause => .error (.refused cause)

/-- Reads the words in order. A terminator next to the value that becomes the ROM goes with it. -/
def read (d : Draft) : List Word → Except Exit Draft
  | [] => .ok d
  | .flag .help short attached? :: _ => .error (askHelp short attached?)
  | .flag flag _ (some text) :: rest => do (← d.assign flag text).read rest
  | .flag flag _ none :: .value text :: rest => do (← d.assign flag text).read rest
  | .flag flag _ none :: _ => .error (.refused (.missingValue flag))
  | .unknown text :: rest => (d.leave [text]).read rest
  | .value text :: .terminator :: rest =>
    if d.rom?.isNone then (d.take text).read rest else (d.leave [text, terminator]).read rest
  | .value text :: rest =>
    if d.rom?.isNone then (d.take text).read rest else (d.leave [text]).read rest
  | .terminator :: .value text :: rest =>
    if d.rom?.isNone then (d.take text).read rest else (d.leave [terminator, text]).read rest
  | .terminator :: rest => (d.leave [terminator]).read rest

def finish (d : Draft) : Except Exit Settings :=
  match d.rom?, d.leftOver with
  | none, _ => .error (.refused .missingRom)
  | some rom, [] => .ok { d.options with rom }
  | some _, texts => .error (.refused (.leftOver texts))

end Draft

/-- The settings of a command line, or why there are none. -/
def parse (arguments : List String) : Except Exit Settings :=
  match Word.ofTexts arguments with
  | .error cause => .error (.refused cause)
  | .ok words => do (← Draft.read {} words).finish

end Chip8.CommandLine
