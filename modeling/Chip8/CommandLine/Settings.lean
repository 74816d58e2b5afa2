import Chip8.CommandLine.Entry
import Chip8.Log.Level
import Chip8.Picture.Color
import Chip8.Text.Numeral

/-!
The command line's options and the settings they are read into.
-/

namespace Chip8.CommandLine

/-- What a run of the program can be told. -/
structure Options where
  scale : Entry Int := .value 16
  fps : Entry Int := .value 60
  scheme : Entry Scheme := .value .white
  seed? : Option (Entry Int) := none
  level : Entry Level := .value .info
  /-- The cycles of a run without a window. -/
  cycles? : Option (Entry Int) := none
deriving DecidableEq

structure Settings extends Options where
  rom : String
deriving DecidableEq

inductive Flag
  | help
  | scale
  | fps
  | colorScheme
  | seed
  | logLevel
  | cycles
deriving DecidableEq

namespace Flag

def all : List Flag := [help, scale, fps, colorScheme, seed, logLevel, cycles]

def name : Flag → String
  | help => "--help"
  | scale => "--scale"
  | fps => "--fps"
  | colorScheme => "--color-scheme"
  | seed => "--seed"
  | logLevel => "--log-level"
  | cycles => "--cycles"

/-- The short spelling of the one flag that has one. -/
def shortHelp : String := "-h"

/-- How messages call a flag. -/
def label : Flag → String
  | help => shortHelp ++ "/" ++ help.name
  | flag => flag.name

/-- The texts a flag takes, if they are limited. -/
def choices? : Flag → Option (List String)
  | colorScheme => some (Scheme.all.map Scheme.name)
  | logLevel => some (Level.all.map Level.name)
  | _ => none

/-- What stands for the value in descriptions. -/
def placeholder? (flag : Flag) : Option String :=
  match flag, flag.choices? with
  | help, _ => none
  | _, some choices => some ("\x7b" ++ ",".intercalate choices ++ "\x7d")
  | _, none => some (String.ofList ((flag.name.toList.drop 2).map Char.toUpper))

def description : Flag → String
  | help => "show this help message and exit"
  | scale => "Window upscaling factor (default: 16)"
  | fps => "Frames per second, one cycle per frame (default: 60)"
  | colorScheme => "Display colors (default: white)"
  | seed => "Random seed for CXNN (default: wall clock)"
  | logLevel => "Console log level (default: INFO)"
  | cycles => "Run this many cycles headless and print the registers"

end Flag

/-- Why a command line is refused. -/
inductive UsageError
  | ambiguous (text : String) (candidates : List Flag)
  | missingValue (flag : Flag)
  | invalidNumber (flag : Flag) (text : String)
  | invalidChoice (flag : Flag) (text : String)
  | needlessValue (flag : Flag) (text : String)
  | missingRom
  | leftOver (texts : List String)
deriving DecidableEq

def UsageError.message : UsageError → String
  | ambiguous text candidates =>
    s!"ambiguous option: {text} could match {Text.commaSeparated (candidates.map Flag.name)}"
  | missingValue flag => s!"argument {flag.label}: expected one argument"
  | invalidNumber flag text => s!"argument {flag.label}: invalid int value: {Text.quoted text}"
  | invalidChoice flag text =>
    let choices := Text.commaSeparated ((flag.choices?.getD []).map Text.quoted)
    s!"argument {flag.label}: invalid choice: {Text.quoted text} (choose from {choices})"
  | needlessValue flag text =>
    s!"argument {flag.label}: ignored explicit argument {Text.quoted text}"
  | missingRom => "the following arguments are required: rom"
  | leftOver texts => "unrecognized arguments: " ++ " ".intercalate texts

namespace Flag

def number (flag : Flag) (text : String) : Except UsageError Int :=
  match Text.integer? text with
  | some n => .ok n
  | none => .error (.invalidNumber flag text)

def scheme (flag : Flag) (text : String) : Except UsageError Scheme :=
  match Scheme.ofName? text with
  | some scheme => .ok scheme
  | none => .error (.invalidChoice flag text)

def level (flag : Flag) (text : String) : Except UsageError Level :=
  match Level.ofName? text with
  | some level => .ok level
  | none => .error (.invalidChoice flag text)

/-- Puts the value of a flag into the options. -/
def assign (flag : Flag) (text : String) (o : Options) : Except UsageError Options := do
  match flag with
  | help => return o
  | scale => return { o with scale := ← Entry.ofText flag.number text }
  | fps => return { o with fps := ← Entry.ofText flag.number text }
  | seed => return { o with seed? := some (← Entry.ofText flag.number text) }
  | cycles => return { o with cycles? := some (← Entry.ofText flag.number text) }
  | colorScheme => return { o with scheme := ← Entry.ofText flag.scheme text }
  | logLevel => return { o with level := ← Entry.ofText flag.level text }

end Flag

end Chip8.CommandLine
