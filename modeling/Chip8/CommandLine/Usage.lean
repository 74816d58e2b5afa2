import Chip8.CommandLine.Settings

/-!
The description of the command line that is printed on request and above error messages.
-/

namespace Chip8.CommandLine

def programName : String := "main.py"

/-- Puts the parts after the line as long as they fit, and goes on in indented lines. -/
def fill (width : Nat) (indent line : String) : List String → List String
  | [] => [line]
  | part :: rest =>
    if line.length + 1 + part.length ≤ width then fill width indent (line ++ " " ++ part) rest
    else line :: fill width indent (indent ++ part) rest

def unlines (lines : List String) : String := String.join (lines.map (· ++ "\n"))

def spaces (n : Nat) : String := String.ofList (List.replicate n ' ')

/-- A flag with its placeholder. -/
def Flag.form (flag : Flag) (name : String) : String :=
  match flag.placeholder? with
  | some placeholder => name ++ " " ++ placeholder
  | none => name

def Flag.synopsis (flag : Flag) : String :=
  "[" ++ flag.form (if flag = .help then Flag.shortHelp else flag.name) ++ "]"

def Flag.heading (flag : Flag) : String :=
  if flag = .help then Flag.shortHelp ++ ", " ++ flag.name else flag.form flag.name

def usage : String :=
  let start := "usage: " ++ programName
  let indent := spaces (start.length + 1)
  unlines (fill 78 indent start (Flag.all.map Flag.synopsis) ++ [indent ++ "rom"])

/-- A heading with its description in a column, or below if the heading is too long for that. -/
def entry (heading description : String) : String :=
  if heading.length ≤ 20 then
    "  " ++ heading ++ spaces (22 - heading.length) ++ description ++ "\n"
  else
    "  " ++ heading ++ "\n" ++ spaces 24 ++ description ++ "\n"

def help : String :=
  usage ++ "\nRun a CHIP-8 program\n\npositional arguments:\n" ++
    entry "rom" "Path to the CHIP-8 ROM image" ++ "\noptions:\n" ++
    String.join (Flag.all.map fun flag => entry flag.heading flag.description)

/-- Why a run ends before it starts. -/
inductive Exit
  | help
  | refused (cause : UsageError)
deriving DecidableEq

namespace Exit

def code : Exit → Nat
  | help => 0
  | refused _ => 2

def output : Exit → String
  | help => CommandLine.help
  | refused _ => ""

def errorOutput : Exit → String
  | help => ""
  | refused cause => usage ++ programName ++ ": error: " ++ cause.message ++ "\n"

end Exit

end Chip8.CommandLine
