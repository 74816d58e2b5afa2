import Chip8.CommandLine.Settings

/-!
The words of a command line, told apart before any of them takes effect.
-/

namespace Chip8.CommandLine

inductive Word
  | value (text : String)
  | terminator
  /-- A flag, perhaps with a value attached to it after an equals sign or directly. -/
  | flag (flag : Flag) (short : Bool) (attached? : Option String)
  | unknown (text : String)
deriving DecidableEq

namespace Word

/-- Digits, perhaps with a point before the last of them, after a minus. A line end may follow. -/
def isNegativeNumber : List Char → Bool
  | '-' :: rest =>
    let body := if rest.getLast? = some '\n' then rest.dropLast else rest
    let whole := body.takeWhile Text.isDigit
    match body.dropWhile Text.isDigit with
    | [] => !whole.isEmpty
    | '.' :: decimals => !decimals.isEmpty && decimals.all Text.isDigit
    | _ => false
  | _ => false

/-- A word with a dash in front that is no flag: negative numbers and texts with spaces are
values all the same. -/
def ofOther (text : String) : Word :=
  if isNegativeNumber text.toList || text.contains ' ' then .value text else .unknown text

/-- Long flags may be cut short as long as one flag begins like that. -/
def ofLong (text : String) : Except UsageError Word :=
  let chars := text.toList
  let name := chars.takeWhile (· != '=')
  let attached? : Option String :=
    match chars.dropWhile (· != '=') with
    | [] => none
    | _ :: rest => some (String.ofList rest)
  match Flag.all.filter fun f => name.isPrefixOf f.name.toList with
  | [] => .ok (ofOther text)
  | [only] => .ok (.flag only false attached?)
  | candidates => .error (.ambiguous text candidates)

/-- The word of a text before the terminator. -/
def ofText (text : String) : Except UsageError Word :=
  match text.toList with
  | '-' :: '-' :: _ => ofLong text
  | ['-', 'h'] => .ok (.flag .help true none)
  | '-' :: 'h' :: '=' :: rest | '-' :: 'h' :: rest =>
    .ok (.flag .help true (some (String.ofList rest)))
  | '-' :: _ :: _ => .ok (ofOther text)
  | _ => .ok (.value text)

def ofTexts : List String → Except UsageError (List Word)
  | [] => .ok []
  | text :: rest =>
    if text = CommandLine.terminator then .ok (.terminator :: rest.map .value)
    else do return (← ofText text) :: (← ofTexts rest)

end Word

end Chip8.CommandLine
