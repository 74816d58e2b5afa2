import Chip8.Text.Padded
import Chip8.Text.Printable

/-!
Text between quotes on one line. Backslash, the enclosing quote, line breaks and tabs are
escaped, and so is every character without a visible form, by its number.
-/

namespace Chip8.Text

/-- A single quote, unless the text has single quotes and no double ones. -/
def quoteFor (s : List Char) : Char :=
  if s.contains '\'' && !s.contains '"' then '"' else '\''

/-- The shortest of the escapes by number that has room. -/
def numberEscape (c : Char) : String :=
  let digits := String.ofList (Nat.toDigits 16 c.toNat)
  if c.toNat < 0x100 then "\\x" ++ padLeft 2 '0' digits
  else if c.toNat < 0x10000 then "\\u" ++ padLeft 4 '0' digits
  else "\\U" ++ padLeft 8 '0' digits

def quoteChar (quote c : Char) : String :=
  if c = quote || c = '\\' then String.ofList ['\\', c]
  else if c = '\n' then "\\n"
  else if c = '\r' then "\\r"
  else if c = '\t' then "\\t"
  else if isPrintable c then String.singleton c
  else numberEscape c

def quoted (s : String) : String :=
  let quote := quoteFor s.toList
  String.singleton quote ++ String.join (s.toList.map (quoteChar quote)) ++ String.singleton quote

def commaSeparated (items : List String) : String := ", ".intercalate items

/-- A list of texts in brackets, each quoted. -/
def quotedList (items : List String) : String :=
  "[" ++ commaSeparated (items.map quoted) ++ "]"

end Chip8.Text
