/-!
Letter case, as far as it decides comparisons with names in plain Latin letters.
-/

namespace Chip8.Text

/-- The upper-case form of a character whose upper-case form is plain Latin. Every other
character keeps a letter outside `A`–`Z` in upper case, so leaving it alone never makes it equal
to a plain Latin name. -/
def upperChar (c : Char) : List Char :=
  match c with
  | 'ß' => ['S', 'S']
  | 'ı' => ['I']
  | 'ſ' => ['S']
  | 'ﬀ' => ['F', 'F']
  | 'ﬁ' => ['F', 'I']
  | 'ﬂ' => ['F', 'L']
  | 'ﬃ' => ['F', 'F', 'I']
  | 'ﬄ' => ['F', 'F', 'L']
  | 'ﬅ' => ['S', 'T']
  | 'ﬆ' => ['S', 'T']
  | c => [c.toUpper]

def upper (s : String) : String := String.ofList (s.toList.flatMap upperChar)

/-- The Kelvin sign is the one character outside ASCII with a plain Latin lower-case form. -/
def lowerChar (c : Char) : Char := if c = '\u212A' then 'k' else c.toLower

def lower (s : String) : String := String.ofList (s.toList.map lowerChar)

end Chip8.Text
