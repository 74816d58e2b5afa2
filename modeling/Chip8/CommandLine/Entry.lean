/-!
What a command line says about a setting.
-/

namespace Chip8.CommandLine

/-- After the terminator all words are values. It is never a value itself. -/
def terminator : String := "--"

/-- The value of a setting, which a terminator written in place of it leaves blank. -/
inductive Entry (α : Type)
  | blank
  | value (a : α)
deriving DecidableEq

namespace Entry

variable {α ε : Type}

def ofText (read : String → Except ε α) (text : String) : Except ε (Entry α) :=
  if text = terminator then .ok blank else value <$> read text

def getD (e : Entry α) (default : α) : α :=
  match e with
  | blank => default
  | value a => a

/-- The value, or the error of a setting that must not be blank. -/
def orError (cause : ε) : Entry α → Except ε α
  | blank => .error cause
  | value a => .ok a

theorem ofText_eq_blank_iff (read : String → Except ε α) (text : String) :
    ofText read text = .ok blank ↔ text = terminator := by
  unfold ofText
  split
  · simp [*]
  · cases read text <;> simp [*, Functor.map, Except.map]

theorem orError_eq_ok_iff {cause : ε} {e : Entry α} {a : α} :
    e.orError cause = .ok a ↔ e = value a := by
  cases e <;> simp [orError]

theorem ne_blank_iff {e : Entry α} : e ≠ blank ↔ ∃ a, e = value a := by
  cases e <;> simp

end Entry

end Chip8.CommandLine
