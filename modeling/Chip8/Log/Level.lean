import Chip8.Text.Case
import Chip8.Text.Quoted

/-!
The five levels of log messages, by increasing severity.
-/

namespace Chip8

inductive Level
  | debug
  | info
  | warning
  | error
  | critical
deriving DecidableEq

namespace Level

def all : List Level := [debug, info, warning, error, critical]

def name : Level → String
  | debug => "DEBUG"
  | info => "INFO"
  | warning => "WARNING"
  | error => "ERROR"
  | critical => "CRITICAL"

def severity : Level → Nat
  | debug => 10
  | info => 20
  | warning => 30
  | error => 40
  | critical => 50

instance : LE Level := ⟨fun a b => a.severity ≤ b.severity⟩

instance (a b : Level) : Decidable (a ≤ b) := inferInstanceAs (Decidable (a.severity ≤ b.severity))

def ofName? (name : String) : Option Level := all.find? (·.name == name)

theorem ofName?_name (l : Level) : ofName? l.name = some l := by
  cases l <;> rfl

theorem ofName?_eq_some_iff {s : String} {l : Level} : ofName? s = some l ↔ s = l.name := by
  constructor
  · intro h
    have := List.find?_some h
    simpa using (beq_iff_eq.mp this).symm
  · rintro rfl
    exact ofName?_name l

end Level

inductive LevelError
  | unknownThreshold (name : String)
  | unknownLevel (name : String)
deriving DecidableEq

def LevelError.message : LevelError → String
  | unknownThreshold name =>
    s!"Unknown log level '{name}'. Available: {Text.quotedList (Level.all.map Level.name)}"
  | unknownLevel name => Text.quoted name

/-- The level a threshold is set to by name, whatever the case of its letters. -/
def Level.threshold? (name : String) : Except LevelError Level :=
  match ofName? (Text.upper name) with
  | some level => .ok level
  | none => .error (.unknownThreshold name)

/-- The level of a message by its exact name. -/
def Level.named? (name : String) : Except LevelError Level :=
  match ofName? name with
  | some level => .ok level
  | none => .error (.unknownLevel name)

end Chip8
