import Chip8.Directory
import Chip8.Machine.Basic
import Chip8.Text.Quoted

/-!
Loading a program image into memory.
-/

namespace Chip8

inductive LoadError
  | tooLong (length : Nat)
  | unreadable (name : String) (cause : FileError)
  /-- A name that no file can have. -/
  | invalidName
deriving DecidableEq

/-- The room for a program, from its start to the end of memory. -/
abbrev programCapacity : Nat := Memory.size - Machine.programStart

def LoadError.message : LoadError → String
  | tooLong length => s!"Program is {length} bytes, at most {programCapacity} fit in memory"
  | unreadable name cause =>
    s!"Cannot read ROM '{name}': [Errno {cause.number}] {cause.reason}: {Text.quoted name}"
  | invalidName => "embedded null byte"

namespace Machine

def load (m : Machine) (program : List UInt8) : Except LoadError Machine :=
  if program.length ≤ programCapacity then
    .ok { m with memory := m.memory.writeBlock (UInt16.ofNat programStart) program }
  else .error (.tooLong program.length)

theorem load_eq_ok_iff {m loaded : Machine} {program : List UInt8} :
    m.load program = .ok loaded ↔ program.length ≤ programCapacity ∧
      loaded = { m with memory := m.memory.writeBlock (UInt16.ofNat programStart) program } := by
  unfold load
  split <;> simp [*, eq_comm]

theorem load_eq_error_iff {m : Machine} {program : List UInt8} {cause : LoadError} :
    m.load program = .error cause ↔
      programCapacity < program.length ∧ cause = .tooLong program.length := by
  unfold load
  split
  case isTrue h => simp [Nat.not_lt.mpr h]
  case isFalse h => simp [Nat.not_le.mp h, eq_comm]

/-- Loads a file by its name, which must not contain the character that ends names. -/
def loadFile (m : Machine) (files : Files) (name : String) : Except LoadError Machine :=
  if name.contains '\x00' then .error .invalidName
  else
    match files name with
    | .error cause => .error (.unreadable name cause)
    | .ok program => m.load program

theorem loadFile_eq {m : Machine} {files : Files} {name : String}
    (hname : name.contains '\x00' = false) :
    m.loadFile files name =
      match files name with
      | .error cause => .error (.unreadable name cause)
      | .ok program => m.load program :=
  if_neg (by simp [hname])

end Machine

end Chip8
