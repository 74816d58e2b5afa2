import Chip8.Nibble
import Chip8.Text.Case

/-!
The sixteen-key hexadecimal keypad and the block of host keys that stands for it.
-/

namespace Chip8

abbrev Keypad := Vector Bool 16

namespace Keypad

abbrev size : Nat := 16

def released : Keypad := Vector.replicate 16 false

/-- The host keys of the left block of a keyboard, each with the keypad key at its place. -/
def layout : List (String × Key) :=
  [("1", 0x1), ("2", 0x2), ("3", 0x3), ("4", 0xC),
   ("q", 0x4), ("w", 0x5), ("e", 0x6), ("r", 0xD),
   ("a", 0x7), ("s", 0x8), ("d", 0x9), ("f", 0xE),
   ("z", 0xA), ("x", 0x0), ("c", 0xB), ("v", 0xF)]

/-- The keypad key a host key stands for, whatever the case of its name. -/
def key? (name : String) : Option Key :=
  layout.lookup (Text.lower name)

/-- The low four bits of a key number in two's complement. -/
def keyOfInt (k : Int) : Key := ⟨(k % 16).toNat, by omega⟩

/-- The pressed key of the smallest number. -/
def lowest? (k : Keypad) : Option Key := (List.finRange 16).find? fun key : Key => k[key]

def pressed (k : Keypad) : List Key := (List.finRange 16).filter fun key : Key => k[key]

def ofPressed (keys : List Key) : Keypad := Vector.ofFn keys.contains

theorem lowest?_eq_none_iff (k : Keypad) : k.lowest? = none ↔ ∀ key : Key, k[key] = false := by
  simp [lowest?, List.find?_eq_none]

end Keypad

/-- A key going down or up, told by the name of a host key or by a keypad number. -/
inductive KeyEvent
  | named (name : String) (down : Bool)
  | numbered (key : Int) (down : Bool)
deriving DecidableEq

/-- Host keys outside the layout leave the keypad alone. -/
def Keypad.apply (k : Keypad) : KeyEvent → Keypad
  | .named name down =>
    match key? name with
    | some i => k.set i down
    | none => k
  | .numbered key down => k.set (keyOfInt key) down

end Chip8
