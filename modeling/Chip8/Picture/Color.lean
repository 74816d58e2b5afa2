import Chip8.Text.Quoted

/-!
Colors, and the named pairs of them in which a display can be shown.
-/

namespace Chip8

structure Color where
  red : UInt8
  green : UInt8
  blue : UInt8
deriving DecidableEq

inductive Scheme
  | white
  | classic
  | amber
  | blue
  | retro
deriving DecidableEq

inductive SchemeError
  | unknown (name : String)
deriving DecidableEq

namespace Scheme

def all : List Scheme := [white, classic, amber, blue, retro]

def name : Scheme → String
  | white => "white"
  | classic => "classic"
  | amber => "amber"
  | blue => "blue"
  | retro => "retro"

/-- The color of lit cells. -/
def on : Scheme → Color
  | white => ⟨255, 255, 255⟩
  | classic => ⟨0, 255, 0⟩
  | amber => ⟨255, 176, 0⟩
  | blue => ⟨0, 255, 255⟩
  | retro => ⟨255, 255, 0⟩

/-- The color of unlit cells. -/
def off : Scheme → Color
  | white | classic | amber => ⟨0, 0, 0⟩
  | blue => ⟨0, 0, 64⟩
  | retro => ⟨64, 0, 64⟩

def ofName? (name : String) : Option Scheme := all.find? (·.name == name)

def named? (name : String) : Except SchemeError Scheme :=
  match ofName? name with
  | some scheme => .ok scheme
  | none => .error (.unknown name)

end Scheme

def SchemeError.message : SchemeError → String
  | unknown name =>
    s!"Unknown color scheme '{name}'. Available: {Text.quotedList (Scheme.all.map Scheme.name)}"

end Chip8
