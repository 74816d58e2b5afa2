import Chip8.Nibble

/-!
The call stack: a ring of sixteen slots. A push past the last slot comes round and overwrites
the oldest address, and a pop clears the slot it reads.
-/

namespace Chip8

structure Stack where
  slots : Vector UInt16 16
  pointer : Fin 16
deriving DecidableEq

namespace Stack

abbrev size : Nat := 16

/-- The bits of a slot number that the pointer keeps. -/
abbrev pointerMask : Nat := size - 1

def empty : Stack := ⟨Vector.replicate 16 0, 0⟩

def push (s : Stack) (address : UInt16) : Stack :=
  ⟨s.slots.set s.pointer address, s.pointer + 1⟩

def pop (s : Stack) : Stack × UInt16 :=
  let top := s.pointer - 1
  (⟨s.slots.set top 0, top⟩, s.slots[top])

theorem pop_push (s : Stack) (address : UInt16) :
    (s.push address).pop = (⟨s.slots.set s.pointer 0, s.pointer⟩, address) := by
  have h : s.pointer + 1 - 1 = s.pointer := by omega
  simp [push, pop, h]

end Stack

end Chip8
