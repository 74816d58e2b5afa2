/-!
The random source: a counter cipher on pairs of 32-bit words. One draw turns a key into the
next key and a byte, which are enciphered from different counters.
-/

namespace Chip8.Random

/-- A pair of words: a key, or a block that is ciphered under one. -/
structure Words where
  first : UInt32
  second : UInt32
deriving DecidableEq

abbrev Key := Words

def rotateLeft (w r : UInt32) : UInt32 := w <<< r ||| w >>> (32 - r)

/-- One round: the first word absorbs the second, which is rotated and mixed back. -/
def mix (x : Words) (r : UInt32) : Words :=
  let first := x.first + x.second
  ⟨first, rotateLeft x.second r ^^^ first⟩

/-- Adds the round key of group `i`. The three round keys are the two words of the key and
their parity, used in turn. -/
def inject (k : Key) (i : Nat) (x : Words) : Words :=
  let parity := k.first ^^^ k.second ^^^ 0x1BD11BDA
  let roundKey := fun j : Nat => match j % 3 with
    | 0 => k.first
    | 1 => k.second
    | _ => parity
  ⟨x.first + roundKey i, x.second + roundKey (i + 1) + UInt32.ofNat i⟩

/-- The rotations of a group of four rounds; two groups alternate. -/
def rotations (group : Nat) : List UInt32 :=
  if group % 2 = 0 then [13, 15, 26, 6] else [17, 29, 16, 24]

/-- Five groups of four rounds, each closed by a round key. -/
def encipher (k : Key) (block : Words) : Words :=
  (List.range 5).foldl (fun x i => inject k (i + 1) ((rotations i).foldl mix x))
    (inject k 0 block)

/-- The nonnegative 31-bit part of a seed in two's complement. -/
def Key.ofSeed (seed : Int) : Key := ⟨0, UInt32.ofNat (seed % 0x80000000).toNat⟩

/-- The key after one draw. -/
def Key.next (k : Key) : Key := encipher k ⟨0, 0⟩

/-- The byte that one draw gives. -/
def Key.byte (k : Key) : UInt8 :=
  let bits := encipher (encipher (encipher k ⟨0, 1⟩) ⟨0, 1⟩) ⟨0, 0⟩
  (bits.first ^^^ bits.second).toUInt8

example : (Key.ofSeed 0).byte = 14 ∧ (Key.ofSeed 0).next = ⟨1797259609, 2579123966⟩ := by
  decide +kernel

end Chip8.Random
