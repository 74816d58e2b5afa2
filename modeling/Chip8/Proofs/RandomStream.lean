import Chip8.Proofs.Schedule
import Mathlib.Logic.Function.Iterate

/-! The bytes of the random source over whole runs. Only `CXNN` takes one, so what it takes is told
by the key at the start and by how many were taken before. -/

namespace Chip8.Machine

open Instruction (Fits nibble)
open Chip8.Random (Key)

/-- The cycles of a schedule that take a random byte. -/
def draws (m : Machine) (schedule : List Action) : Nat :=
  (m.starts schedule).countP fun s => Fits "CXNN" s.word

theorem draws_cycle (m : Machine) (rest : List Action) :
    m.draws (.cycle :: rest) =
      m.cycle.machine.draws rest + if Fits "CXNN" m.word then 1 else 0 := by
  simp [draws, starts, List.countP_cons]

theorem machine_cycle_of_random {m : Machine} (h : Fits "CXNN" m.word) :
    m.cycle.machine =
      (m.fetched.perform (.random (nibble m.word.toNat 2) m.word.toUInt8)).tick := by
  have hi : m.instruction = .random (nibble m.word.toNat 2) m.word.toUInt8 :=
    Instruction.fits_random_iff.mp h
  have hholds : m.instruction.holds m.keypad = false := by
    rw [hi]
    rfl
  rw [machine_cycle_of_not_holds hholds, hi]

theorem random_cycle (m : Machine) :
    m.cycle.machine.random = if Fits "CXNN" m.word then m.random.next else m.random := by
  split
  case isTrue h =>
    rw [machine_cycle_of_random h]
    rfl
  case isFalse h =>
    cases hholds : m.instruction.holds m.keypad with
    | true => rw [machine_cycle_of_holds hholds]
    | false =>
      rw [machine_cycle_of_not_holds hholds]
      apply random_perform
      intro x value hi
      exact h (Instruction.fits_of_random hi)

theorem registers_cycle_of_random {m : Machine} (h : Fits "CXNN" m.word) :
    m.cycle.machine.registers =
      (m.setRegister (nibble m.word.toNat 2) (m.random.byte &&& m.word.toUInt8)).registers := by
  rw [machine_cycle_of_random h]
  rfl

/-- Every byte taken moves the key on by one, and nothing else does. -/
theorem random_play (m : Machine) (schedule : List Action) :
    (m.play schedule).machine.random = Key.next^[m.draws schedule] m.random := by
  induction schedule generalizing m with
  | nil => rfl
  | cons a rest ih =>
    cases a with
    | cycle =>
      rw [play_cycle, draws_cycle, ih, random_cycle, Function.iterate_add_apply]
      split <;> rfl
    | key event => exact ih (m.press event)

/-- The key at the end is the key at the start moved on once for every `CXNN`. Each of these puts
the byte of the key that its predecessors have left, masked by its own low byte, into its register. -/
theorem random_stream (m : Machine) (schedule : List Action) :
    (m.play schedule).machine.random = Key.next^[m.draws schedule] m.random ∧
    ∀ before after, schedule = before ++ .cycle :: after →
      let drawer := (m.play before).machine
      Fits "CXNN" drawer.word →
      drawer.cycle.machine.registers =
        (drawer.setRegister (nibble drawer.word.toNat 2)
          (Key.byte (Key.next^[m.draws before] m.random) &&& drawer.word.toUInt8)).registers := by
  refine ⟨m.random_play schedule, ?_⟩
  intro before after _ drawer h
  rw [registers_cycle_of_random h, m.random_play before]

/-- A program that takes a byte only to drop it, waits for a key and takes another. -/
def lottery : Machine :=
  { create 0 with
    memory := Memory.blank.writeBlock 0 [0xC1, 0x00, 0xF2, 0x0A, 0xC3, 0xFF]
    pc := 0 }

def firstDraw : List Action := [.cycle, .cycle, .key (.numbered 5 true), .cycle]

theorem random_stream_lottery :
    let drawer := (lottery.play firstDraw).machine
    Fits "CXNN" drawer.word ∧ lottery.draws firstDraw = 1 ∧
      drawer.cycle.machine.registers.toList =
        [0, 0, 5, (Key.ofSeed 0).next.byte, 0, 0, 0, 0, 0, 0, 0, 0, 0, 0, 0, 0] := by
  intro drawer
  have hword : Fits "CXNN" drawer.word := by decide +kernel
  have hdraws : lottery.draws firstDraw = 1 := by decide +kernel
  have hregisters := (random_stream lottery (firstDraw ++ [.cycle])).2 firstDraw [] rfl hword
  refine ⟨hword, hdraws, ?_⟩
  rw [hregisters, hdraws]
  decide +kernel

end Chip8.Machine
