import Chip8.Machine.Execute

/-!
The machine's cycle: fetch, execute, and a timer step unless the instruction was held.
-/

namespace Chip8.Machine

def fetch (m : Machine) : Machine × UInt16 :=
  ({ m with pc := m.pc + 2 }, m.memory.word m.pc)

/-- One step of a timer, which stays at zero. -/
def countDown (timer : UInt8) : UInt8 := if 0 < timer then timer - 1 else timer

theorem toNat_countDown (timer : UInt8) : (countDown timer).toNat = timer.toNat - 1 := by
  unfold countDown
  split
  · next h =>
    have hone : (1 : UInt8) ≤ timer := UInt8.le_iff_toNat_le.mpr (UInt8.lt_iff_toNat_lt.mp h)
    rw [UInt8.toNat_sub_of_le _ _ hone]
    rfl
  · next h =>
    have hzero : ¬ 0 < timer.toNat := fun hpos => h (UInt8.lt_iff_toNat_lt.mpr hpos)
    omega

def tick (m : Machine) : Machine :=
  { m with
    delay := countDown m.delay
    sound := countDown m.sound
    beep := decide (0 < m.sound) }

def cycle (m : Machine) : Step :=
  let (fetched, word) := { m with beep := false, stalled := false }.fetch
  let step := fetched.execute (.ofWord word)
  if step.machine.stalled then step else { step with machine := step.machine.tick }

end Chip8.Machine
