import Chip8.Proofs.Schedule

/-! Waiting for a key. A machine on `FX0A` keeps all but its keypad while its cycles find no key
down. The first cycle that finds one takes the lowest key and goes on. -/

namespace Chip8

namespace Keypad

theorem lowest?_eq_head? (k : Keypad) : k.lowest? = k.pressed.head? := List.head?_filter.symm

theorem least_of_lowest? {k : Keypad} {key : Key} (h : k.lowest? = some key) :
    key ∈ k.pressed ∧ ∀ other ∈ k.pressed, key ≤ other := by
  have hsorted : k.pressed.Pairwise (· < ·) := (List.pairwise_lt_finRange 16).filter _
  obtain ⟨rest, hrest⟩ := List.head?_eq_some_iff.mp (k.lowest?_eq_head? ▸ h)
  rw [hrest, List.pairwise_cons] at hsorted
  rw [hrest]
  refine ⟨List.mem_cons_self, fun other hother => ?_⟩
  rcases List.mem_cons.mp hother with rfl | hlater
  · exact Fin.le_refl _
  · exact Fin.le_of_lt (hsorted.1 other hlater)

end Keypad

namespace Machine

open Instruction (Fits nibble miscellaneous fits_miscellaneous_iff)

theorem countDown_eq (timer : UInt8) : countDown timer = UInt8.ofNat (timer.toNat - 1) := by
  rw [← toNat_countDown, UInt8.ofNat_toNat]

theorem holds_of_waiting {m : Machine} (hword : Fits "FX0A" m.word) :
    m.instruction.holds m.keypad = m.keypad.pressed.head?.isNone := by
  have hi : m.instruction = .waitForKey (nibble m.word.toNat 2) :=
    (fits_miscellaneous_iff (by simp [miscellaneous])).mp hword
  rw [hi, Instruction.holds, Keypad.lowest?_eq_head?]

theorem machine_cycle_of_released {m : Machine} (hword : Fits "FX0A" m.word)
    (hempty : m.keypad.pressed = []) :
    m.cycle.machine = { m with beep := false, stalled := true } := by
  apply machine_cycle_of_holds
  rw [holds_of_waiting hword, hempty]
  rfl

theorem warning?_cycle_of_waiting {m : Machine} (hword : Fits "FX0A" m.word) :
    m.cycle.warning? = none := by
  rw [warning?_cycle, if_pos ⟨"FX0A", by decide, hword⟩]

/-- A waiting machine follows the keys, and from its first cycle on it is held and silent. -/
theorem play_waiting {m : Machine} (hword : Fits "FX0A" m.word) {schedule : List Action}
    (hempty : ∀ s ∈ m.starts schedule, s.keypad.pressed = []) :
    m.play schedule =
      { machine :=
          { m with
            keypad := (keyEvents schedule).foldl Keypad.apply m.keypad
            beep := m.beep && !schedule.contains .cycle
            stalled := m.stalled || schedule.contains .cycle }
        warnings := #[] } := by
  induction schedule generalizing m with
  | nil => simp [play, keyEvents]
  | cons a rest ih =>
    cases a with
    | cycle =>
      have hheld := machine_cycle_of_released hword (hempty m List.mem_cons_self)
      have hsilent := warning?_cycle_of_waiting hword
      have hstill : Fits "FX0A" m.cycle.machine.word := by rwa [hheld]
      have hrest := ih hstill fun s hs => hempty s (List.mem_cons_of_mem _ hs)
      rw [play_cycle, hsilent, hrest, hheld]
      simp
    | key event =>
      rw [play_key, ih (m := m.press event) hword hempty]
      simp [press]

/-- The cycle of a waiting machine that finds a key down. -/
theorem machine_cycle_of_pressed {m : Machine} (hword : Fits "FX0A" m.word) {key : Fin 16}
    (hkey : m.keypad.lowest? = some key) :
    m.cycle.machine =
      { m.setRegister (nibble m.word.toNat 2) (UInt8.ofNat key) with
        pc := m.pc + 2
        delay := UInt8.ofNat (m.delay.toNat - 1)
        sound := UInt8.ofNat (m.sound.toNat - 1)
        beep := decide (m.sound ≠ 0)
        stalled := false } := by
  have hholds : (Instruction.waitForKey (nibble m.word.toNat 2)).holds m.keypad = false := by
    simp [Instruction.holds, hkey]
  have hm := (cycle_of_miscellaneous (by simp [miscellaneous]) hword hholds).1
  have htaken : m.fetched.waitForKey (nibble m.word.toNat 2) =
      m.fetched.setRegister (nibble m.word.toNat 2) (UInt8.ofNat key) := by
    have hfound : m.fetched.keypad.lowest? = some key := hkey
    simp [waitForKey, hfound]
  rw [hm, perform, htaken]
  simp [setRegister, tick, fetched, countDown_eq, UInt8.pos_iff_ne_zero]

/-- While no cycle has found a key down, the next one either finds none and leaves the machine
waiting, or takes the lowest key and goes on with one step of the timers. -/
theorem wait_play (m : Machine) (before : List Action) (hword : Fits "FX0A" m.word)
    (hempty : ∀ s ∈ m.starts before, s.keypad.pressed = []) :
    let asked := (m.play before).machine.keypad
    (asked.pressed = [] →
      m.play (before ++ [.cycle]) =
        { machine := { m with keypad := asked, beep := false, stalled := true }
          warnings := #[] }) ∧
    (asked.pressed ≠ [] →
      ∃ key ∈ asked.pressed, (∀ other ∈ asked.pressed, key ≤ other) ∧
        m.play (before ++ [.cycle]) =
          { machine :=
              { m.setRegister (nibble m.word.toNat 2) (UInt8.ofNat key) with
                pc := m.pc + 2
                delay := UInt8.ofNat (m.delay.toNat - 1)
                sound := UInt8.ofNat (m.sound.toNat - 1)
                keypad := asked
                beep := decide (m.sound ≠ 0)
                stalled := false }
            warnings := #[] }) := by
  intro asked
  have hwaiting := play_waiting hword hempty
  have hstill : Fits "FX0A" (m.play before).machine.word := by rwa [hwaiting]
  have hplay : m.play (before ++ [.cycle]) =
      { machine := (m.play before).machine.cycle.machine, warnings := #[] } := by
    rw [play_concat, Run.act, Run.cycle, warning?_cycle_of_waiting hstill, hwaiting]
    rfl
  constructor
  · intro hnone
    rw [hplay, machine_cycle_of_released hstill hnone]
    simp only [asked, hwaiting]
  · intro hsome
    obtain ⟨key, hkey⟩ : ∃ key, asked.lowest? = some key := by
      rw [asked.lowest?_eq_head?]
      exact ⟨asked.pressed.head hsome, List.head?_eq_some_head hsome⟩
    obtain ⟨hdown, hlowest⟩ := Keypad.least_of_lowest? hkey
    refine ⟨key, hdown, hlowest, ?_⟩
    rw [hplay, machine_cycle_of_pressed hstill hkey]
    simp only [asked, hwaiting]
    rfl

def waiting : Machine :=
  { create 0 with memory := Memory.blank.writeBlock 0 [0xF1, 0x0A], pc := 0, sound := 1 }

/-- A key that is down between two cycles only, and two keys that stay down. -/
def taps : List Action :=
  [.cycle, .key (.numbered 5 true), .key (.numbered 5 false), .cycle, .key (.numbered 7 true),
   .key (.numbered 3 true)]

theorem wait_play_taps :
    Fits "FX0A" waiting.word ∧ (∀ s ∈ waiting.starts taps, s.keypad.pressed = []) ∧
      (waiting.play taps).machine.keypad.pressed = [3, 7] ∧
      (waiting.play (taps ++ [.cycle])).machine.registers[1] = 3 ∧
      (waiting.play (taps ++ [.cycle])).machine.beep = true := by
  have hword : Fits "FX0A" waiting.word := by decide +kernel
  have hempty : ∀ s ∈ waiting.starts taps, s.keypad.pressed = [] := by decide +kernel
  have hpressed : (waiting.play taps).machine.keypad.pressed = [3, 7] := by decide +kernel
  have hsome : (waiting.play taps).machine.keypad.pressed ≠ [] := by simp [hpressed]
  obtain ⟨key, hdown, hlowest, hplay⟩ := (wait_play waiting taps hword hempty).2 hsome
  have hkey : key = 3 := by
    rw [hpressed] at hdown hlowest
    rcases List.mem_pair.mp hdown with rfl | rfl
    · rfl
    · exact absurd (hlowest 3 List.mem_cons_self) (by decide)
  rw [hplay, hkey]
  refine ⟨hword, hempty, hpressed, ?_, ?_⟩ <;> decide +kernel

end Machine

end Chip8
