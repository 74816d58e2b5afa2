import Chip8.Proofs.Schedule

/-! The timers over whole runs. A timer loses one in every cycle that is not held, from the value
it was given last, and the machine beeps in just those cycles that find its sound timer running. -/

namespace Chip8.Machine

open Instruction (Fits nibble miscellaneous fits_miscellaneous_iff fits_of_miscellaneous)

def liveCycles (m : Machine) (schedule : List Action) : Nat :=
  (m.starts schedule).countP fun s => !s.cycle.machine.stalled

def beeps (m : Machine) (schedule : List Action) : Nat :=
  (m.starts schedule).countP fun s => s.cycle.machine.beep

/-- No cycle of the schedule fetches a word of the row. -/
def Avoids (m : Machine) (row : String) (schedule : List Action) : Prop :=
  ∀ s ∈ m.starts schedule, ¬ Fits row s.word

instance (m : Machine) (row : String) (schedule : List Action) :
    Decidable (m.Avoids row schedule) :=
  inferInstanceAs (Decidable (∀ s ∈ m.starts schedule, ¬ Fits row s.word))

variable {m : Machine} {row : String} {schedule : List Action}

theorem liveCycles_cycle (m : Machine) (rest : List Action) :
    m.liveCycles (.cycle :: rest) =
      m.cycle.machine.liveCycles rest + if m.cycle.machine.stalled then 0 else 1 := by
  cases h : m.cycle.machine.stalled <;> simp [liveCycles, starts, h]

theorem beeps_cycle (m : Machine) (rest : List Action) :
    m.beeps (.cycle :: rest) =
      m.cycle.machine.beeps rest + if m.cycle.machine.beep then 1 else 0 := by
  simp [beeps, starts, List.countP_cons]

theorem countDown_add_running (timer : UInt8) :
    (countDown timer).toNat + (if decide (0 < timer) then 1 else 0) = timer.toNat := by
  have hpos : 0 < timer ↔ 0 < timer.toNat := UInt8.lt_iff_toNat_lt
  rw [toNat_countDown]
  by_cases h : 0 < timer.toNat
  · rw [if_pos (decide_eq_true (hpos.mpr h))]
    omega
  · rw [if_neg (by simpa [hpos] using h)]
    omega

theorem delay_cycle (h : ¬ Fits "FX15" m.word) :
    m.cycle.machine.delay =
      if m.cycle.machine.stalled then m.delay else countDown m.delay := by
  rw [stalled_cycle]
  cases hholds : m.instruction.holds m.keypad with
  | true => rw [machine_cycle_of_holds hholds]; rfl
  | false =>
    have hkept : (m.fetched.perform m.instruction).delay = m.delay := by
      apply delay_perform
      intro x hi
      exact h (fits_of_miscellaneous (by simp [miscellaneous]) hi)
    rw [machine_cycle_of_not_holds hholds]
    exact congrArg countDown hkept

theorem sound_cycle (h : ¬ Fits "FX18" m.word) :
    m.cycle.machine.sound =
        (if m.cycle.machine.stalled then m.sound else countDown m.sound) ∧
      m.cycle.machine.beep = (!m.cycle.machine.stalled && decide (0 < m.sound)) := by
  rw [stalled_cycle]
  cases hholds : m.instruction.holds m.keypad with
  | true =>
    rw [machine_cycle_of_holds hholds]
    exact ⟨rfl, rfl⟩
  | false =>
    have hkept : (m.fetched.perform m.instruction).sound = m.sound := by
      apply sound_perform
      intro x hi
      exact h (fits_of_miscellaneous (by simp [miscellaneous]) hi)
    rw [machine_cycle_of_not_holds hholds]
    exact ⟨congrArg countDown hkept, congrArg (fun sound => decide (0 < sound)) hkept⟩

/-- A timer that every cycle of a run either keeps, if it is held, or steps. -/
theorem timer_play (timer : Machine → UInt8)
    (hpress : ∀ s event, timer (press s event) = timer s)
    (hcycle : ∀ s ∈ m.starts schedule,
      timer s.cycle.machine = if s.cycle.machine.stalled then timer s else countDown (timer s)) :
    (timer (m.play schedule).machine).toNat = (timer m).toNat - m.liveCycles schedule := by
  induction schedule generalizing m with
  | nil => rfl
  | cons a rest ih =>
    cases a with
    | cycle =>
      have hstep := hcycle m List.mem_cons_self
      have hrest := ih fun s hs => hcycle s (List.mem_cons_of_mem _ hs)
      rw [play_cycle, liveCycles_cycle, hrest, hstep]
      split
      · rfl
      · rw [toNat_countDown]
        omega
    | key event =>
      have hrest := ih (m := m.press event) hcycle
      rw [hpress] at hrest
      exact hrest

theorem delay_play (h : m.Avoids "FX15" schedule) :
    (m.play schedule).machine.delay.toNat = m.delay.toNat - m.liveCycles schedule :=
  timer_play Machine.delay (fun _ _ => rfl) fun s hs => delay_cycle (h s hs)

theorem sound_play (h : m.Avoids "FX18" schedule) :
    (m.play schedule).machine.sound.toNat = m.sound.toNat - m.liveCycles schedule :=
  timer_play Machine.sound (fun _ _ => rfl) fun s hs => (sound_cycle (h s hs)).1

/-- The sound timer pays for every beep. -/
theorem sound_cycle_add_beep (h : ¬ Fits "FX18" m.word) :
    m.cycle.machine.sound.toNat + (if m.cycle.machine.beep then 1 else 0) = m.sound.toNat := by
  obtain ⟨hsound, hbeep⟩ := sound_cycle h
  rw [hsound, hbeep]
  cases m.cycle.machine.stalled with
  | true => rfl
  | false => exact countDown_add_running m.sound

theorem sound_play_add_beeps (h : m.Avoids "FX18" schedule) :
    (m.play schedule).machine.sound.toNat + m.beeps schedule = m.sound.toNat := by
  induction schedule generalizing m with
  | nil => rfl
  | cons a rest ih =>
    cases a with
    | cycle =>
      have hstep := sound_cycle_add_beep (h m List.mem_cons_self)
      have hrest := ih (m := m.cycle.machine) fun s hs => h s (List.mem_cons_of_mem _ hs)
      rw [play_cycle, beeps_cycle, ← Nat.add_assoc]
      exact (congrArg (· + _) hrest).trans hstep
    | key event => exact ih (m := m.press event) h

theorem beeps_eq_min (h : m.Avoids "FX18" schedule) :
    m.beeps schedule = min m.sound.toNat (m.liveCycles schedule) := by
  have hsound := sound_play h
  have hpaid := sound_play_add_beeps h
  omega

theorem beeps_of_setSound {rest : List Action} (hword : Fits "FX18" m.word)
    (h : m.cycle.machine.Avoids "FX18" rest) :
    m.beeps (.cycle :: rest) =
      min m.registers[nibble m.word.toNat 2].toNat (m.liveCycles (.cycle :: rest)) := by
  obtain ⟨hm, hstalled⟩ :=
    cycle_of_miscellaneous (i := .setSound) (by simp [miscellaneous]) hword rfl
  have hsound : m.cycle.machine.sound = countDown m.registers[nibble m.word.toNat 2] := by
    rw [hm]
    rfl
  have hbeep : m.cycle.machine.beep = decide (0 < m.registers[nibble m.word.toNat 2]) := by
    rw [hm]
    rfl
  generalize m.registers[nibble m.word.toNat 2] = value at hsound hbeep ⊢
  have hstep := countDown_add_running value
  have hdown := toNat_countDown value
  rw [beeps_cycle, liveCycles_cycle, beeps_eq_min h, hsound, hbeep, hstalled,
    if_neg Bool.false_ne_true]
  omega

theorem delay_of_setDelay {between : List Action} (hword : Fits "FX15" m.word)
    (h : m.cycle.machine.Avoids "FX15" between) :
    (m.play (.cycle :: between)).machine.delay.toNat =
      m.registers[nibble m.word.toNat 2].toNat - 1 - m.cycle.machine.liveCycles between := by
  have hm := (cycle_of_miscellaneous (i := .setDelay) (by simp [miscellaneous]) hword rfl).1
  have hdelay : m.cycle.machine.delay = countDown m.registers[nibble m.word.toNat 2] := by
    rw [hm]
    rfl
  rw [play_cycle, delay_play h, hdelay, toNat_countDown]

theorem register_of_readDelay (hword : Fits "FX07" m.word) :
    m.cycle.machine.registers[nibble m.word.toNat 2] = m.delay := by
  have hm := (cycle_of_miscellaneous (i := .readDelay) (by simp [miscellaneous]) hword rfl).1
  rw [hm]
  simp [perform, setRegister, tick, fetched]

/-- Both timers count the cycles that are not held, and every beep is one of these while the sound
timer runs. A timer that is set loses its first step in the very cycle that sets it. -/
theorem timers_play (m : Machine) (schedule : List Action) :
    (m.Avoids "FX15" schedule →
      (m.play schedule).machine.delay.toNat = m.delay.toNat - m.liveCycles schedule) ∧
    (m.Avoids "FX18" schedule →
      (m.play schedule).machine.sound.toNat = m.sound.toNat - m.liveCycles schedule ∧
      (∀ s ∈ m.starts schedule,
        s.cycle.machine.beep = true ↔ s.cycle.machine.stalled = false ∧ s.sound ≠ 0) ∧
      m.beeps schedule = min m.sound.toNat (m.liveCycles schedule)) ∧
    (∀ before after, schedule = before ++ .cycle :: after →
      let setter := (m.play before).machine
      Fits "FX18" setter.word → setter.cycle.machine.Avoids "FX18" after →
      setter.beeps (.cycle :: after) =
        min setter.registers[nibble setter.word.toNat 2].toNat
          (setter.liveCycles (.cycle :: after))) ∧
    (∀ before between after, schedule = before ++ .cycle :: between ++ .cycle :: after →
      let setter := (m.play before).machine
      let reader := (m.play (before ++ .cycle :: between)).machine
      Fits "FX15" setter.word → setter.cycle.machine.Avoids "FX15" between →
      Fits "FX07" reader.word →
      reader.cycle.machine.registers[nibble reader.word.toNat 2].toNat =
        setter.registers[nibble setter.word.toNat 2].toNat - 1 -
          setter.cycle.machine.liveCycles between) := by
  refine ⟨delay_play, fun h => ⟨sound_play h, ?_, beeps_eq_min h⟩, ?_, ?_⟩
  · intro s hs
    rw [(sound_cycle (h s hs)).2]
    simp [UInt8.pos_iff_ne_zero]
  · intro before after _ setter hword hafter
    exact beeps_of_setSound hword hafter
  · intro before between after _ setter reader hword hbetween hread
    have hdelay : reader.delay = (setter.play (.cycle :: between)).machine.delay := by
      simp only [reader, setter, play_append]
    rw [register_of_readDelay hread, hdelay, delay_of_setDelay hword hbetween]

/-- A program that sets both timers to three, waits for a key and reads the delay timer. -/
def alarm : Machine :=
  { create 0 with
    memory := Memory.blank.writeBlock 0 [0x60, 0x03, 0xF0, 0x18, 0xF0, 0x15, 0xF1, 0x0A, 0xF2, 0x07]
    pc := 0 }

def late : List Action := [.cycle, .key (.numbered 5 true), .cycle]

theorem timers_play_alarm :
    let setter := (alarm.play [.cycle]).machine
    let reader := (alarm.play ([.cycle, .cycle] ++ .cycle :: late)).machine
    Fits "FX18" setter.word ∧ setter.cycle.machine.Avoids "FX18" (.cycle :: late ++ [.cycle]) ∧
      setter.beeps (.cycle :: (.cycle :: late ++ [.cycle])) = 3 ∧
      Fits "FX15" setter.cycle.machine.word ∧
      setter.cycle.machine.cycle.machine.Avoids "FX15" late ∧ Fits "FX07" reader.word ∧
      reader.cycle.machine.registers[2].toNat = 1 := by
  intro setter reader
  have hsound : Fits "FX18" setter.word := by decide +kernel
  have hlast : setter.cycle.machine.Avoids "FX18" (.cycle :: late ++ [.cycle]) := by
    decide +kernel
  have hdelay : Fits "FX15" setter.cycle.machine.word := by decide +kernel
  have hbetween : setter.cycle.machine.cycle.machine.Avoids "FX15" late := by decide +kernel
  have hread : Fits "FX07" reader.word := by decide +kernel
  obtain ⟨-, -, hbeeps, hreads⟩ :=
    timers_play alarm ([.cycle, .cycle] ++ .cycle :: late ++ .cycle :: [])
  refine ⟨hsound, hlast, (hbeeps [.cycle] _ rfl hsound hlast).trans ?_, hdelay, hbetween, hread, ?_⟩
  · decide +kernel
  · have hregister := hreads [.cycle, .cycle] late [] rfl hdelay hbetween hread
    refine Eq.trans ?_ (hregister.trans ?_) <;> decide +kernel

end Chip8.Machine
