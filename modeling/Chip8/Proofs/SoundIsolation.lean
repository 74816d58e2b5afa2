import Chip8.Proofs.Schedule

/-! A program cannot tell how its sound timer stands, nor the two flags that a cycle leaves.
Machines that agree but for these go on doing so, and give the same warnings. -/

namespace Chip8.Machine

/-- The machines agree on all but perhaps the sound timer and the two flags. -/
def SameButSound (m n : Machine) : Prop :=
  n = { m with sound := n.sound, beep := n.beep, stalled := n.stalled }

namespace SameButSound

variable {m n : Machine}

theorem exists_update (h : SameButSound m n) :
    ∃ sound beep stalled, n = { m with sound := sound, beep := beep, stalled := stalled } :=
  ⟨_, _, _, h⟩

theorem pc_eq (h : SameButSound m n) : n.pc = m.pc := by
  obtain ⟨_, _, _, rfl⟩ := h.exists_update
  rfl

theorem keypad_eq (h : SameButSound m n) : n.keypad = m.keypad := by
  obtain ⟨_, _, _, rfl⟩ := h.exists_update
  rfl

theorem word_eq (h : SameButSound m n) : n.word = m.word := by
  obtain ⟨_, _, _, rfl⟩ := h.exists_update
  rfl

theorem instruction_eq (h : SameButSound m n) : n.instruction = m.instruction :=
  congrArg Instruction.ofWord h.word_eq

theorem perform (h : SameButSound m n) (i : Instruction) :
    SameButSound (m.perform i) (n.perform i) := by
  obtain ⟨sound, beep, stalled, rfl⟩ := h.exists_update
  cases i with
  | compute operation x y => cases operation <;> rfl
  | skipIfByte | skipUnlessByte | skipIfRegister | skipUnlessRegister | skipIfKey | skipUnlessKey
  | leave | waitForKey =>
    simp only [Machine.perform, skipIf_eq, leave_eq, waitForKey_eq]
    rfl
  | _ => rfl

theorem tick (h : SameButSound m n) : SameButSound m.tick n.tick := by
  obtain ⟨_, _, _, rfl⟩ := h.exists_update
  rfl

theorem fetched (h : SameButSound m n) : SameButSound m.fetched n.fetched := by
  obtain ⟨_, _, _, rfl⟩ := h.exists_update
  rfl

theorem flagged (h : SameButSound m n) (beep stalled : Bool) :
    SameButSound { m with beep := beep, stalled := stalled }
      { n with beep := beep, stalled := stalled } := by
  obtain ⟨_, _, _, rfl⟩ := h.exists_update
  rfl

theorem holds_eq (h : SameButSound m n) :
    n.instruction.holds n.keypad = m.instruction.holds m.keypad := by
  rw [h.instruction_eq, h.keypad_eq]

theorem cycle (h : SameButSound m n) : SameButSound m.cycle.machine n.cycle.machine := by
  -- Whether a cycle is held, and the timers with it, hangs on its word and on the keys alone: the
  -- flag that the cycle before has left is cleared.
  rw [machine_cycle_eq m, machine_cycle_eq n, h.holds_eq, h.instruction_eq]
  split
  case isTrue => exact h.flagged false true
  case isFalse => exact (h.fetched.perform m.instruction).tick

theorem press (h : SameButSound m n) (event : KeyEvent) :
    SameButSound (m.press event) (n.press event) := by
  obtain ⟨_, _, _, rfl⟩ := h.exists_update
  rfl

theorem stalled_cycle_eq (h : SameButSound m n) :
    n.cycle.machine.stalled = m.cycle.machine.stalled := by
  rw [stalled_cycle, stalled_cycle, h.holds_eq]

theorem warning?_cycle_eq (h : SameButSound m n) : n.cycle.warning? = m.cycle.warning? := by
  rw [warning?_cycle, warning?_cycle, h.word_eq, h.pc_eq]

theorem play (h : SameButSound m n) (schedule : List Action) :
    SameButSound (m.play schedule).machine (n.play schedule).machine := by
  induction schedule using List.reverseRecOn with
  | nil => exact h
  | append_singleton schedule a ih =>
    rw [play_concat, play_concat]
    cases a with
    | cycle => exact ih.cycle
    | key event => exact ih.press event

theorem stalled_play_eq (h : SameButSound m n) {schedule : List Action}
    (hcycle : .cycle ∈ schedule) :
    (n.play schedule).machine.stalled = (m.play schedule).machine.stalled := by
  induction schedule using List.reverseRecOn with
  | nil => cases hcycle
  | append_singleton schedule a ih =>
    rw [play_concat, play_concat]
    cases a with
    | cycle => exact (h.play schedule).stalled_cycle_eq
    | key event => exact ih (by simpa using hcycle)

theorem warnings_play_eq (h : SameButSound m n) (schedule : List Action) :
    (n.play schedule).warnings = (m.play schedule).warnings := by
  induction schedule using List.reverseRecOn with
  | nil => rfl
  | append_singleton schedule a ih =>
    rw [play_concat, play_concat]
    cases a with
    | cycle =>
      have hwarning := (h.play schedule).warning?_cycle_eq
      simp only [Run.act, Run.cycle, ih, hwarning]
    | key event => exact ih

end SameButSound

/-- Machines that agree but for the sound timer and the two flags do so after any schedule. From
the first cycle on they are held at the same time, and their logs are the same throughout. -/
theorem sound_unseen {m n : Machine} (h : SameButSound m n) (schedule : List Action) :
    SameButSound (m.play schedule).machine (n.play schedule).machine ∧
      (.cycle ∈ schedule →
        (n.play schedule).machine.stalled = (m.play schedule).machine.stalled) ∧
      ∀ level, (n.play schedule).log level = (m.play schedule).log level := by
  refine ⟨h.play schedule, h.stalled_play_eq, fun level => ?_⟩
  rw [Run.log, h.warnings_play_eq, Run.log]

def delayed : Machine :=
  { create 0 with
    memory := Memory.blank.writeBlock 0 [0x61, 0x05, 0xF1, 0x15, 0x01, 0x23]
    pc := 0 }

theorem sound_unseen_delayed :
    let noisy : Machine := { delayed with sound := 7, beep := true, stalled := true }
    let schedule : List Action := [.cycle, .cycle, .key (.numbered 3 true), .cycle, .cycle]
    SameButSound delayed noisy ∧
      SameButSound (delayed.play schedule).machine (noisy.play schedule).machine ∧
      .cycle ∈ schedule ∧
      (noisy.play schedule).machine.stalled = (delayed.play schedule).machine.stalled ∧
      (noisy.play schedule).log .info = (delayed.play schedule).log .info ∧
      (delayed.play schedule).machine.sound = 0 ∧ (noisy.play schedule).machine.sound = 5 ∧
      (noisy.play schedule).machine.delay = 4 ∧
      (noisy.play schedule).log .info =
        ["Unknown opcode 0x0123 at 0x004", "Unknown opcode 0x0123 at 0x004"] := by
  intro noisy schedule
  have hsame : SameButSound delayed noisy := rfl
  have hcycle : .cycle ∈ schedule := List.mem_cons_self
  obtain ⟨hplay, hstalled, hlog⟩ := sound_unseen hsame schedule
  exact ⟨hsame, hplay, hcycle, hstalled hcycle, hlog .info, by decide +kernel⟩

end Chip8.Machine
