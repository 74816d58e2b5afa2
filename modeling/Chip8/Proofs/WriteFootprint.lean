import Chip8.Proofs.Schedule

/-! What an instruction writes. A part of the state that is not among it is kept, by the instruction
and, if only instructions write the part, by every run that comes to none of its writers. -/

namespace Chip8

namespace Machine

/-- A field of the state, or one of its registers. -/
inductive Part
  | memory
  | display
  | stack
  | random
  | index
  | delay
  | sound
  | keypad
  | beep
  | stalled
  | pc
  | register (r : Register)
deriving DecidableEq

def Part.Kept (m n : Machine) : Part → Prop
  | memory => n.memory = m.memory
  | display => n.display = m.display
  | stack => n.stack = m.stack
  | random => n.random = m.random
  | index => n.index = m.index
  | delay => n.delay = m.delay
  | sound => n.sound = m.sound
  | keypad => n.keypad = m.keypad
  | beep => n.beep = m.beep
  | stalled => n.stalled = m.stalled
  | pc => n.pc = m.pc
  | register r => n.registers.get r = m.registers.get r

theorem Part.Kept.refl (m : Machine) (part : Part) : part.Kept m m := by
  cases part <;> rfl

theorem Part.Kept.trans {m n o : Machine} {part : Part} (hmn : part.Kept m n)
    (hno : part.Kept n o) : part.Kept m o := by
  cases part <;> exact Eq.trans hno hmn

end Machine

namespace Instruction

open Machine (Part)

/-- Whether the instruction is a skip that is taken. -/
def skips (m : Machine) : Instruction → Bool
  | skipIfByte x value => m.registers.get x == value
  | skipUnlessByte x value => m.registers.get x != value
  | skipIfRegister x y => m.registers.get x == m.registers.get y
  | skipUnlessRegister x y => m.registers.get x != m.registers.get y
  | skipIfKey x => m.keyOf x
  | skipUnlessKey x => !m.keyOf x
  | _ => false

def writes (m : Machine) : Instruction → List Part
  | clear => [.display]
  | leave => if m.stack.pointer = 0 then [] else [.stack, .pc]
  | jump _ | jumpFromFirst _ => [.pc]
  | call _ => [.stack, .pc]
  | setByte x _ | addByte x _ | readDelay x => [.register x]
  | compute operation x _ =>
    match operation with
    | .copy | .or | .and | .xor => [.register x]
    | _ => [.register x, .register 0xF]
  | setIndex _ | addIndex _ | glyph _ => [.index]
  | random x _ => [.random, .register x]
  | draw .. => [.display, .register 0xF]
  | waitForKey x => if m.keypad.lowest?.isNone then [.pc, .stalled] else [.register x]
  | setDelay _ => [.delay]
  | setSound _ => [.sound]
  | decimal _ | store _ => [.memory]
  | load last => ((List.finRange 16).filter (· ≤ last)).map .register
  | unknown _ => [.pc, .stalled]
  | skip => if skip.skips m then [.pc] else []

end Instruction

namespace Machine

open Instruction (Fits Known nibble OperandsOf operandsOf_ofWord fits_of_ofWord fits_iff)

variable {m : Machine} {part : Part}

theorem kept_setRegister {x : Register} (h : part ≠ .register x) (value : UInt8) :
    part.Kept m (m.setRegister x value) := by
  cases part with
  | register r =>
    have hne : x.val ≠ r.val := by
      intro hval
      exact h (congrArg Part.register (Fin.ext hval).symm)
    exact Vector.getElem_set_ne x.isLt r.isLt hne
  | _ => rfl

theorem kept_skip {i : Instruction} (hwrites : i.writes m = if i.skips m then [.pc] else [])
    (h : part ∉ i.writes m) : part.Kept m (m.skipIf (i.skips m)) := by
  rw [hwrites] at h
  cases htaken : i.skips m with
  | false => exact .refl m part
  | true =>
    rw [htaken, if_pos rfl] at h
    cases part with
    | pc => simp at h
    | _ => rfl

theorem kept_compute {operation : Operation} {x y : Register}
    (h : part ∉ (Instruction.compute operation x y).writes m) :
    part.Kept m (m.compute operation x y) := by
  have hx : part ≠ .register x := by
    rintro rfl
    cases operation <;> simp [Instruction.writes] at h
  unfold compute
  dsimp only
  split
  case h_1 flag hflag =>
    have hflagged : part ≠ .register 0xF := by
      rintro rfl
      cases operation <;> simp [Operation.flag?] at hflag <;> simp [Instruction.writes] at h
    exact (kept_setRegister hflagged flag).trans (kept_setRegister hx _)
  case h_2 => exact kept_setRegister hx _

theorem kept_random {x : Register} {value : UInt8}
    (h : part ∉ (Instruction.random x value).writes m) :
    part.Kept m (m.perform (.random x value)) := by
  have hx : part ≠ .register x := by
    rintro rfl
    simp [Instruction.writes] at h
  refine (kept_setRegister hx (m.random.byte &&& value)).trans ?_
  cases part with
  | random => simp [Instruction.writes] at h
  | _ => rfl

theorem kept_draw {x y : Register} {rows : Fin 16}
    (h : part ∉ (Instruction.draw x y rows).writes m) : part.Kept m (m.draw x y rows) := by
  have hflag : part ≠ .register 0xF := by
    rintro rfl
    simp [Instruction.writes] at h
  have hshown : part.Kept m { m with display := (m.draw x y rows).display } := by
    cases part with
    | display => simp [Instruction.writes] at h
    | _ => rfl
  exact hshown.trans (kept_setRegister hflag _)

theorem kept_waitForKey {x : Register} (h : part ∉ (Instruction.waitForKey x).writes m) :
    part.Kept m (m.waitForKey x) := by
  unfold waitForKey
  cases hkey : m.keypad.lowest? with
  | some key => exact kept_setRegister (by simpa [Instruction.writes, hkey] using h) _
  | none =>
    simp only [Instruction.writes, hkey, Option.isNone_none, if_pos] at h
    cases part with
    | pc | stalled => simp at h
    | _ => rfl

theorem kept_leave (h : part ∉ Instruction.leave.writes m) : part.Kept m m.leave := by
  unfold leave
  split
  case isTrue => exact .refl m part
  case isFalse hsome =>
    simp only [Instruction.writes, if_neg hsome] at h
    cases part with
    | stack | pc => simp at h
    | _ => rfl

theorem kept_loadRegisters {last : Register} (h : part ∉ (Instruction.load last).writes m) :
    part.Kept m (m.loadRegisters last) := by
  cases part with
  | register r =>
    have hr : ¬ r ≤ last := by simpa [Instruction.writes] using h
    have hkept : (m.loadRegisters last).registers[r] = m.registers[r] := by
      simp [loadRegisters, hr]
    exact hkept
  | _ => simp only [Part.Kept, loadRegisters]

theorem kept_perform {i : Instruction} (h : part ∉ i.writes m) : part.Kept m (m.perform i) := by
  cases i with
  | leave => exact kept_leave h
  | skipIfByte | skipUnlessByte | skipIfRegister | skipUnlessRegister | skipIfKey
  | skipUnlessKey =>
    exact kept_skip rfl h
  | setByte x value | addByte x value | readDelay x =>
    exact kept_setRegister (by simpa [Instruction.writes] using h) _
  | compute operation x y => exact kept_compute h
  | random x value => exact kept_random h
  | draw x y rows => exact kept_draw h
  | waitForKey x => exact kept_waitForKey h
  | load last => exact kept_loadRegisters h
  | _ => cases part <;> first | rfl | simp [Instruction.writes] at h

def Returns (m : Machine) (w : UInt16) : Prop := Fits "00EE" w ∧ m.stack.pointer ≠ 0

def Skips (m : Machine) (w : UInt16) : Prop :=
  let first := m.registers.get (nibble w.toNat 2)
  let second := m.registers.get (nibble w.toNat 1)
  Fits "3XNN" w ∧ first = w.toUInt8 ∨ Fits "4XNN" w ∧ first ≠ w.toUInt8 ∨
    Fits "5XYN" w ∧ first = second ∨ Fits "9XYN" w ∧ first ≠ second ∨
    Fits "EX9E" w ∧ m.keyOf (nibble w.toNat 2) = true ∨
    Fits "EXA1" w ∧ m.keyOf (nibble w.toNat 2) = false

/-- A word outside the table, or a wait that finds no key. -/
def Waits (m : Machine) (w : UInt16) : Prop :=
  ¬ Known w ∨ Fits "FX0A" w ∧ ∀ key, m.keypad.get key = false

/-- The word is a writer of the part. -/
def Part.WrittenBy (m : Machine) (w : UInt16) : Part → Prop
  | memory => ∃ row ∈ ["FX33", "FX55"], Fits row w
  | display => ∃ row ∈ ["00E0", "DXYN"], Fits row w
  | stack => Fits "2NNN" w ∨ m.Returns w
  | random => Fits "CXNN" w
  | index => ∃ row ∈ ["ANNN", "FX1E", "FX29"], Fits row w
  | delay => Fits "FX15" w
  | sound => Fits "FX18" w
  | keypad | beep => False
  | stalled => m.Waits w
  | pc => (∃ row ∈ ["1NNN", "2NNN", "BNNN"], Fits row w) ∨ m.Returns w ∨ m.Skips w ∨ m.Waits w
  | register r =>
    r = nibble w.toNat 2 ∧
      (∃ row ∈ ["6XNN", "7XNN", "8XY0", "8XY1", "8XY2", "8XY3", "8XY4", "8XY5", "8XY6", "8XY7",
        "8XYE", "CXNN", "FX07", "FX0A"], Fits row w) ∨
    r = 0xF ∧ (∃ row ∈ ["8XY4", "8XY5", "8XY6", "8XY7", "8XYE", "DXYN"], Fits row w) ∨
    r ≤ nibble w.toNat 2 ∧ Fits "FX65" w

section Writers

variable {w : UInt16} {i : Instruction}

theorem exists_fits (hi : Instruction.ofWord w = i) {rows : List String} {row : String}
    (hrow : i.row? = some row) (hmem : row ∈ rows) : ∃ row ∈ rows, Fits row w :=
  ⟨row, hmem, fits_of_ofWord hi hrow⟩

theorem skips_ofWord_iff : (Instruction.ofWord w).skips m = true ↔ m.Skips w := by
  have hoperands := operandsOf_ofWord w
  unfold Skips
  simp (disch := decide) only [fits_iff]
  cases hi : Instruction.ofWord w with
  | compute operation x y => cases operation <;> simp [Instruction.row?, Instruction.skips]
  | clear | leave | unknown raw => simp [Instruction.row?, Instruction.skips]
  | _ =>
    simp only [hi, OperandsOf] at hoperands
    simp [Instruction.row?, Instruction.skips, ← hoperands]

theorem writtenBy_of_skip (hi : Instruction.ofWord w = i)
    (hwrites : i.writes m = if i.skips m then [.pc] else []) (h : part ∈ i.writes m) :
    part.WrittenBy m w := by
  rw [hwrites] at h
  split at h
  case isTrue htaken =>
    obtain rfl := List.mem_singleton.mp h
    exact .inr (.inr (.inl (skips_ofWord_iff.mp (hi ▸ htaken))))
  case isFalse => cases h

theorem writtenBy_of_holds (hi : Instruction.ofWord w = i) (hholds : i.holds m.keypad = true)
    (h : part ∈ [.pc, .stalled]) : part.WrittenBy m w := by
  have hwaits : m.Waits w := Instruction.holds_ofWord_iff.mp (hi ▸ hholds)
  rcases List.mem_pair.mp h with rfl | rfl
  · exact .inr (.inr (.inr hwaits))
  · exact hwaits

theorem writtenBy_of_leave (hi : Instruction.ofWord w = .leave)
    (h : part ∈ Instruction.leave.writes m) : part.WrittenBy m w := by
  simp only [Instruction.writes] at h
  split at h
  case isTrue => cases h
  case isFalse hsome =>
    have hreturns : m.Returns w := ⟨fits_of_ofWord hi rfl, hsome⟩
    rcases List.mem_pair.mp h with rfl | rfl
    · exact .inr hreturns
    · exact .inr (.inl hreturns)

theorem writtenBy_of_compute {operation : Operation} {x y : Register}
    (hi : Instruction.ofWord w = .compute operation x y) (hx : x = nibble w.toNat 2)
    (h : part ∈ (Instruction.compute operation x y).writes m) : part.WrittenBy m w := by
  cases operation with
  | copy | or | and | xor =>
    obtain rfl := List.mem_singleton.mp h
    exact .inl ⟨hx, exists_fits hi rfl (by decide)⟩
  | add | subtract | shiftRight | subtractFrom | shiftLeft =>
    rcases List.mem_pair.mp h with rfl | rfl
    · exact .inl ⟨hx, exists_fits hi rfl (by decide)⟩
    · exact .inr (.inl ⟨rfl, exists_fits hi rfl (by decide)⟩)

theorem writtenBy_of_waitForKey {x : Register} (hi : Instruction.ofWord w = .waitForKey x)
    (hx : x = nibble w.toNat 2) (h : part ∈ (Instruction.waitForKey x).writes m) :
    part.WrittenBy m w := by
  simp only [Instruction.writes] at h
  split at h
  case isTrue hnone => exact writtenBy_of_holds hi hnone h
  case isFalse =>
    obtain rfl := List.mem_singleton.mp h
    exact .inl ⟨hx, exists_fits hi rfl (by decide)⟩

theorem writtenBy_of_mem_writes (h : part ∈ (Instruction.ofWord w).writes m) :
    part.WrittenBy m w := by
  have hoperands := operandsOf_ofWord w
  cases hi : Instruction.ofWord w <;> rw [hi] at h hoperands
  case clear | decimal | store | setIndex | addIndex | glyph =>
    obtain rfl := List.mem_singleton.mp h
    exact exists_fits hi rfl (by decide)
  case setDelay | setSound =>
    obtain rfl := List.mem_singleton.mp h
    exact fits_of_ofWord hi rfl
  case jump | jumpFromFirst =>
    obtain rfl := List.mem_singleton.mp h
    exact .inl (exists_fits hi rfl (by decide))
  case call =>
    rcases List.mem_pair.mp h with rfl | rfl
    · exact .inl (fits_of_ofWord hi rfl)
    · exact .inl (exists_fits hi rfl (by decide))
  case leave => exact writtenBy_of_leave hi h
  case setByte | addByte =>
    obtain rfl := List.mem_singleton.mp h
    exact .inl ⟨hoperands.1, exists_fits hi rfl (by decide)⟩
  case readDelay =>
    obtain rfl := List.mem_singleton.mp h
    exact .inl ⟨hoperands, exists_fits hi rfl (by decide)⟩
  case random =>
    rcases List.mem_pair.mp h with rfl | rfl
    · exact fits_of_ofWord hi rfl
    · exact .inl ⟨hoperands.1, exists_fits hi rfl (by decide)⟩
  case draw =>
    rcases List.mem_pair.mp h with rfl | rfl
    · exact exists_fits hi rfl (by decide)
    · exact .inr (.inl ⟨rfl, exists_fits hi rfl (by decide)⟩)
  case compute => exact writtenBy_of_compute hi hoperands.1 h
  case waitForKey => exact writtenBy_of_waitForKey hi hoperands h
  case load last =>
    obtain ⟨r, hr, rfl⟩ : ∃ r ≤ last, .register r = part := by
      simpa [Instruction.writes] using h
    have hlast : last = nibble w.toNat 2 := hoperands
    exact .inr (.inr ⟨hlast ▸ hr, fits_of_ofWord hi rfl⟩)
  case unknown => exact writtenBy_of_holds hi rfl h
  all_goals exact writtenBy_of_skip hi rfl h

end Writers

theorem kept_execute {w : UInt16} (h : ¬ part.WrittenBy m w) :
    part.Kept m (m.execute (.ofWord w)).machine :=
  kept_perform fun hwrites => h (writtenBy_of_mem_writes hwrites)

/-- The parts that only instructions write. -/
def Part.Lasting : Part → Prop
  | memory | display | stack | random | index | register _ => True
  | _ => False

namespace Part.Lasting

theorem kept_update (hlasting : part.Lasting) (pc : UInt16) (delay sound : UInt8)
    (keypad : Keypad) (beep stalled : Bool) :
    part.Kept m { m with pc, delay, sound, keypad, beep, stalled } := by
  cases part <;> first | rfl | cases hlasting

theorem kept_cycle (hlasting : part.Lasting) (h : ¬ part.WrittenBy m m.word) :
    part.Kept m m.cycle.machine := by
  rw [machine_cycle_eq]
  split
  case isTrue => exact hlasting.kept_update m.pc m.delay m.sound m.keypad false true
  case isFalse =>
    -- The fetch changes nothing that decides whether the word is a writer.
    have hfetched : ¬ part.WrittenBy m.fetched m.word := by
      cases part <;> exact h
    have hfetch : part.Kept m m.fetched := hlasting.kept_update _ _ _ _ _ _
    have hperform : part.Kept m.fetched (m.fetched.perform m.instruction) := kept_execute hfetched
    exact (hfetch.trans hperform).trans (hlasting.kept_update _ _ _ _ _ _)

theorem kept_play (hlasting : part.Lasting) {schedule : List Action}
    (h : ∀ s ∈ m.starts schedule, ¬ part.WrittenBy s s.word) :
    part.Kept m (m.play schedule).machine := by
  induction schedule generalizing m with
  | nil => exact .refl m part
  | cons a rest ih =>
    cases a with
    | cycle =>
      have hcycle := hlasting.kept_cycle (h m List.mem_cons_self)
      have hrest := ih fun s hs => h s (List.mem_cons_of_mem m hs)
      rw [play_cycle]
      exact hcycle.trans hrest
    | key event =>
      have hpress : part.Kept m (m.press event) := hlasting.kept_update _ _ _ _ _ _
      have hrest := ih (m := m.press event) h
      rw [play_key]
      exact hpress.trans hrest

end Part.Lasting

/-- An instruction changes nothing but what it is a writer of, and it clears no stall. Memory,
display, stack, random key, index and each register come through a run as they were if the run
comes to none of their writers. -/
theorem write_footprint (m : Machine) :
    (∀ (w : UInt16) (part : Part),
      ¬ part.WrittenBy m w → part.Kept m (m.execute (.ofWord w)).machine) ∧
    (∀ w : UInt16, m.stalled = true → (m.execute (.ofWord w)).machine.stalled = true) ∧
    (∀ (schedule : List Action) (part : Part), part.Lasting →
      (∀ s ∈ m.starts schedule, ¬ part.WrittenBy s s.word) →
        part.Kept m (m.play schedule).machine) := by
  refine ⟨fun w part h => kept_execute h, ?_, fun schedule part hlasting h => hlasting.kept_play h⟩
  intro w hstalled
  change (m.perform (.ofWord w)).stalled = true
  rw [stalled_perform, hstalled, Bool.true_or]

def storing : Machine :=
  { create 0 with
    memory := Memory.blank.writeBlock 0 [0x61, 0x05, 0xA3, 0x00, 0xF1, 0x55, 0x01, 0x23]
    pc := 0 }

theorem write_footprint_storing :
    let held : Machine := { storing with stalled := true }
    let schedule : List Action := [.cycle, .key (.numbered 2 true), .cycle, .cycle, .cycle]
    ¬ Part.index.WrittenBy storing 0xF155 ∧
      (storing.execute (.ofWord 0xF155)).machine.index = storing.index ∧
      held.stalled = true ∧ (held.execute (.ofWord 0x6105)).machine.stalled = true ∧
      (Part.register 0).Lasting ∧
      (∀ s ∈ storing.starts schedule, ¬ (Part.register 0).WrittenBy s s.word) ∧
      (storing.play schedule).machine.registers.get 0 = storing.registers.get 0 ∧
      (storing.play schedule).machine.registers.get 1 = 5 ∧
      (storing.play schedule).machine.index = 0x300 ∧
      (storing.play schedule).machine.memory.read 0x301 = 5 := by
  intro held schedule
  obtain ⟨hexecute, hstalled, hplay⟩ := write_footprint storing
  have hindex : ¬ Part.index.WrittenBy storing 0xF155 := by
    unfold Part.WrittenBy
    decide +kernel
  have hwriters : ∀ s ∈ storing.starts schedule, ¬ (Part.register 0).WrittenBy s s.word := by
    unfold Part.WrittenBy
    decide +kernel
  exact ⟨hindex, hexecute 0xF155 .index hindex, rfl, (write_footprint held).2.1 0x6105 rfl,
    trivial, hwriters, hplay schedule (.register 0) trivial hwriters, by decide +kernel⟩

end Machine

end Chip8
