import Chip8.Proofs.Schedule
import Mathlib.Data.Int.ModEq

/-! Only the low twelve bits of the program counter, the index register and the return addresses
can be seen by a program. Machines that agree but for the other bits go on doing so. -/

namespace Chip8

/-- Addresses that select the same cell of memory. -/
def SameAddress (a b : UInt16) : Prop := a.toNat ≡ b.toNat [MOD 4096]

namespace SameAddress

theorem refl (a : UInt16) : SameAddress a a := Nat.ModEq.refl _

theorem add {a b : UInt16} (h : SameAddress a b) (offset : UInt16) :
    SameAddress (a + offset) (b + offset) := by
  simp only [SameAddress, Nat.ModEq, UInt16.toNat_add] at h ⊢
  omega

theorem sub {a b : UInt16} (h : SameAddress a b) (offset : UInt16) :
    SameAddress (a - offset) (b - offset) := by
  have ho := offset.toNat_lt
  simp only [SameAddress, Nat.ModEq, UInt16.toNat_sub] at h ⊢
  omega

theorem cell_eq {a b : UInt16} (h : SameAddress a b) : Memory.cell a = Memory.cell b :=
  Memory.cell_eq_iff.mpr h

theorem read_eq {a b : UInt16} (h : SameAddress a b) (m : Memory) : m.read a = m.read b := by
  simp [Memory.read, h.cell_eq]

theorem word_eq {a b : UInt16} (h : SameAddress a b) (m : Memory) : m.word a = m.word b := by
  rw [Memory.word, Memory.word, h.read_eq, (h.add 1).read_eq]

theorem readBlock_eq {a b : UInt16} (h : SameAddress a b) (m : Memory) (n : Nat) :
    m.readBlock a n = m.readBlock b n := by
  apply List.map_congr_left
  intro i _
  exact (h.add _).read_eq m

theorem writeBlock_eq {a b : UInt16} (h : SameAddress a b) (m : Memory) (bytes : List UInt8) :
    m.writeBlock a bytes = m.writeBlock b bytes := by
  induction bytes generalizing m a b with
  | nil => rfl
  | cons byte rest ih =>
    have hwrite : m.write a byte = m.write b byte := by simp [Memory.write, h.cell_eq]
    rw [Memory.writeBlock, Memory.writeBlock, hwrite]
    exact ih (h.add 1) _

end SameAddress

namespace Stack

structure Congruent (s t : Stack) : Prop where
  pointer : s.pointer = t.pointer
  slots : ∀ i : Fin 16, SameAddress s.slots[i] t.slots[i]

theorem Congruent.set {s t : Stack} (h : Congruent s t) {a b : UInt16} (hab : SameAddress a b)
    {slot : Nat} (hslot : slot < 16) (pointer : Fin 16) :
    Congruent ⟨s.slots.set slot a, pointer⟩ ⟨t.slots.set slot b, pointer⟩ where
  pointer := rfl
  slots i := by
    by_cases hi : slot = i.val
    · simpa [hi] using hab
    · simpa [Vector.getElem_set_ne _ _ hi] using h.slots i

theorem Congruent.push {s t : Stack} (h : Congruent s t) {a b : UInt16} (hab : SameAddress a b) :
    Congruent (s.push a) (t.push b) := by
  simp only [Stack.push, h.pointer]
  exact h.set hab _ _

theorem Congruent.pop {s t : Stack} (h : Congruent s t) :
    Congruent s.pop.1 t.pop.1 ∧ SameAddress s.pop.2 t.pop.2 := by
  simp only [Stack.pop, h.pointer]
  exact ⟨h.set (.refl 0) _ _, h.slots _⟩

end Stack

namespace Machine

structure Congruent (m n : Machine) : Prop where
  memory : m.memory = n.memory
  registers : m.registers = n.registers
  index : SameAddress m.index n.index
  pc : SameAddress m.pc n.pc
  stack : m.stack.Congruent n.stack
  delay : m.delay = n.delay
  sound : m.sound = n.sound
  keypad : m.keypad = n.keypad
  display : m.display = n.display
  random : m.random = n.random
  beep : m.beep = n.beep
  stalled : m.stalled = n.stalled

namespace Congruent

variable {m n : Machine}

theorem keyOf_eq (h : Congruent m n) (x : Register) : m.keyOf x = n.keyOf x := by
  simp only [keyOf, h.registers, h.keypad]

theorem withRegisters (h : Congruent m n) (registers : Registers) :
    Congruent { m with registers := registers } { n with registers := registers } :=
  { h with registers := rfl }

theorem setRegister (h : Congruent m n) (x : Register) (value : UInt8) :
    Congruent (m.setRegister x value) (n.setRegister x value) := by
  unfold Machine.setRegister
  rw [h.registers]
  exact h.withRegisters _

theorem hold (h : Congruent m n) : Congruent m.hold n.hold :=
  { h with pc := h.pc.sub 2, stalled := rfl }

theorem skipIf (h : Congruent m n) (condition : Bool) :
    Congruent (m.skipIf condition) (n.skipIf condition) := by
  cases condition with
  | true => exact { h with pc := h.pc.add 2 }
  | false => exact h

theorem compute (h : Congruent m n) (operation : Operation) (x y : Register) :
    Congruent (m.compute operation x y) (n.compute operation x y) := by
  unfold Machine.compute
  rw [h.registers]
  apply setRegister
  split
  · exact h.setRegister _ _
  · exact h

theorem draw (h : Congruent m n) (x y : Register) (rows : Nat) :
    Congruent (m.draw x y rows) (n.draw x y rows) := by
  have hsprite : m.memory.readBlock m.index rows = n.memory.readBlock n.index rows := by
    rw [h.memory, h.index.readBlock_eq]
  refine { h with display := ?_, registers := ?_ }
  · simp only [Machine.draw, hsprite, h.registers, h.display]
  · simp only [Machine.draw, hsprite, h.registers, h.display]

theorem leave (h : Congruent m n) : Congruent m.leave n.leave := by
  obtain ⟨hstack, hpc⟩ := h.stack.pop
  unfold Machine.leave
  rw [h.stack.pointer]
  split
  · exact h
  · exact { h with stack := hstack, pc := hpc }

theorem waitForKey (h : Congruent m n) (x : Register) :
    Congruent (m.waitForKey x) (n.waitForKey x) := by
  unfold Machine.waitForKey
  rw [h.keypad]
  split
  · exact h.setRegister _ _
  · exact h.hold

theorem writeBlock (h : Congruent m n) (bytes : List UInt8) :
    Congruent { m with memory := m.memory.writeBlock m.index bytes }
      { n with memory := n.memory.writeBlock n.index bytes } :=
  { h with memory := by rw [h.memory, h.index.writeBlock_eq] }

theorem loadRegisters (h : Congruent m n) (last : Register) :
    Congruent (m.loadRegisters last) (n.loadRegisters last) := by
  have hread : ∀ offset, m.memory.read (m.index + offset) = n.memory.read (n.index + offset) := by
    intro offset
    rw [h.memory, (h.index.add offset).read_eq]
  unfold Machine.loadRegisters
  simp only [hread, h.registers]
  exact h.withRegisters _

/-- An instruction sees only the cells that addresses select. -/
theorem perform (h : Congruent m n) (i : Instruction) : Congruent (m.perform i) (n.perform i) := by
  have hregister (x : Register) : m.registers[x] = n.registers[x] := by rw [h.registers]
  cases i with
  | clear => exact { h with display := rfl }
  | leave => exact h.leave
  | jump target => exact { h with pc := .refl _ }
  | call target => exact { h with stack := h.stack.push h.pc, pc := .refl _ }
  | skipIfByte x value | skipUnlessByte x value =>
    simp only [Machine.perform, hregister]
    exact h.skipIf _
  | skipIfRegister x y | skipUnlessRegister x y =>
    simp only [Machine.perform, hregister]
    exact h.skipIf _
  | setByte x value => exact h.setRegister x value
  | addByte x value =>
    simp only [Machine.perform, hregister]
    exact h.setRegister x _
  | compute operation x y => exact h.compute operation x y
  | setIndex address => exact { h with index := .refl _ }
  | jumpFromFirst base =>
    have hfirst : m.registers[0] = n.registers[0] := hregister 0
    simp only [Machine.perform, hfirst]
    exact { h with pc := .refl _ }
  | random x value =>
    simp only [Machine.perform, h.random]
    exact { h.setRegister x _ with random := rfl }
  | draw x y rows => exact h.draw x y rows
  | skipIfKey x | skipUnlessKey x =>
    simp only [Machine.perform, h.keyOf_eq]
    exact h.skipIf _
  | readDelay x =>
    simp only [Machine.perform, h.delay]
    exact h.setRegister x _
  | waitForKey x => exact h.waitForKey x
  | setDelay x => exact { h with delay := hregister x }
  | setSound x => exact { h with sound := hregister x }
  | addIndex x =>
    simp only [Machine.perform, hregister]
    exact { h with index := h.index.add _ }
  | glyph x =>
    simp only [Machine.perform, hregister]
    cases Font.address? n.registers[x] with
    | none => exact h
    | some address => exact { h with index := .refl address }
  | decimal x =>
    simp only [Machine.perform, storeDecimal, hregister]
    exact h.writeBlock _
  | store last =>
    have hblock : m.registers.toList = n.registers.toList := by rw [h.registers]
    simp only [Machine.perform, storeRegisters, hblock]
    exact h.writeBlock _
  | load last => exact h.loadRegisters last
  | unknown raw => exact h.hold

theorem fetched (h : Congruent m n) : Congruent m.fetched n.fetched :=
  { h with pc := h.pc.add 2, beep := rfl, stalled := rfl }

theorem tick (h : Congruent m n) : Congruent m.tick n.tick where
  __ := h
  delay := by simp [Machine.tick, h.delay]
  sound := by simp [Machine.tick, h.sound]
  beep := by simp [Machine.tick, h.sound]

theorem press (h : Congruent m n) (event : KeyEvent) : Congruent (m.press event) (n.press event) :=
  { h with keypad := by simp [Machine.press, h.keypad] }

theorem word_eq (h : Congruent m n) : m.word = n.word := by
  rw [word, word, h.memory, h.pc.word_eq]

theorem cycle (h : Congruent m n) : Congruent m.cycle.machine n.cycle.machine := by
  have hi : m.instruction = n.instruction := by rw [instruction, instruction, h.word_eq]
  have hholds : m.instruction.holds m.keypad = n.instruction.holds n.keypad := by
    rw [hi, h.keypad]
  cases hm : m.instruction.holds m.keypad with
  | true =>
    rw [machine_cycle_of_holds hm, machine_cycle_of_holds (hholds ▸ hm)]
    exact { h with beep := rfl, stalled := rfl }
  | false =>
    rw [machine_cycle_of_not_holds hm, machine_cycle_of_not_holds (hholds ▸ hm), hi]
    exact (h.fetched.perform _).tick

end Congruent

theorem raw_warnings_cycle {m n : Machine} (h : Congruent m n) :
    m.cycle.warning?.map Warning.raw = n.cycle.warning?.map Warning.raw := by
  rw [warning?_cycle, warning?_cycle, h.word_eq]
  split <;> rfl

/-- Two machines that agree but for the high bits of their addresses run alike, and warn of the
same words. -/
theorem congruent_play {m n : Machine} (h : Congruent m n) (schedule : List Action) :
    Congruent (m.play schedule).machine (n.play schedule).machine ∧
      (m.play schedule).warnings.map Warning.raw = (n.play schedule).warnings.map Warning.raw := by
  induction schedule generalizing m n with
  | nil => exact ⟨h, rfl⟩
  | cons a rest ih =>
    cases a with
    | cycle =>
      obtain ⟨hmachine, hwarnings⟩ := ih h.cycle
      rw [play_cycle, play_cycle]
      refine ⟨hmachine, ?_⟩
      simp only [Array.map_append, hwarnings, ← Option.toArray_map, raw_warnings_cycle h]
    | key event => exact ih (h.press event)

/-- A call in the last and the first cell of memory, reached with any high bits. -/
def atEdge (pc : UInt16) : Machine :=
  { create 0 with memory := Memory.blank.writeBlock 0xFFF [0x22, 0x04], pc := pc }

theorem congruent_play_atEdge :
    Congruent (atEdge 0x0FFF) (atEdge 0xFFFF) ∧
      ((atEdge 0x0FFF).play [.cycle, .cycle]).warnings.map Warning.raw =
        ((atEdge 0xFFFF).play [.cycle, .cycle]).warnings.map Warning.raw := by
  have h : Congruent (atEdge 0x0FFF) (atEdge 0xFFFF) :=
    { memory := rfl
      registers := rfl
      index := .refl 0
      pc := rfl
      stack := ⟨rfl, fun _ => .refl _⟩
      delay := rfl
      sound := rfl
      keypad := rfl
      display := rfl
      random := rfl
      beep := rfl
      stalled := rfl }
  exact ⟨h, (congruent_play h [.cycle, .cycle]).2⟩

end Machine

end Chip8
