import Chip8.Proofs.Schedule

/-! The display and the stack pointer kept in bytes, which have room for more values than these two
take. Run beside a machine, the bytes stay those of its display and its pointer. -/

namespace Chip8

structure Storage where
  cells : Vector UInt8 2048
  pointer : UInt8
deriving DecidableEq

namespace Storage

def cleared : Storage := ⟨Vector.replicate 2048 0, 0⟩

def ofMachine (m : Machine) : Storage :=
  ⟨m.display.map Bool.toUInt8, UInt8.ofNat m.stack.pointer.val⟩

/-- Turns the lowest bit of every covered cell, whatever else the cell holds. -/
def flip (s : Storage) (mask : Display) : Storage :=
  let turn (cell : UInt8) (covered : Bool) := if covered then cell ^^^ 1 else cell
  { s with cells := s.cells.zipWith turn mask }

/-- The effect of an instruction of the machine. The pointer is stepped in eight bits and then cut
down to the bits it keeps. -/
def perform (s : Storage) (m : Machine) : Instruction → Storage
  | .clear => { s with cells := cleared.cells }
  | .draw x y rows =>
    s.flip (Display.mask (m.memory.readBlock m.index rows) (m.registers.get x) (m.registers.get y))
  | .call _ => { s with pointer := (s.pointer + 1) &&& UInt8.ofNat Stack.pointerMask }
  | .leave =>
    if 0 < s.pointer then { s with pointer := (s.pointer - 1) &&& UInt8.ofNat Stack.pointerMask }
    else s
  | _ => s

def play (s : Storage) (m : Machine) : List Action → Storage
  | [] => s
  | .cycle :: rest => (s.perform m.fetched m.instruction).play m.cycle.machine rest
  | .key event :: rest => s.play (m.press event) rest

theorem cell_ofMachine (m : Machine) (i : Nat) (hi : i < 2048) :
    (ofMachine m).cells[i] = 0 ∨ (ofMachine m).cells[i] = 1 := by
  rw [ofMachine, Vector.getElem_map]
  cases m.display[i] with
  | false => exact .inl rfl
  | true => exact .inr rfl

/-- The pointer of the ring and its steps, as they are in bytes. -/
theorem pointer_steps (p : Fin 16) :
    UInt8.ofNat p.val < 16 ∧ (0 < UInt8.ofNat p.val ↔ p ≠ 0) ∧
      UInt8.ofNat (p + 1).val = (UInt8.ofNat p.val + 1) &&& UInt8.ofNat Stack.pointerMask ∧
      UInt8.ofNat (p - 1).val = (UInt8.ofNat p.val - 1) &&& UInt8.ofNat Stack.pointerMask := by
  revert p
  decide

theorem pointer_ofMachine_lt (m : Machine) : (ofMachine m).pointer < 16 :=
  (pointer_steps m.stack.pointer).1

theorem cells_blank : Vector.map Bool.toUInt8 Display.blank = cleared.cells := by
  rw [Display.blank, Vector.map_replicate]
  rfl

theorem flip_ofMachine (m : Machine) (mask : Display) :
    (ofMachine m).flip mask = ofMachine { m with display := m.display.toggle mask } := by
  have hcells : (ofMachine m).cells.zipWith
      (fun cell covered => if covered then cell ^^^ 1 else cell) mask =
        (m.display.toggle mask).map Bool.toUInt8 := by
    apply Vector.ext
    intro i hi
    rw [Vector.getElem_zipWith, Vector.getElem_map, Display.getElem_toggle, ofMachine,
      Vector.getElem_map]
    cases m.display[i] <;> cases mask[i] <;> rfl
  rw [flip, hcells]
  rfl

theorem perform_ofMachine (m : Machine) (i : Instruction) :
    (ofMachine m).perform m i = ofMachine (m.perform i) := by
  obtain ⟨-, hpositive, hpush, hpop⟩ := pointer_steps m.stack.pointer
  cases i with
  | clear => exact congrArg (Storage.mk · _) cells_blank.symm
  | draw x y rows => exact flip_ofMachine m _
  | call target => exact congrArg (Storage.mk _) hpush.symm
  | leave =>
    by_cases hp : m.stack.pointer = 0
    · have hnone : ¬ 0 < (ofMachine m).pointer := fun h => hpositive.mp h hp
      have hleave : m.perform .leave = m := if_pos hp
      rw [hleave]
      exact if_neg hnone
    · have hsome : 0 < (ofMachine m).pointer := hpositive.mpr hp
      have hleave : m.perform .leave = { m with stack := m.stack.pop.1, pc := m.stack.pop.2 } :=
        if_neg hp
      rw [hleave]
      exact (if_pos hsome).trans (congrArg (Storage.mk _) hpop.symm)
  | compute operation x y => cases operation <;> rfl
  | _ =>
    simp only [Machine.perform, Machine.skipIf_eq, Machine.waitForKey_eq]
    rfl

theorem cycle_ofMachine (m : Machine) :
    (ofMachine m).perform m.fetched m.instruction = ofMachine m.cycle.machine := by
  have hperform := perform_ofMachine m.fetched m.instruction
  rw [Machine.cycle_eq]
  split <;> exact hperform

/-- The bytes never leave the values that stand for cells and for a pointer. -/
theorem play_ofMachine (m : Machine) (schedule : List Action) :
    (ofMachine m).play m schedule = ofMachine (m.play schedule).machine := by
  induction schedule generalizing m with
  | nil => rfl
  | cons a rest ih =>
    cases a with
    | cycle =>
      rw [play, cycle_ofMachine, ih, Machine.play_cycle]
    | key event => exact ih (m.press event)

end Storage

end Chip8
