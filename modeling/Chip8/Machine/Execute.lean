import Chip8.Instruction.Basic
import Chip8.Machine.Basic

/-!
The effect of single instructions. An instruction sees the program counter already advanced
past it. Holding the machine takes that advance back, so the same word is fetched again.
-/

namespace Chip8

/-- An unknown instruction and the address it was held on. -/
structure Warning where
  raw : Int
  address : UInt16
deriving DecidableEq

/-- A machine after a step and what the step complained of. -/
structure Step where
  machine : Machine
  warning? : Option Warning
deriving DecidableEq

namespace Machine

def setRegister (m : Machine) (x : Register) (value : UInt8) : Machine :=
  { m with registers := m.registers.set x value }

def hold (m : Machine) : Machine := { m with pc := m.pc - 2, stalled := true }

def skipIf (m : Machine) (condition : Bool) : Machine :=
  if condition then { m with pc := m.pc + 2 } else m

/-- The flag register is written before the result, so a result in `VF` wins. -/
def compute (m : Machine) (operation : Operation) (x y : Register) : Machine :=
  let a := m.registers[x]
  let b := m.registers[y]
  let flagged := match operation.flag? a b with
    | some flag => m.setRegister 0xF flag
    | none => m
  flagged.setRegister x (operation.result a b)

/-- Toggles the sprite's cells; `VF` tells whether a lit cell went out. -/
def draw (m : Machine) (x y : Register) (rows : Nat) : Machine :=
  let mask := Display.mask (m.memory.readBlock m.index rows) m.registers[x] m.registers[y]
  { m with
    display := m.display.toggle mask
    registers := m.registers.set 0xF (m.display.overlaps mask).toUInt8 }

/-- Returning with nothing on the stack does nothing. -/
def leave (m : Machine) : Machine :=
  if m.stack.pointer = 0 then m
  else
    let (stack, address) := m.stack.pop
    { m with stack := stack, pc := address }

def waitForKey (m : Machine) (x : Register) : Machine :=
  match m.keypad.lowest? with
  | some key => m.setRegister x (UInt8.ofNat key)
  | none => m.hold

/-- The low four bits of a register name a key. -/
def keyOf (m : Machine) (x : Register) : Bool :=
  m.keypad[m.registers[x].toNat % 16]

/-- The decimal digits of a register, hundreds first. -/
def storeDecimal (m : Machine) (x : Register) : Machine :=
  let value := m.registers[x]
  { m with memory := m.memory.writeBlock m.index [value / 100, value / 10 % 10, value % 10] }

def storeRegisters (m : Machine) (last : Register) : Machine :=
  { m with memory := m.memory.writeBlock m.index (m.registers.toList.take (last + 1)) }

def loadRegisters (m : Machine) (last : Register) : Machine :=
  { m with
    registers := Vector.ofFn fun j : Register =>
      if j ≤ last then m.memory.read (m.index + UInt16.ofNat j) else m.registers[j] }

/-- The state after one instruction. -/
def perform (m : Machine) : Instruction → Machine
  | .clear => { m with display := Display.blank }
  | .leave => m.leave
  | .jump target => { m with pc := UInt16.ofNat target }
  | .call target => { m with stack := m.stack.push m.pc, pc := UInt16.ofNat target }
  | .skipIfByte x value => m.skipIf (m.registers[x] == value)
  | .skipUnlessByte x value => m.skipIf (m.registers[x] != value)
  | .skipIfRegister x y => m.skipIf (m.registers[x] == m.registers[y])
  | .setByte x value => m.setRegister x value
  | .addByte x value => m.setRegister x (m.registers[x] + value)
  | .compute operation x y => m.compute operation x y
  | .skipUnlessRegister x y => m.skipIf (m.registers[x] != m.registers[y])
  | .setIndex address => { m with index := UInt16.ofNat address }
  | .jumpFromFirst base => { m with pc := UInt16.ofNat base + m.registers[0].toUInt16 }
  | .random x value =>
    { m.setRegister x (m.random.byte &&& value) with random := m.random.next }
  | .draw x y rows => m.draw x y rows
  | .skipIfKey x => m.skipIf (m.keyOf x)
  | .skipUnlessKey x => m.skipIf (!m.keyOf x)
  | .readDelay x => m.setRegister x m.delay
  | .waitForKey x => m.waitForKey x
  | .setDelay x => { m with delay := m.registers[x] }
  | .setSound x => { m with sound := m.registers[x] }
  | .addIndex x => { m with index := m.index + m.registers[x].toUInt16 }
  | .glyph x => { m with index := (Font.address? m.registers[x]).getD m.index }
  | .decimal x => m.storeDecimal x
  | .store last => m.storeRegisters last
  | .load last => m.loadRegisters last
  | .unknown _ => m.hold

/-- Performs an instruction. An unknown one is reported with the address it is held on. -/
def execute (m : Machine) (instruction : Instruction) : Step where
  machine := m.perform instruction
  warning? :=
    match instruction with
    | .unknown raw => some ⟨raw, m.pc - 2⟩
    | _ => none

end Machine

/-- Why a number is no instruction word. -/
inductive WordError
  | tooLarge (word : Int)
deriving DecidableEq

def WordError.message : WordError → String
  | tooLarge word => s!"Python int {word} too large to convert to int32"

/-- Performs a word given as a number, which has to fit in 32 bits with sign. -/
def Machine.executeInt (m : Machine) (word : Int) : Except WordError Step :=
  if -0x80000000 ≤ word ∧ word < 0x80000000 then .ok (m.execute (.ofInt word))
  else .error (.tooLarge word)

end Chip8
