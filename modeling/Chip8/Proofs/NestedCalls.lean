import Chip8.Proofs.Footprint
import Chip8.Proofs.InstructionTable
import Mathlib.Data.List.Induction

/-! Calls nested in calls, and the returns from them. The ring keeps the addresses of the last
sixteen calls. A pointer that has come round to its start reads as an empty stack, though, and the
returns stop there: a nesting of fewer than sixteen calls is left in full, and no deeper one. -/

namespace Chip8

namespace Stack

def pushAll (s : Stack) (addresses : List UInt16) : Stack := addresses.foldl push s

/-- The addresses that a number of pops give, in their order. -/
def popped (s : Stack) : Nat → List UInt16
  | 0 => []
  | count + 1 => s.pop.2 :: s.pop.1.popped count

/-- A slot that the pops do not come down to has no part in them. -/
theorem popped_set {s : Stack} {slot : Fin 16} {count : Nat}
    (hbelow : count ≤ (s.pointer - 1 - slot).val) (value : UInt16) :
    popped ⟨s.slots.set slot value, s.pointer⟩ count = s.popped count := by
  induction count generalizing s with
  | zero => rfl
  | succ count ih =>
    have hne : slot.val ≠ (s.pointer - 1).val := by omega
    have htop : (s.slots.set slot value)[s.pointer - 1] = s.slots[s.pointer - 1] :=
      Vector.getElem_set_ne _ _ hne
    have hrest := ih (s := s.pop.1) (by simp only [pop]; omega)
    simp only [popped, pop, htop] at hrest ⊢
    rw [Vector.set_comm _ _ hne, hrest]

theorem popped_push (s : Stack) (address : UInt16) {count : Nat} (hcount : count < 16) :
    (s.push address).popped (count + 1) = address :: s.popped count := by
  rw [popped, pop_push, popped_set (by omega)]

/-- The ring gives back the last addresses pushed, up to the number of its slots. -/
theorem popped_pushAll (s : Stack) (addresses : List UInt16) {count : Nat}
    (hring : count ≤ 16) (hcount : count ≤ addresses.length) :
    (s.pushAll addresses).popped count = addresses.reverse.take count := by
  induction addresses using List.reverseRecOn generalizing count with
  | nil =>
    obtain rfl : count = 0 := Nat.le_zero.mp hcount
    rfl
  | append_singleton addresses address ih =>
    cases count with
    | zero => rfl
    | succ count =>
      rw [List.length_append, List.length_singleton] at hcount
      have hrest := @ih count (by omega) (by omega)
      rw [pushAll, List.foldl_append, List.foldl_cons, List.foldl_nil, popped_push _ _ (by omega),
        List.reverse_append, List.reverse_singleton, List.singleton_append, List.take_succ_cons]
      exact congrArg (address :: ·) hrest

theorem pointer_pushAll (s : Stack) (addresses : List UInt16) :
    (s.pushAll addresses).pointer.val = (s.pointer.val + addresses.length) % 16 := by
  induction addresses generalizing s with
  | nil => exact (Nat.mod_eq_of_lt s.pointer.isLt).symm
  | cons address rest ih =>
    have hpush : (s.push address).pointer.val = (s.pointer.val + 1) % 16 := by
      simp only [push]
      omega
    rw [pushAll, List.foldl_cons, ← pushAll, ih, hpush, List.length_cons]
    omega

end Stack

namespace Machine

/-- The place of a call, as its address is pushed, and where it goes. -/
structure CallSite where
  pc : UInt16
  target : Fin 4096

def CallSite.word (c : CallSite) : UInt16 := 0x2000 + UInt16.ofNat c.target

/-- Executes calls one after the other, each from its own place. -/
def nest (m : Machine) (calls : List CallSite) : Machine :=
  calls.foldl (fun m c => ({ m with pc := c.pc }.execute (.ofWord c.word)).machine) m

/-- Where returns lead that are executed one after the other, each from one of the places. -/
def returns (m : Machine) : List UInt16 → List UInt16
  | [] => []
  | pc :: rest =>
    let returned := ({ m with pc := pc }.execute (.ofWord 0x00EE)).machine
    returned.pc :: returned.returns rest

theorem CallSite.ofWord_word (c : CallSite) : Instruction.ofWord c.word = .call c.target := by
  have htarget := c.target.isLt
  have hword : c.word.toNat = 0x2000 + c.target := by
    rw [word, UInt16.toNat_add, UInt16.toNat_ofNat']
    simp
    omega
  have hopcode : (Instruction.Fields.ofInt c.word.toNat).opcode.val = 2 := by
    rw [Instruction.opcode_ofInt, hword]
    omega
  have haddress : (Instruction.Fields.ofInt c.word.toNat).nnn = c.target := by
    apply Fin.ext
    simp only [Instruction.Fields.ofInt, hword]
    omega
  simp only [Instruction.ofWord, Instruction.ofInt, Instruction.ofFields, hopcode, haddress]

theorem stack_nest (m : Machine) (calls : List CallSite) :
    (m.nest calls).stack = m.stack.pushAll (calls.map CallSite.pc) := by
  induction calls generalizing m with
  | nil => rfl
  | cons c rest ih =>
    have hcall : ({ m with pc := c.pc }.execute (.ofWord c.word)).machine.stack =
        m.stack.push c.pc := by
      rw [c.ofWord_word]
      rfl
    rw [nest, List.foldl_cons, ← nest, ih, hcall]
    rfl

theorem popped_nest (m : Machine) (calls : List CallSite) {count : Nat}
    (hcount : count ≤ min calls.length 16) :
    (m.nest calls).stack.popped count = (calls.map CallSite.pc).reverse.take count := by
  rw [stack_nest]
  exact Stack.popped_pushAll _ _ (by omega) (by simp; omega)

theorem pointer_nest {m : Machine} (hempty : m.stack.pointer = 0) (calls : List CallSite) :
    (m.nest calls).stack.pointer.val = calls.length % 16 := by
  rw [stack_nest, Stack.pointer_pushAll, hempty, List.length_map]
  simp

/-- As many returns come back as the pointer says. Every later one stays where it is. -/
theorem returns_eq (m : Machine) (places : List UInt16) :
    m.returns places =
      (m.stack.popped m.stack.pointer).take places.length ++ places.drop m.stack.pointer := by
  have hleave : Instruction.ofWord 0x00EE = .leave := by decide
  induction places generalizing m with
  | nil => simp [returns]
  | cons pc rest ih =>
    simp only [returns, hleave, execute, perform]
    rw [ih]
    by_cases hempty : m.stack.pointer = 0
    · simp [leave_eq, hempty, Stack.popped]
    · obtain ⟨count, hcount⟩ : ∃ count, m.stack.pointer.val = count + 1 :=
        ⟨m.stack.pointer.val - 1, by omega⟩
      have hpopped : m.stack.pop.1.pointer.val = count := by
        simp only [Stack.pop]
        omega
      simp [leave_eq, hempty, hpopped, hcount, Stack.popped]

/-- The addresses of the last sixteen calls are all in the ring. Returns give them back, the last
one first, but from sixteen calls on they stop where the pointer comes to its start. -/
theorem returns_nest (m : Machine) (hempty : m.stack.pointer = 0) (calls : List CallSite) :
    let last := (calls.map CallSite.pc).reverse.take (min calls.length 16)
    (m.nest calls).stack.popped (min calls.length 16) = last ∧
      (∀ places, (m.nest calls).returns places =
        (last.take (calls.length % 16)).take places.length ++ places.drop (calls.length % 16)) ∧
      ((∀ places, places.length = min calls.length 16 → (m.nest calls).returns places = last) ↔
        calls.length < 16) := by
  intro last
  have hlength : last.length = min calls.length 16 := by simp [last]
  have hreturns (places : List UInt16) : (m.nest calls).returns places =
      (last.take (calls.length % 16)).take places.length ++ places.drop (calls.length % 16) := by
    have hback : last.take (calls.length % 16) =
        (calls.map CallSite.pc).reverse.take (calls.length % 16) := by
      rw [List.take_take, Nat.min_eq_left (by omega)]
    rw [returns_eq, pointer_nest hempty, m.popped_nest calls (by omega), hback]
  refine ⟨m.popped_nest calls (Nat.le_refl _), hreturns, ?_, ?_⟩
  · intro hall
    by_contra hdeep
    have hroom : calls.length % 16 < 16 := Nat.mod_lt _ (by decide)
    -- Two ways to place the returns give the same answers, though the last one stays in its place.
    have hsame : (m.nest calls).returns (List.replicate 16 0) =
        (m.nest calls).returns (List.replicate 16 1) := by
      rw [hall _ (by simp; omega), hall _ (by simp; omega)]
    rw [hreturns, hreturns, List.length_replicate, List.length_replicate] at hsame
    have hdrop := List.append_cancel_left hsame
    rw [List.drop_replicate, List.drop_replicate, List.replicate_inj] at hdrop
    rcases hdrop.2 with hnone | hvalue
    · omega
    · exact absurd hvalue (by decide)
  · intro hshallow places hplaces
    have hall : last.length = calls.length % 16 := by
      rw [hlength]
      omega
    rw [hreturns, List.take_of_length_le (Nat.le_of_eq hall), List.take_of_length_le (by omega),
      List.drop_eq_nil_of_le (by omega), List.append_nil]

/-- Sixteen calls, each from where the one before it has gone. -/
def staircase : List CallSite :=
  (List.range 16).map fun i => ⟨UInt16.ofNat (0x202 + 4 * i), Fin.ofNat 4096 (0x204 + 4 * i)⟩

theorem returns_nest_fifteen :
    (create 0).stack.pointer = 0 ∧
      ((create 0).nest (staircase.take 15)).returns (List.replicate 15 0x300) =
        ((staircase.take 15).map CallSite.pc).reverse ∧
      ((staircase.take 15).map CallSite.pc).reverse.take 2 = [0x23A, 0x236] := by
  have hempty : (create 0).stack.pointer = 0 := rfl
  obtain ⟨-, -, hall⟩ := returns_nest (create 0) hempty (staircase.take 15)
  have hreturns := hall.mpr (by decide) (List.replicate 15 0x300) (by decide)
  exact ⟨hempty, hreturns, by decide⟩

/-- No return comes back from the sixteen calls. -/
theorem staircase_not_left :
    (create 0).stack.pointer = 0 ∧ staircase.length = 16 ∧
      (staircase.map CallSite.pc).reverse.head? = some 0x23E ∧
      ((create 0).nest staircase).returns [0x242] = [0x242] ∧
      ((create 0).nest staircase).returns (List.replicate 16 0x242) ≠
        (staircase.map CallSite.pc).reverse.take (min staircase.length 16) := by
  decide +kernel

end Machine

end Chip8
