import Chip8.Proofs.Schedule
import Mathlib.Logic.Relation

/-! Key events and cycles in another order. An instruction that does not look at the keypad does the
same before and after a key event, and events for different keys do not meet. -/

namespace Chip8

namespace KeyEvent

/-- The key that an event is for. A host key outside the layout is for none. -/
def key? : KeyEvent → Option Keypad.Key
  | named name _ => Keypad.key? name
  | numbered key _ => some (Keypad.keyOfInt key)

def down : KeyEvent → Bool
  | named _ down => down
  | numbered _ down => down

/-- No key is the key of both events. -/
def Apart (e f : KeyEvent) : Prop := ∀ key, e.key? = some key → f.key? ≠ some key

instance (e f : KeyEvent) : Decidable (e.Apart f) :=
  inferInstanceAs (Decidable (∀ key, e.key? = some key → f.key? ≠ some key))

end KeyEvent

namespace Keypad

theorem getElem_apply (k : Keypad) (e : KeyEvent) (i : Nat) (hi : i < 16) :
    (k.apply e)[i] = if e.key? = some ⟨i, hi⟩ then e.down else k[i] := by
  cases e with
  | named name down =>
    cases hkey : key? name with
    | none => simp [apply, KeyEvent.key?, hkey]
    | some key =>
      simp [apply, KeyEvent.key?, KeyEvent.down, hkey, Vector.getElem_set, Fin.ext_iff]
  | numbered key down =>
    simp [apply, KeyEvent.key?, KeyEvent.down, Vector.getElem_set, Fin.ext_iff]

theorem apply_comm {e f : KeyEvent} (h : e.Apart f) (k : Keypad) :
    (k.apply e).apply f = (k.apply f).apply e := by
  apply Vector.ext
  intro i hi
  simp only [getElem_apply]
  by_cases he : e.key? = some ⟨i, hi⟩
  · rw [if_neg (h _ he), if_pos he, if_pos he]
  · rw [if_neg he, if_neg he]

end Keypad

namespace Instruction

def readsKeypad : Instruction → Bool
  | skipIfKey _ => true
  | skipUnlessKey _ => true
  | waitForKey _ => true
  | _ => false

theorem readsKeypad_ofWord_iff {w : UInt16} :
    (ofWord w).readsKeypad = true ↔ Fits "EX9E" w ∨ Fits "EXA1" w ∨ Fits "FX0A" w := by
  rw [fits_iff (by decide), fits_iff (by decide), fits_iff (by decide)]
  cases ofWord w with
  | compute operation x y => cases operation <;> simp [row?, readsKeypad]
  | _ => simp [row?, readsKeypad]

theorem holds_of_not_readsKeypad {i : Instruction} (h : i.readsKeypad = false) (k l : Keypad) :
    i.holds k = i.holds l := by
  cases i with
  | waitForKey x => cases h
  | _ => rfl

end Instruction

namespace Machine

open Instruction (Fits)

/-- The next cycle looks at the keypad. -/
def ReadsKeypad (m : Machine) : Prop :=
  Fits "EX9E" m.word ∨ Fits "EXA1" m.word ∨ Fits "FX0A" m.word

instance (m : Machine) : Decidable m.ReadsKeypad :=
  inferInstanceAs (Decidable (Fits "EX9E" m.word ∨ Fits "EXA1" m.word ∨ Fits "FX0A" m.word))

theorem perform_press (m : Machine) (e : KeyEvent) {i : Instruction}
    (h : i.readsKeypad = false) : (m.press e).perform i = (m.perform i).press e := by
  cases i with
  | skipIfKey x => cases h
  | skipUnlessKey x => cases h
  | waitForKey x => cases h
  | compute operation x y => cases operation <;> rfl
  | _ => simp only [perform, press, skipIf_eq, leave_eq] <;> rfl

/-- A key event may as well come after a cycle that does not look at the keypad. -/
theorem cycle_press {m : Machine} (h : ¬ m.ReadsKeypad) (e : KeyEvent) :
    (m.press e).cycle = ⟨m.cycle.machine.press e, m.cycle.warning?⟩ := by
  have hreads : m.instruction.readsKeypad = false := by
    rw [← Bool.not_eq_true]
    exact fun hi => h (Instruction.readsKeypad_ofWord_iff.mp hi)
  have hwarning : (m.press e).cycle.warning? = m.cycle.warning? := by
    rw [warning?_cycle, warning?_cycle]
    rfl
  have hholds : (m.press e).instruction.holds (m.press e).keypad = m.instruction.holds m.keypad :=
    Instruction.holds_of_not_readsKeypad hreads _ _
  have hmachine : (m.press e).cycle.machine = m.cycle.machine.press e := by
    cases hm : m.instruction.holds m.keypad with
    | true =>
      rw [machine_cycle_of_holds hm, machine_cycle_of_holds (hholds.trans hm)]
      rfl
    | false =>
      have hperform : (m.press e).fetched.perform m.instruction =
          (m.fetched.perform m.instruction).press e := perform_press m.fetched e hreads
      rw [machine_cycle_of_not_holds hm, machine_cycle_of_not_holds (hholds.trans hm)]
      exact congrArg tick hperform
  rw [← hmachine, ← hwarning]

theorem press_comm {e f : KeyEvent} (h : e.Apart f) (m : Machine) :
    (m.press e).press f = (m.press f).press e := by
  simp only [press, Keypad.apply_comm h]

/-- Schedules that differ in the order of two neighbours, which are events for different keys, or an
event and a cycle that does not look at the keypad. -/
inductive Exchange (m : Machine) : List Action → List Action → Prop
  | events (before after : List Action) {e f : KeyEvent} (h : e.Apart f) :
    Exchange m (before ++ .key e :: .key f :: after) (before ++ .key f :: .key e :: after)
  | cycle (before after : List Action) (e : KeyEvent) (h : ¬ (m.play before).machine.ReadsKeypad) :
    Exchange m (before ++ .key e :: .cycle :: after) (before ++ .cycle :: .key e :: after)

/-- Schedules that come from each other by any number of exchanges. -/
def Rearranged (m : Machine) : List Action → List Action → Prop := Relation.EqvGen m.Exchange

variable {m : Machine} {s t : List Action}

theorem Exchange.perm (h : m.Exchange s t) : s.Perm t := by
  cases h with
  | events before after _ => exact (List.Perm.swap _ _ after).append_left before
  | cycle before after _ _ => exact (List.Perm.swap _ _ after).append_left before

theorem Exchange.play_eq (h : m.Exchange s t) : m.play s = m.play t := by
  cases h with
  | events before after h =>
    rw [play_append, play_append, play_key, play_key, play_key, play_key, press_comm h]
  | cycle before after e h =>
    rw [play_append, play_append, play_key, play_cycle, play_cycle, play_key, cycle_press h]

theorem Rearranged.perm (h : m.Rearranged s t) : s.Perm t := by
  induction h with
  | rel s t h => exact h.perm
  | refl s => exact .refl s
  | symm s t _ ih => exact ih.symm
  | trans s t u _ _ ihst ihtu => exact ihst.trans ihtu

theorem Rearranged.play_eq (h : m.Rearranged s t) : m.play s = m.play t := by
  induction h with
  | rel s t h => exact h.play_eq
  | refl s => rfl
  | symm s t _ ih => exact ih.symm
  | trans s t u _ _ ihst ihtu => exact ihst.trans ihtu

/-- A key event commutes with every cycle that does not look at the keypad and with every event for
another key. Schedules that differ by such exchanges have the same actions, end in the same machine
and give the same warnings. -/
theorem key_events_commute (m : Machine) :
    (∀ e, ¬ m.ReadsKeypad →
      (m.press e).cycle = ⟨m.cycle.machine.press e, m.cycle.warning?⟩) ∧
    (∀ e f : KeyEvent, e.Apart f → (m.press e).press f = (m.press f).press e) ∧
    (∀ s t, m.Rearranged s t → s.Perm t ∧ m.play s = m.play t) := by
  refine ⟨?_, ?_, ?_⟩
  · intro e h
    exact cycle_press h e
  · intro e f h
    exact press_comm h m
  · intro s t h
    exact ⟨h.perm, h.play_eq⟩

/-- A program that skips if the key `5` is down. -/
def asking : Machine :=
  { create 0 with memory := Memory.blank.writeBlock 0 [0x60, 0x05, 0xE0, 0x9E], pc := 0 }

def keysFirst : List Action :=
  [.key (.named "q" true), .key (.numbered 5 true), .cycle, .cycle]

/-- The keys go down in the other order, and only just before the cycle that asks for one. -/
def keysBetween : List Action :=
  [.cycle, .key (.numbered 5 true), .key (.named "q" true), .cycle]

theorem key_events_commute_asking :
    ¬ asking.ReadsKeypad ∧ KeyEvent.Apart (.named "q" true) (.numbered 5 true) ∧
      asking.Rearranged keysFirst keysBetween ∧
      asking.play keysFirst = asking.play keysBetween ∧
      (asking.press (.named "q" true)).cycle.machine.keypad.pressed = [4] ∧
      (asking.play keysBetween).machine.pc = 6 := by
  have hreads : ¬ asking.ReadsKeypad := by decide +kernel
  have hpressed : ¬ (asking.play [.key (.numbered 5 true)]).machine.ReadsKeypad := by
    decide +kernel
  have hapart : KeyEvent.Apart (.named "q" true) (.numbered 5 true) := by decide +kernel
  have hrearranged : asking.Rearranged keysFirst keysBetween :=
    .trans _ _ _ (.rel _ _ (.events [] [.cycle, .cycle] hapart))
      (.trans _ _ _
        (.rel _ _ (.cycle [.key (.numbered 5 true)] [.cycle] (.named "q" true) hpressed))
        (.rel _ _ (.cycle [] [.key (.named "q" true), .cycle] (.numbered 5 true) hreads)))
  obtain ⟨hcycle, -, hruns⟩ := key_events_commute asking
  refine ⟨hreads, hapart, hrearranged, (hruns _ _ hrearranged).2, ?_, ?_⟩
  · rw [hcycle (.named "q" true) hreads]
    decide +kernel
  · decide +kernel

end Machine

end Chip8
