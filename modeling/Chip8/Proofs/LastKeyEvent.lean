import Chip8.Proofs.KeyExchange

/-! Key events one after another. Each cell of the keypad keeps the last event for its key, and a
key event changes nothing but the keypad. -/

namespace Chip8

namespace KeyEvent

/-- The host key at the key's place of the layout, in either case, or a number that ends in the
key's four bits. -/
def Addresses : KeyEvent → Keypad.Key → Prop
  | named name _, key => (Text.lower name, key) ∈ Keypad.layout
  | numbered number _, key => number % 16 = key.val

instance (e : KeyEvent) (key : Keypad.Key) : Decidable (e.Addresses key) :=
  match e with
  | named name _ => inferInstanceAs (Decidable ((Text.lower name, key) ∈ Keypad.layout))
  | numbered number _ => inferInstanceAs (Decidable (number % 16 = (key.val : Int)))

end KeyEvent

namespace Keypad

theorem lookup_eq_some_iff_mem {l : List (String × Key)} (hl : (l.map Prod.fst).Nodup)
    {name : String} {key : Key} : l.lookup name = some key ↔ (name, key) ∈ l := by
  induction l with
  | nil => simp
  | cons entry rest ih =>
    obtain ⟨first, place⟩ := entry
    obtain ⟨hfirst, hrest⟩ := List.nodup_cons.mp hl
    by_cases h : name = first
    · have hlater : (first, key) ∉ rest := fun hmem =>
        hfirst (List.mem_map.mpr ⟨(first, key), hmem, rfl⟩)
      rw [h, List.lookup_cons_self, List.mem_cons]
      simp [hlater, eq_comm]
    · have hbeq : (name == first) = false := beq_false_of_ne h
      rw [List.lookup_cons, hbeq, List.mem_cons, ← ih hrest]
      simp [h]

theorem layout_names_nodup : (layout.map Prod.fst).Nodup := by decide +kernel

theorem layout_keys_nodup : (layout.map Prod.snd).Nodup := by decide +kernel

theorem exists_mem_layout (key : Key) : ∃ name, (name, key) ∈ layout := by
  have h : ∀ key, key ∈ layout.map Prod.snd := by decide +kernel
  obtain ⟨⟨name, _⟩, hmem, rfl⟩ := List.mem_map.mp (h key)
  exact ⟨name, hmem⟩

theorem lower_of_mem_layout {name : String} {key : Key} (h : (name, key) ∈ layout) :
    Text.lower name = name := by
  have hall : ∀ entry ∈ layout, Text.lower entry.1 = entry.1 := by decide +kernel
  exact hall _ h

theorem eq_of_mem_layout {name other : String} {key : Key} (h : (name, key) ∈ layout)
    (hother : (other, key) ∈ layout) : name = other :=
  congrArg Prod.fst (List.inj_on_of_nodup_map layout_keys_nodup h hother rfl)

end Keypad

namespace KeyEvent

theorem key?_eq_some_iff {e : KeyEvent} {key : Keypad.Key} :
    e.key? = some key ↔ e.Addresses key := by
  cases e with
  | named name _ => exact Keypad.lookup_eq_some_iff_mem Keypad.layout_names_nodup
  | numbered number _ =>
    simp only [key?, Addresses, Keypad.keyOfInt, Option.some.injEq, Fin.ext_iff]
    omega

theorem named_addresses_iff {host : String} {key : Keypad.Key} (h : (host, key) ∈ Keypad.layout)
    (name : String) (down : Bool) :
    (named name down).Addresses key ↔ Text.lower name = host := by
  constructor
  · intro hname
    exact Keypad.eq_of_mem_layout hname h
  · rintro rfl
    exact h

theorem existsUnique_addresses (key : Keypad.Key) :
    ∃! lowered, ∀ name down, (named name down).Addresses key ↔ Text.lower name = lowered := by
  obtain ⟨host, hhost⟩ := Keypad.exists_mem_layout key
  refine ⟨host, named_addresses_iff hhost, fun lowered hlowered => ?_⟩
  have hlower : Text.lower host = host := Keypad.lower_of_mem_layout hhost
  have haddresses : (named host true).Addresses key :=
    (named_addresses_iff hhost host true).mpr hlower
  exact ((hlowered host true).mp haddresses).symm.trans hlower

end KeyEvent

namespace Machine

open KeyEvent (Addresses named numbered)

variable (m : Machine)

theorem press_eq (e : KeyEvent) : m.press e = { m with keypad := (m.press e).keypad } := rfl

theorem get_press (e : KeyEvent) (key : Keypad.Key) :
    (m.press e).keypad.get key = if e.Addresses key then e.down else m.keypad.get key := by
  have h := Keypad.getElem_apply m.keypad e key.val key.isLt
  simp only [KeyEvent.key?_eq_some_iff] at h
  exact h

theorem press_eq_self {e : KeyEvent} (h : ∀ key, ¬ e.Addresses key) : m.press e = m := by
  have hkeypad : (m.press e).keypad = m.keypad := by
    apply Vector.ext
    intro i hi
    exact (get_press m e ⟨i, hi⟩).trans (if_neg (h _))
  rw [press_eq, hkeypad]

theorem foldl_press_eq (events : List KeyEvent) :
    events.foldl press m = { m with keypad := (events.foldl press m).keypad } := by
  induction events generalizing m with
  | nil => rfl
  | cons e rest ih => exact ih (m.press e)

theorem get_foldl_press (events : List KeyEvent) (key : Keypad.Key) :
    (events.foldl press m).keypad.get key =
      ((events.filter (·.Addresses key)).getLast?.map (·.down)).getD (m.keypad.get key) := by
  induction events using List.reverseRecOn with
  | nil => rfl
  | append_singleton before e ih =>
    rw [List.foldl_append, List.foldl_cons, List.foldl_nil, get_press, List.filter_append]
    by_cases h : e.Addresses key
    · simp [h]
    · simp [h, ih]

/-- Each cell of the keypad holds the last event that addresses it, whatever the events before and
between. Nothing else changes, a name outside the layout changes nothing at all, and each cell has
one lower-case name. -/
theorem last_key_event (m : Machine) (events : List KeyEvent) :
    let final := events.foldl press m
    (∀ key, final.keypad.get key =
      ((events.filter (·.Addresses key)).getLast?.map (·.down)).getD (m.keypad.get key)) ∧
    final = { m with keypad := final.keypad } ∧
    (∀ name down, (∀ key, (Text.lower name, key) ∉ Keypad.layout) →
      m.press (named name down) = m) ∧
    (∀ key, ∃! lowered, ∀ name down,
      (named name down).Addresses key ↔ Text.lower name = lowered) := by
  refine ⟨get_foldl_press m events, foldl_press_eq m events, ?_, KeyEvent.existsUnique_addresses⟩
  intro name down h
  exact press_eq_self m h

/-- Two keys told by their host keys and by numbers in turn, and a host key that stands for none. -/
def mixedEvents : List KeyEvent :=
  [named "Q" true, numbered (-12) false, named "space" true, numbered 0x14 true, named "w" true,
    numbered (-1) true, named "v" false]

theorem last_key_event_mixed :
    let m := create 0
    let final := mixedEvents.foldl press m
    (∀ key, (Text.lower "space", key) ∉ Keypad.layout) ∧ m.press (named "space" true) = m ∧
      mixedEvents.filter (·.Addresses 4) =
        [named "Q" true, numbered (-12) false, numbered 0x14 true] ∧
      final.keypad.get 4 = true ∧ final.keypad.get 0xF = false ∧
      final = { m with keypad := final.keypad } ∧ final.keypad.pressed = [4, 5] := by
  intro m final
  obtain ⟨hlast, hkeypad, hother, -⟩ := last_key_event m mixedEvents
  have hspace : ∀ key, (Text.lower "space", key) ∉ Keypad.layout := by decide +kernel
  refine ⟨hspace, hother "space" true hspace, by decide +kernel, (hlast 4).trans ?_,
    (hlast 0xF).trans ?_, hkeypad, ?_⟩
  · decide +kernel
  · decide +kernel
  · decide +kernel

end Machine

end Chip8
