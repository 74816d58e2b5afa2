/-! Computations that make checks one after another and stop at the first that fails. -/

namespace Chip8

section

variable {ε δ α β : Type} {x : Except ε α}

theorem bind_eq_ok_iff {f : α → Except ε β} {b : β} :
    x >>= f = .ok b ↔ ∃ a, x = .ok a ∧ f a = .ok b := by
  cases x <;> simp [bind, Except.bind]

theorem mapError_eq_ok_iff {f : ε → δ} {a : α} : x.mapError f = .ok a ↔ x = .ok a := by
  cases x with
  | ok v =>
    constructor
    · intro h
      rw [Except.ok.inj h]
    · rintro ⟨⟩
      rfl
  | error e => exact iff_of_false nofun nofun

theorem mapError_eq_error_iff {f : ε → δ} {cause : δ} :
    x.mapError f = .error cause ↔ ∃ e, x = .error e ∧ f e = cause := by
  cases x with
  | ok v => exact iff_of_false nofun nofun
  | error e =>
    constructor
    · intro h
      exact ⟨e, rfl, Except.error.inj h⟩
    · rintro ⟨_, ⟨⟩, rfl⟩
      rfl

end

/-- What a computation that makes checks has for its result, given all the complaints in their
order: the first of them, or a success if there are none. -/
def Checked {ε α : Type} (x : Except ε α) (complaints : List ε) : Prop :=
  match x with
  | .ok _ => complaints = []
  | .error e => complaints.head? = some e

namespace Checked

variable {ε α β : Type} {x : Except ε α} {complaints : List ε}

theorem exists_ok_iff (h : Checked x complaints) : (∃ a, x = .ok a) ↔ complaints = [] := by
  cases x with
  | ok a => exact iff_of_true ⟨a, rfl⟩ h
  | error e =>
    have hfirst : complaints.head? = some e := h
    constructor
    · rintro ⟨a, ha⟩
      cases ha
    · rintro rfl
      cases hfirst

theorem eq_error_iff (h : Checked x complaints) (e : ε) :
    x = .error e ↔ complaints.head? = some e := by
  cases x with
  | ok a =>
    obtain rfl : complaints = [] := h
    simp
  | error first =>
    have hfirst : complaints.head? = some first := h
    simp [hfirst]

/-- Complaints of a second computation come after those of the first. -/
theorem bind {f : α → Except ε β} {later : List ε} (h : Checked x complaints)
    (hlater : ∀ a, x = .ok a → Checked (f a) later) : Checked (x >>= f) (complaints ++ later) := by
  cases x with
  | ok a =>
    obtain rfl : complaints = [] := h
    exact hlater a rfl
  | error e =>
    have hfirst : complaints.head? = some e := h
    change (complaints ++ later).head? = some e
    rw [List.head?_append, hfirst]
    rfl

end Checked

end Chip8
