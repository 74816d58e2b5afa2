import Chip8.Text.Padded

/-!
Progress reports of counted loops. A bar is opened before the first iteration, advanced every so
many iterations, and closed after the last one together with the iterations left over.
-/

namespace Chip8

/-- Calls `body` for the numbers below `n` in order, or not at all if `n` is negative. -/
def countedLoop {α : Type} (n : Int) (body : Nat → α → α) (start : α) : α :=
  n.toNat.fold (fun i _ carry => body i carry) start

/-- Whether the counter of a loop, 32 bits with sign, can hold a number. -/
def FitsCounter (n : Int) : Prop := -0x80000000 ≤ n ∧ n < 0x80000000

instance (n : Int) : Decidable (FitsCounter n) := inferInstanceAs (Decidable (_ ∧ _))

/-- A number that the counter of a loop is to be compared with and cannot hold. -/
inductive CounterError
  | rate (value : Int)
  | bound (value : Int)
deriving DecidableEq

namespace CounterError

def value : CounterError → Int
  | rate value | bound value => value

/-- What the number is called where it does not fit. -/
def operand : CounterError → String
  | rate _ => "x2"
  | bound _ => "y"

/-- How an operand is refused for its value. -/
def refusal (operand : String) (value : Int) : String :=
  "An overflow was encountered while parsing an argument to a jitted computation, whose " ++
    s!"argument path is {operand}. Got <class 'int'> with value {value}"

def message (e : CounterError) : String := refusal e.operand e.value

end CounterError

namespace Progress

/-- What a bar is told. Its options are passed on as they are. -/
inductive Call (κ : Type)
  | opened (total : Int) (label : String) (options : List (String × κ))
  | updated (steps : Int)
  | closed
deriving DecidableEq

structure Bar (κ : Type) where
  total : Int
  label : String
  options : List (String × κ)
  isOpen : Bool := false
deriving DecidableEq

namespace Bar

variable {κ : Type}

def opened (b : Bar κ) : Bar κ × List (Call κ) :=
  ({ b with isOpen := true }, [.opened b.total b.label b.options])

/-- A bar that is not open ignores steps. -/
def advance (b : Bar κ) (steps : Int) : Bar κ × List (Call κ) :=
  (b, if b.isOpen then [.updated steps] else [])

def close (b : Bar κ) (steps : Int) : Bar κ × List (Call κ) :=
  ({ b with isOpen := false }, if b.isOpen then [.updated steps, .closed] else [])

end Bar

/-- When a loop of `total` iterations reports. -/
structure Plan where
  total : Int
  rate : Int
  /-- The iterations left over after the last regular report. -/
  tail : Int
deriving DecidableEq

/-- The iterations between reports: as asked but within the loop, by default a twentieth of the
loop and at most fifty. Never below one. -/
def effectiveRate (total : Int) : Option Int → Int
  | none => max 1 (min (total / 20) 50)
  | some rate => max 1 (min rate total)

def Plan.ofRate (total : Int) (rate? : Option Int) : Plan :=
  let rate := effectiveRate total rate?
  ⟨total, rate, total - (total - 1) / rate * rate⟩

/-- A plan the counter is fit for. In every iteration it is compared with the rate, with the number
of the last iteration and with the total, in this order. -/
def Plan.check (p : Plan) : Except CounterError Plan :=
  if ¬ FitsCounter p.rate then .error (.rate p.rate)
  else if ¬ FitsCounter (p.total - 1) then .error (.bound (p.total - 1))
  else if ¬ FitsCounter p.total then .error (.bound p.total)
  else .ok p

theorem fitsCounter_effectiveRate (total : Int) (rate? : Option Int) (h : total < 0x80000000) :
    FitsCounter (effectiveRate total rate?) := by
  cases rate? <;> simp only [FitsCounter, effectiveRate] <;> omega

/-- A loop whose total is below the counter's limits on both sides is never refused. -/
theorem Plan.check_ofRate (total : Int) (rate? : Option Int) (hl : -0x80000000 < total)
    (hu : total < 0x80000000) : (ofRate total rate?).check = .ok (ofRate total rate?) := by
  have hr := fitsCounter_effectiveRate total rate? hu
  have ht : FitsCounter total := ⟨by omega, hu⟩
  have hb : FitsCounter (total - 1) := ⟨by omega, by omega⟩
  simp [check, ofRate, hr, ht, hb]

/-- The number of its last iteration is what a loop of too low a total is refused for. -/
theorem Plan.check_ofRate_low (total : Int) (rate? : Option Int) (h : total ≤ -0x80000000) :
    (ofRate total rate?).check = .error (.bound (total - 1)) := by
  have hr := fitsCounter_effectiveRate total rate? (by omega)
  have hb : ¬ FitsCounter (total - 1) := by
    rintro ⟨hlower, -⟩
    omega
  simp [check, ofRate, hr, hb]

/-- Options that a plan decides itself and does not pass on. -/
def reserved : List String := ["total", "mininterval", "maxinterval", "miniters"]

/-- The bar of a loop. Without a label, or with an empty one, it counts cycles. -/
def Bar.ofLoop {κ : Type} (total : Int) (label? : Option String) (options : List (String × κ)) :
    Bar κ where
  total := total
  label :=
    match label? with
    | none | some "" => s!"Running ({Text.thousands total} cycles)"
    | some label => label
  options := options.filter fun option => !reserved.contains option.1

/-- The state of a reported loop: its carry, the bar, and the calls so far. -/
structure Reported (α κ : Type) where
  carry : α
  bar : Bar κ
  calls : Array (Call κ)
deriving DecidableEq

namespace Reported

variable {α κ : Type}

/-- Does something to the bar if the condition holds. -/
def tell (r : Reported α κ) (condition : Bool) (action : Bar κ → Bar κ × List (Call κ)) :
    Reported α κ :=
  if condition then
    let (bar, calls) := action r.bar
    { r with bar, calls := r.calls ++ calls }
  else r

/-- One iteration of the loop's body between its reports. -/
def iterate (plan : Plan) (body : Nat → α → α) (i : Nat) (r : Reported α κ) : Reported α κ :=
  let begun := (r.tell (i == 0) Bar.opened).tell (i % plan.rate == 0 && 0 < i)
    (Bar.advance · plan.rate)
  let done := { begun with carry := body i begun.carry }
  done.tell (i == plan.total - 1) (Bar.close · plan.tail)

theorem carry_tell (r : Reported α κ) (condition : Bool)
    (action : Bar κ → Bar κ × List (Call κ)) : (r.tell condition action).carry = r.carry := by
  cases condition <;> rfl

theorem carry_iterate (plan : Plan) (body : Nat → α → α) (i : Nat) (r : Reported α κ) :
    (r.iterate plan body i).carry = body i r.carry := by
  simp only [iterate, carry_tell]

end Reported

/-- A counted loop that reports to a bar. -/
def reportedLoop {α κ : Type} (plan : Plan) (bar : Bar κ) (body : Nat → α → α) (start : α) :
    Reported α κ :=
  countedLoop plan.total (Reported.iterate plan body) ⟨start, bar, #[]⟩

/-- A loop that is to report to a bar at a rate. It is refused if the counter is not fit for it. -/
def reportedLoop? {α κ : Type} (total : Int) (rate? : Option Int) (label? : Option String)
    (options : List (String × κ)) (body : Nat → α → α) (start : α) :
    Except CounterError (Reported α κ) := do
  let plan ← (Plan.ofRate total rate?).check
  return reportedLoop plan (.ofLoop total label? options) body start

/-- Reporting does not touch the carry. -/
theorem carry_reportedLoop {α κ : Type} (plan : Plan) (bar : Bar κ) (body : Nat → α → α)
    (start : α) : (reportedLoop plan bar body start).carry = countedLoop plan.total body start := by
  unfold reportedLoop countedLoop
  induction plan.total.toNat with
  | zero => rfl
  | succ n ih => rw [Nat.fold_succ, Nat.fold_succ, Reported.carry_iterate, ih]

end Progress

end Chip8
