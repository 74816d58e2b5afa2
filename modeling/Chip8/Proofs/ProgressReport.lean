import Chip8.Machine.Run
import Mathlib.Algebra.BigOperators.Group.List.Basic
import Mathlib.Algebra.Order.Ring.Int

/-! Reports of counted loops are exact. The bar is opened once and closed once, and the updates in
between add up to the iterations of the loop, whose carry they leave alone. -/

namespace Chip8.Progress

def Call.steps? {κ : Type} : Call κ → Option Int
  | updated steps => some steps
  | _ => none

/-- The steps that the calls tell a bar, all together. -/
def steps {κ : Type} (calls : List (Call κ)) : Int := (calls.filterMap Call.steps?).sum

theorem one_le_effectiveRate (n : Int) (rate? : Option Int) : 1 ≤ effectiveRate n rate? := by
  cases rate? <;> simp only [effectiveRate] <;> omega

/-- The iterations left over are as many as make the regular reports complete. -/
theorem tail_ofRate (n : Int) (rate? : Option Int) :
    let plan := Plan.ofRate n rate?
    1 ≤ plan.tail ∧ plan.tail ≤ plan.rate ∧ (n - 1) / plan.rate * plan.rate + plan.tail = n := by
  intro plan
  have hrate : 0 < plan.rate := one_le_effectiveRate n rate?
  have htail : plan.tail = n - (n - 1) / plan.rate * plan.rate := rfl
  have hdivision := Int.emod_add_mul_ediv (n - 1) plan.rate
  have hnonneg := Int.emod_nonneg (n - 1) hrate.ne'
  have hlt := Int.emod_lt_of_pos (n - 1) hrate
  rw [mul_comm] at hdivision
  refine ⟨?_, ?_, ?_⟩ <;> omega

namespace Reported

variable {α κ : Type} {plan : Plan}

/-- The reports of an iteration that come before its body. -/
def announce (plan : Plan) (i : Nat) (r : Reported α κ) : Reported α κ :=
  (r.tell (i == 0) Bar.opened).tell (i % plan.rate == 0 && 0 < i) (Bar.advance · plan.rate)

theorem iterate_eq (body : Nat → α → α) (i : Nat) (r : Reported α κ) :
    r.iterate plan body i =
      { r.announce plan i with carry := body i (r.announce plan i).carry }.tell
        (i == plan.total - 1) (Bar.close · plan.tail) := rfl

theorem announce_zero (r : Reported α κ) :
    r.announce plan 0 =
      { r with
        bar := { r.bar with isOpen := true }
        calls := r.calls.push (.opened r.bar.total r.bar.label r.bar.options) } := by
  simp [announce, tell, Bar.opened]

theorem announce_succ {r : Reported α κ} (hopen : r.bar.isOpen = true) (i : Nat) :
    r.announce plan (i + 1) =
      { r with
        calls :=
          if (i + 1) % plan.rate = 0 then r.calls.push (.updated plan.rate) else r.calls } := by
  by_cases h : (i + 1) % plan.rate = 0 <;> simp [announce, tell, Bar.advance, hopen, h]

end Reported

variable {α κ : Type}

/-- Just before the body of iteration `i` the bar is open and every full rate has been reported. -/
theorem announce_fold {plan : Plan} {rate : Nat} (hrate : plan.rate = rate) (bar : Bar κ)
    (body : Nat → α → α) (start : α) (i : Nat) (hi : i < plan.total) :
    (i.fold (fun j _ r => r.iterate plan body j) ⟨start, bar, #[]⟩ : Reported α κ).announce plan i =
      { carry := i.fold (fun j _ carry => body j carry) start
        bar := { bar with isOpen := true }
        calls := #[.opened bar.total bar.label bar.options] ++
          Array.replicate (i / rate) (.updated plan.rate) } := by
  induction i with
  | zero => simp [Reported.announce_zero]
  | succ i ih =>
    have hbefore : ¬ (i : Int) = plan.total - 1 := by omega
    have hmod : ((i : Int) + 1) % plan.rate = 0 ↔ rate ∣ i + 1 := by
      rw [hrate, Nat.dvd_iff_mod_eq_zero]
      exact_mod_cast Iff.rfl
    rw [Nat.fold_succ, Nat.fold_succ, Reported.iterate_eq, ih (by omega), Reported.tell,
      if_neg (by simpa using hbefore), Reported.announce_succ rfl, Nat.succ_div]
    by_cases h : rate ∣ i + 1
    · simp [hmod, h, Array.replicate_succ, Array.push_append]
    · simp [hmod, h]

theorem calls_reportedLoop {plan : Plan} (hrate : 0 < plan.rate) (htotal : 0 < plan.total)
    (bar : Bar κ) (body : Nat → α → α) (start : α) :
    (reportedLoop plan bar body start).calls.toList =
      .opened bar.total bar.label bar.options ::
        List.replicate ((plan.total - 1) / plan.rate).toNat (.updated plan.rate) ++
          [.updated plan.tail, .closed] := by
  obtain ⟨rate, hr⟩ := Int.eq_ofNat_of_zero_le hrate.le
  obtain ⟨last, hlast⟩ := Int.eq_ofNat_of_zero_le (show 0 ≤ plan.total - 1 by omega)
  have hsucc : plan.total.toNat = last + 1 := by omega
  have hcount : ((plan.total - 1) / plan.rate).toNat = last / rate := by
    rw [hlast, hr]
    exact_mod_cast rfl
  unfold reportedLoop countedLoop
  rw [hsucc, Nat.fold_succ, Reported.iterate_eq, announce_fold hr bar body start last (by omega),
    Reported.tell, if_pos (by simp [hlast]), hcount]
  simp [Bar.close]

/-- The calls on the bar of a loop that reports every `rate` iterations. -/
structure Complete (bar : Bar κ) (rate : Int) (calls : List (Call κ)) : Prop where
  silent : bar.total ≤ 0 → calls = []
  reports : 1 ≤ bar.total → ∃ tail, 1 ≤ tail ∧ tail ≤ rate ∧
    calls = .opened bar.total bar.label bar.options ::
      List.replicate ((bar.total - 1) / rate).toNat (.updated rate) ++ [.updated tail, .closed]
  total : steps calls = max bar.total 0

theorem steps_reports (bar : Bar κ) (count : Nat) (rate tail : Int) :
    steps (.opened bar.total bar.label bar.options ::
      List.replicate count (.updated rate) ++ [.updated tail, .closed] : List (Call κ)) =
        count * rate + tail := by
  simp [steps, List.filterMap_cons, Call.steps?, List.filterMap_replicate]

theorem complete_reportedLoop (n : Int) (rate? : Option Int) (label? : Option String)
    (options : List (String × κ)) (body : Nat → α → α) (start : α) :
    Complete (.ofLoop n label? options) (effectiveRate n rate?)
      (reportedLoop (.ofRate n rate?) (.ofLoop n label? options) body start).calls.toList := by
  by_cases hn : n ≤ 0
  · have hnone :
        (reportedLoop (.ofRate n rate?) (.ofLoop n label? options) body start).calls = #[] := by
      have hzero : (Plan.ofRate n rate?).total.toNat = 0 := Int.toNat_of_nonpos hn
      rw [reportedLoop, countedLoop, hzero]
      rfl
    rw [hnone]
    exact ⟨fun _ => rfl, fun h => absurd hn (Int.not_le.mpr h), (max_eq_right hn).symm⟩
  · have hpos : 0 < (Plan.ofRate n rate?).total := Int.not_le.mp hn
    have hrate : 0 < (Plan.ofRate n rate?).rate := one_le_effectiveRate n rate?
    obtain ⟨hlower, hupper, hsum⟩ := tail_ofRate n rate?
    have hcalls := calls_reportedLoop hrate hpos (.ofLoop n label? options) body start
    have hcount : 0 ≤ ((Plan.ofRate n rate?).total - 1) / (Plan.ofRate n rate?).rate :=
      Int.ediv_nonneg (Int.sub_nonneg_of_le hpos) hrate.le
    have hmax : max (Bar.ofLoop n label? options).total 0 = n := max_eq_left hpos.le
    refine ⟨fun h => absurd h hn, fun _ => ⟨_, hlower, hupper, hcalls⟩, ?_⟩
    rw [hcalls, steps_reports, Int.toNat_of_nonneg hcount, hmax]
    exact hsum

end Chip8.Progress

namespace Chip8.Machine

open Progress

theorem machine_run (m : Machine) (n : Int) :
    (m.run n).machine = (fun s => s.cycle.machine)^[n.toNat] m := by
  unfold run countedLoop
  induction n.toNat with
  | zero => rfl
  | succ k ih =>
    rw [Nat.fold_succ, Function.iterate_succ_apply', ← ih]
    rfl

theorem runReported?_eq {n : Int} (hn : n < 2 ^ 31) (m : Machine) :
    m.runReported? n = .ok (m.runReported n) := by
  unfold runReported?
  by_cases hpos : 0 < n
  · rw [if_pos hpos, Plan.check_ofRate n none (by omega) hn]
    rfl
  · rw [if_neg hpos]
    rfl

end Chip8.Machine

namespace Chip8.Progress

/-- A loop with reports carries what it carries without them, and its updates add up to its
iterations. Only a loop with too low a total is refused, though nothing is left to do in it. Cycles
with a bar are cycles without one, and give the same warnings. -/
theorem reports_exact (n : Int) (rate? : Option Int) (hn : n < 2 ^ 31) :
    1 ≤ effectiveRate n rate? ∧
    (∀ {α κ : Type} (label? : Option String) (options : List (String × κ)) (body : Nat → α → α)
      (start : α), -2 ^ 31 < n →
      ∃ done, reportedLoop? n rate? label? options body start = .ok done ∧
        done.carry = countedLoop n body start ∧
        Complete (.ofLoop n label? options) (effectiveRate n rate?) done.calls.toList) ∧
    (∀ {α κ : Type} (label? : Option String) (options : List (String × κ)) (body : Nat → α → α)
      (start : α), n ≤ -2 ^ 31 →
      reportedLoop? n rate? label? options body start = .error (.bound (n - 1))) ∧
    (∀ m : Machine, ∃ done, m.runReported? n = .ok done ∧ done.carry = m.run n ∧
      Complete (.ofLoop n none []) (effectiveRate n none) done.calls.toList ∧
      (m.run n).machine = (fun s => s.cycle.machine)^[n.toNat] m) := by
  refine ⟨one_le_effectiveRate n rate?, ?_, ?_, ?_⟩
  · intro α κ label? options body start hleast
    refine ⟨reportedLoop (.ofRate n rate?) (.ofLoop n label? options) body start, ?_,
      carry_reportedLoop _ _ _ _, complete_reportedLoop n rate? label? options body start⟩
    rw [reportedLoop?, Plan.check_ofRate n rate? hleast hn]
    rfl
  · intro α κ label? options body start hlow
    rw [reportedLoop?, Plan.check_ofRate_low n rate? hlow]
    rfl
  · intro m
    exact ⟨m.runReported n, Machine.runReported?_eq hn m, carry_reportedLoop _ _ _ _,
      complete_reportedLoop n none none [] _ _, m.machine_run n⟩

theorem reports_exact_seven :
    (7 : Int) < 2 ^ 31 ∧ -2 ^ 31 < (7 : Int) ∧ ∃ done : Reported Nat Empty,
      reportedLoop? 7 (some 3) none [] (fun i carry => carry + i) 0 = .ok done ∧
        done.carry = 21 ∧ steps done.calls.toList = 7 := by
  have hupper : (7 : Int) < 2 ^ 31 := by decide
  have hlower : -2 ^ 31 < (7 : Int) := by decide
  obtain ⟨-, hloop, -⟩ := reports_exact 7 (some 3) hupper
  obtain ⟨done, hdone, hcarry, hcalls⟩ :=
    hloop none ([] : List (String × Empty)) (fun i carry => carry + i) 0 hlower
  exact ⟨hupper, hlower, done, hdone, hcarry, hcalls.total⟩

/-- The least number of the counter is a total for a loop without reports, but not for one with
reports. -/
theorem least_total_refused :
    (-2 ^ 31 : Int) < 2 ^ 31 ∧ ¬ ∃ done : Reported Int Empty,
      reportedLoop? (-2 ^ 31) none none [] (fun i (carry : Int) => carry + i) 0 = .ok done ∧
        done.carry = countedLoop (-2 ^ 31) (fun i (carry : Int) => carry + i) 0 := by
  refine ⟨by decide, ?_⟩
  rintro ⟨done, hdone, -⟩
  have hrefused : reportedLoop? (-2 ^ 31) none none ([] : List (String × Empty))
      (fun i (carry : Int) => carry + i) 0 = .error (.bound (-2 ^ 31 - 1)) := rfl
  rw [hrefused] at hdone
  cases hdone

end Chip8.Progress
