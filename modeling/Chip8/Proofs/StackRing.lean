import Chip8.Proofs.NestedCalls
import Mathlib.Data.List.Infix

/-! Words of pushes and pops. While they nest no deeper than the ring has slots, it is as good as a
stack without end: every pop takes back what its own push has put there. Pushes beyond that lose
the oldest addresses, and pops beyond that find cleared slots. -/

namespace Chip8.Stack

inductive Move
  | push (address : UInt16)
  | pop
deriving DecidableEq

/-- How many more pushes than pops there are. -/
def height : List Move → Int
  | [] => 0
  | .push _ :: rest => height rest + 1
  | .pop :: rest => height rest - 1

/-- As many pops as pushes, and at no time more of them. -/
structure Balanced (moves : List Move) : Prop where
  level : height moves = 0
  above : ∀ past, past <+: moves → 0 ≤ height past

/-- At no time more pops than pushes, nor more than `depth` pushes that wait for their pops. -/
def Within (depth : Nat) (moves : List Move) : Prop :=
  ∀ past, past <+: moves → 0 ≤ height past ∧ height past ≤ depth

/-- The address that the next pop is to take back: what came after its push is closed in itself. -/
def Pending (moves : List Move) (address : UInt16) : Prop :=
  ∃ outer inner, moves = outer ++ .push address :: inner ∧ Balanced inner

def act (s : Stack) : Move → Stack
  | .push address => s.push address
  | .pop => s.pop.1

def after (s : Stack) (moves : List Move) : Stack := moves.foldl act s

/-- The slots that are pushed to. -/
def pushed (s : Stack) : List Move → List (Fin 16)
  | [] => []
  | .push address :: rest => s.pointer :: (s.push address).pushed rest
  | .pop :: rest => s.pop.1.pushed rest

theorem height_append (moves rest : List Move) :
    height (moves ++ rest) = height moves + height rest := by
  induction moves with
  | nil => simp [height]
  | cons move moves ih => cases move <;> simp only [List.cons_append, height, ih] <;> omega

theorem height_concat_push (moves : List Move) (address : UInt16) :
    height (moves ++ [.push address]) = height moves + 1 := by
  simp [height_append, height]

theorem height_concat_pop (moves : List Move) :
    height (moves ++ [.pop]) = height moves - 1 := by
  simp [height_append, height, Int.sub_eq_add_neg]

theorem after_append (s : Stack) (moves rest : List Move) :
    s.after (moves ++ rest) = (s.after moves).after rest :=
  List.foldl_append

theorem pushed_append (s : Stack) (moves rest : List Move) :
    s.pushed (moves ++ rest) = s.pushed moves ++ (s.after moves).pushed rest := by
  induction moves generalizing s with
  | nil => rfl
  | cons move moves ih => cases move <;> simp only [List.cons_append, pushed, ih] <;> rfl

instance (moves : List Move) : Decidable (Balanced moves) :=
  decidable_of_iff (height moves = 0 ∧ ∀ past ∈ moves.inits, 0 ≤ height past)
    ⟨fun h => ⟨h.1, fun past hpast => h.2 past ((List.mem_inits past moves).mpr hpast)⟩,
      fun h => ⟨h.level, fun past hpast => h.above past ((List.mem_inits past moves).mp hpast)⟩⟩

instance (depth : Nat) (moves : List Move) : Decidable (Within depth moves) :=
  decidable_of_iff (∀ past ∈ moves.inits, 0 ≤ height past ∧ height past ≤ depth)
    (forall_congr' fun past => imp_congr_left (List.mem_inits past moves))

theorem Within.mono {depth deeper : Nat} {moves : List Move} (h : Within depth moves)
    (hdeeper : depth ≤ deeper) : Within deeper moves := by
  intro past hpast
  have hnear := h past hpast
  omega

theorem Within.past {depth : Nat} {moves rest : List Move} (h : Within depth (moves ++ rest)) :
    Within depth moves :=
  fun past hpast => h past (hpast.trans (List.prefix_append _ _))

theorem Within.room {depth : Nat} {moves : List Move} {address : UInt16}
    (h : Within depth (moves ++ [.push address])) : 0 ≤ height moves ∧ height moves < depth := by
  have hpast := h.past moves List.prefix_rfl
  have hnext := h _ List.prefix_rfl
  rw [height_concat_push] at hnext
  omega

theorem Within.filled {depth : Nat} {moves : List Move} (h : Within depth (moves ++ [.pop])) :
    0 < height moves ∧ height moves ≤ depth := by
  have hpast := h.past moves List.prefix_rfl
  have hnext := h _ List.prefix_rfl
  rw [height_concat_pop] at hnext
  omega

theorem pointer_after (s : Stack) (moves : List Move) :
    ((s.after moves).pointer.val : Int) = (s.pointer.val + height moves) % 16 := by
  induction moves generalizing s with
  | nil =>
    simp only [after, List.foldl_nil, height]
    omega
  | cons move moves ih =>
    have hrest := ih (s.act move)
    cases move with
    | push address =>
      simp only [after, List.foldl_cons, height, act, push] at hrest ⊢
      omega
    | pop =>
      simp only [after, List.foldl_cons, height, act, pop] at hrest ⊢
      omega

section Ring

variable {s : Stack} {moves : List Move} {slot : Fin 16}

/-- The slot that the next push fills, told by its distance from the first one. -/
theorem eq_pointer_after_iff (hroom : 0 ≤ height moves ∧ height moves < 16) :
    slot = (s.after moves).pointer ↔ ((slot - s.pointer).val : Int) = height moves := by
  have hpointer := s.pointer_after moves
  omega

/-- The slot that the next pop clears. -/
theorem eq_top_after_iff (hfilled : 0 < height moves ∧ height moves ≤ 16) :
    slot = (s.after moves).pointer - 1 ↔ ((slot - s.pointer).val : Int) = height moves - 1 := by
  have hpointer := s.pointer_after moves
  omega

theorem mem_pushed_of_lt (h : Within 16 moves)
    (hslot : ((slot - s.pointer).val : Int) < height moves) : slot ∈ s.pushed moves := by
  induction moves using List.reverseRecOn with
  | nil =>
    simp only [height] at hslot
    omega
  | append_singleton moves move ih =>
    rw [pushed_append, List.mem_append]
    cases move with
    | push address =>
      rw [height_concat_push] at hslot
      by_cases htop : slot = (s.after moves).pointer
      · exact .inr (htop ▸ List.mem_singleton_self _)
      · rw [eq_pointer_after_iff h.room] at htop
        exact .inl (ih h.past (by omega))
    | pop =>
      rw [height_concat_pop] at hslot
      exact .inl (ih h.past (by omega))

theorem lt_of_mem_pushed {depth : Nat} (h : Within depth moves) (hring : depth ≤ 16)
    (hslot : slot ∈ s.pushed moves) : (slot - s.pointer).val < depth := by
  induction moves using List.reverseRecOn with
  | nil => cases hslot
  | append_singleton moves move ih =>
    rw [pushed_append, List.mem_append] at hslot
    rcases hslot with hpast | hlast
    · exact ih h.past hpast
    · cases move with
      | push address =>
        have hroom := h.room
        have htop := (eq_pointer_after_iff (by omega)).mp (List.mem_singleton.mp hlast)
        omega
      | pop => cases hlast

theorem top_after_mem_pushed (h : Within 16 (moves ++ [.pop])) :
    (s.after moves).pointer - 1 ∈ s.pushed moves := by
  have htop : (((s.after moves).pointer - 1 - s.pointer).val : Int) = height moves - 1 :=
    (eq_top_after_iff h.filled).mp rfl
  exact mem_pushed_of_lt h.past (by omega)

theorem get_after_of_not_mem (h : Within 16 moves) (hslot : slot ∉ s.pushed moves) :
    (s.after moves).slots.get slot = s.slots.get slot := by
  induction moves using List.reverseRecOn with
  | nil => rfl
  | append_singleton moves move ih =>
    rw [pushed_append, List.mem_append, not_or] at hslot
    rw [after_append, ← ih h.past hslot.1]
    cases move with
    | push address =>
      have hother : slot ≠ (s.after moves).pointer :=
        fun heq => hslot.2 (heq ▸ List.mem_singleton_self _)
      exact (get_push _ _ _).trans (if_neg hother)
    | pop =>
      have hother : slot ≠ (s.after moves).pointer - 1 :=
        fun heq => hslot.1 (heq ▸ top_after_mem_pushed h)
      exact (get_pop _ _).trans (if_neg hother)

/-- A slot that was pushed to, and whose address no longer waits for its pop. -/
theorem get_after_of_mem (h : Within 16 moves) (hslot : slot ∈ s.pushed moves)
    (hfree : height moves ≤ (slot - s.pointer).val) : (s.after moves).slots.get slot = 0 := by
  induction moves using List.reverseRecOn with
  | nil => cases hslot
  | append_singleton moves move ih =>
    rw [pushed_append, List.mem_append] at hslot
    rw [after_append]
    cases move with
    | push address =>
      rw [height_concat_push] at hfree
      have hother : slot ≠ (s.after moves).pointer := by
        rw [Ne, eq_pointer_after_iff h.room]
        omega
      have hmem := hslot.resolve_right fun hlast => hother (List.mem_singleton.mp hlast)
      have hkept := ih h.past hmem (by omega)
      rw [← hkept]
      exact (get_push _ _ _).trans (if_neg hother)
    | pop =>
      rw [height_concat_pop] at hfree
      have hmem := hslot.resolve_right List.not_mem_nil
      have hpop := get_pop (s.after moves) slot
      by_cases htop : slot = (s.after moves).pointer - 1
      · exact hpop.trans (if_pos htop)
      · rw [if_neg htop] at hpop
        rw [eq_top_after_iff h.filled] at htop
        exact hpop.trans (ih h.past hmem (by omega))

end Ring

/-- The last push from some height upwards. -/
theorem exists_last_push {moves : List Move} {level : Int} (hlow : 0 ≤ level)
    (hhigh : level < height moves) :
    ∃ outer address inner, moves = outer ++ .push address :: inner ∧ height outer = level ∧
      ∀ past, past <+: inner → 0 ≤ height past := by
  induction moves using List.reverseRecOn with
  | nil =>
    simp only [height] at hhigh
    omega
  | append_singleton moves move ih =>
    by_cases hpast : level < height moves
    · obtain ⟨outer, address, inner, rfl, houter, habove⟩ := ih hpast
      refine ⟨outer, address, inner ++ [move], by simp, houter, fun past hprefix => ?_⟩
      rcases List.prefix_concat_iff.mp hprefix with rfl | hinner
      · simp only [height_append, height] at hhigh ⊢
        omega
      · exact habove past hinner
    · cases move with
      | push address =>
        rw [height_concat_push] at hhigh
        refine ⟨moves, address, [], rfl, by omega, fun past hprefix => ?_⟩
        rw [List.prefix_nil.mp hprefix]
        exact Int.le_refl 0
      | pop =>
        rw [height_concat_pop] at hhigh
        omega

theorem exists_pending {moves : List Move} (h : 0 < height moves) :
    ∃ address, Pending moves address := by
  have hlow : 0 ≤ height moves - 1 := by omega
  have hhigh : height moves - 1 < height moves := by omega
  obtain ⟨outer, address, inner, rfl, houter, habove⟩ := exists_last_push hlow hhigh
  refine ⟨address, outer, inner, rfl, ?_, habove⟩
  rw [height_append] at houter
  simp only [height] at houter
  omega

/-- The moves since its push had no room to come round to the slot that the pop takes. -/
theorem pop_after {s : Stack} {moves : List Move} {address : UInt16} (h : Within 16 moves)
    (hpending : Pending moves address) : (s.after moves).pop.2 = address := by
  obtain ⟨outer, inner, rfl, hinner⟩ := hpending
  have houter := h.past outer List.prefix_rfl
  have hshallow : Within 15 inner := by
    intro past hpast
    have hall := h (outer ++ .push address :: past)
      ((List.prefix_append_right_inj outer).mpr ((List.prefix_cons_inj _).mpr hpast))
    rw [height_append] at hall
    simp only [height] at hall
    exact ⟨hinner.above past hpast, by omega⟩
  let called := (s.after outer).push address
  have hcalled : called.pointer = (s.after outer).pointer + 1 := rfl
  have huntouched : (s.after outer).pointer ∉ called.pushed inner := by
    intro hmem
    have hnear := lt_of_mem_pushed hshallow (by decide) hmem
    omega
  have hkept : (called.after inner).slots.get (s.after outer).pointer = address := by
    rw [get_after_of_not_mem (hshallow.mono (by decide)) huntouched]
    exact (get_push _ _ _).trans (if_pos rfl)
  have htop : (called.after inner).pointer - 1 = (s.after outer).pointer := by
    have hpointer := called.pointer_after inner
    rw [hinner.level] at hpointer
    omega
  have hafter : s.after (outer ++ .push address :: inner) = called.after inner :=
    s.after_append outer _
  have hpopped : (called.after inner).pop.2 =
      (called.after inner).slots.get ((called.after inner).pointer - 1) := rfl
  rw [hafter, hpopped, htop, hkept]

theorem popped_of_clear {s : Stack} (h : ∀ slot, s.slots.get slot = 0) (count : Nat) :
    s.popped count = List.replicate count 0 := by
  induction count generalizing s with
  | zero => rfl
  | succ count ih =>
    have hrest : ∀ slot, s.pop.1.slots.get slot = 0 := by
      intro slot
      rw [get_pop, h slot]
      exact ite_self 0
    have htop : s.pop.2 = 0 := h _
    rw [popped, htop, ih hrest, List.replicate_succ]

theorem popped_add (s : Stack) (count more : Nat) :
    s.popped (count + more) =
      s.popped count ++ (s.after (List.replicate count .pop)).popped more := by
  induction count generalizing s with
  | zero => simp [popped, after]
  | succ count ih =>
    rw [Nat.succ_add, popped, ih, popped, List.replicate_succ]
    rfl

theorem height_replicate_pop (count : Nat) : height (List.replicate count .pop) = -count := by
  induction count with
  | zero => rfl
  | succ count ih =>
    rw [List.replicate_succ, height, ih]
    omega

/-- A round of pops leaves nothing in the ring. -/
theorem get_after_pops (s : Stack) {count : Nat} (hcount : count ≤ 16) {slot : Fin 16}
    (hslot : (s.pointer - 1 - slot).val < count) :
    (s.after (List.replicate count .pop)).slots.get slot = 0 := by
  induction count with
  | zero => omega
  | succ count ih =>
    have hpointer := s.pointer_after (List.replicate count .pop)
    rw [height_replicate_pop] at hpointer
    have hpop := get_pop (s.after (List.replicate count .pop)) slot
    rw [List.replicate_succ', after_append]
    by_cases htop : slot = (s.after (List.replicate count .pop)).pointer - 1
    · exact hpop.trans (if_pos htop)
    · rw [if_neg htop] at hpop
      exact hpop.trans (ih (by omega) (by omega))

theorem popped_pushAll_of_le (s : Stack) {addresses : List UInt16} (hround : 16 ≤ addresses.length)
    (count : Nat) :
    (s.pushAll addresses).popped count =
      addresses.reverse.take (min count 16) ++ List.replicate (count - 16) 0 := by
  by_cases hcount : count ≤ 16
  · rw [popped_pushAll _ _ hcount (by omega), Nat.min_eq_left hcount, Nat.sub_eq_zero_of_le hcount]
    simp
  · obtain ⟨more, rfl⟩ : ∃ more, count = 16 + more := ⟨count - 16, by omega⟩
    have hclear : ∀ slot : Fin 16,
        ((s.pushAll addresses).after (List.replicate 16 .pop)).slots.get slot = 0 :=
      fun slot => get_after_pops _ (Nat.le_refl 16) (Fin.isLt _)
    rw [popped_add, popped_pushAll _ _ (Nat.le_refl 16) hround, popped_of_clear hclear,
      Nat.min_eq_right (by omega), Nat.add_sub_cancel_left]

/-- Balanced moves that nest no deeper than the ring: each pop gives back the address of its own
push, and in the end the pointer is where it was and the slots that were used are cleared. After
more pushes than there are slots, the pops give back the last ones and then nothing but zeros. -/
theorem pops_take_back (s : Stack) :
    (∀ moves, Balanced moves → Within 16 moves →
      (∀ before rest, moves = before ++ .pop :: rest →
        (∃ address, Pending before address) ∧
          ∀ address, Pending before address → (s.after before).pop.2 = address) ∧
      (s.after moves).pointer = s.pointer ∧
      (∀ slot ∈ s.pushed moves, (s.after moves).slots.get slot = 0) ∧
      ∀ slot, slot ∉ s.pushed moves → (s.after moves).slots.get slot = s.slots.get slot) ∧
    ∀ addresses : List UInt16, 16 ≤ addresses.length → ∀ count,
      (s.pushAll addresses).popped count =
        addresses.reverse.take (min count 16) ++ List.replicate (count - 16) 0 := by
  refine ⟨fun moves hbalanced hdepth => ⟨?_, ?_, ?_, ?_⟩, fun _ => s.popped_pushAll_of_le⟩
  · rintro before rest rfl
    have hpop : Within 16 (before ++ [.pop]) := by
      rw [List.append_cons] at hdepth
      exact hdepth.past
    exact ⟨exists_pending hpop.filled.1, fun _ => pop_after hpop.past⟩
  · have hpointer := s.pointer_after moves
    rw [hbalanced.level] at hpointer
    omega
  · intro slot hslot
    refine get_after_of_mem hdepth hslot ?_
    rw [hbalanced.level]
    omega
  · exact fun slot => get_after_of_not_mem hdepth

/-- A ring with old addresses in it, the pointer near its end. -/
def used : Stack := ⟨Vector.replicate 16 9, 14⟩

/-- Sixteen pushes deep, with a turn on the way that is closed in itself. -/
def winding : List Move :=
  (List.range 15).map (fun i => .push (UInt16.ofNat (0x200 + 2 * i))) ++
    [.push 0x300, .pop, .push 0x302] ++ List.replicate 16 .pop

theorem pops_take_back_winding :
    let turn : List Move := [.push 0x300, .pop]
    let addresses := (List.range 18).map UInt16.ofNat
    Balanced winding ∧ Within 16 winding ∧ winding = winding.take 33 ++ .pop :: [] ∧
      Pending (winding.take 33) 0x200 ∧ (used.after (winding.take 33)).pop.2 = 0x200 ∧
      (used.after winding).pointer = 14 ∧
      13 ∈ used.pushed winding ∧ (used.after winding).slots.get 13 = 0 ∧
      Balanced turn ∧ Within 16 turn ∧
      13 ∉ used.pushed turn ∧ (used.after turn).slots.get 13 = 9 ∧
      16 ≤ addresses.length ∧
      (used.pushAll addresses).popped 18 =
        [17, 16, 15, 14, 13, 12, 11, 10, 9, 8, 7, 6, 5, 4, 3, 2, 0, 0] := by
  intro turn addresses
  obtain ⟨hmoves, hround⟩ := pops_take_back used
  have hbalanced : Balanced winding := by decide
  have hdepth : Within 16 winding := by decide
  have hlast : winding = winding.take 33 ++ .pop :: [] := by decide
  have hpending : Pending (winding.take 33) 0x200 :=
    ⟨[], winding.tail.take 32, by decide, by decide⟩
  have hslot : 13 ∈ used.pushed winding := by decide
  obtain ⟨hpops, hpointer, hcleared, -⟩ := hmoves winding hbalanced hdepth
  have hturn : Balanced turn := by decide
  have hshallow : Within 16 turn := by decide
  have hother : 13 ∉ used.pushed turn := by decide
  obtain ⟨-, -, -, hkept⟩ := hmoves turn hturn hshallow
  have hlength : 16 ≤ addresses.length := by decide
  exact ⟨hbalanced, hdepth, hlast, hpending, (hpops _ _ hlast).2 _ hpending, hpointer, hslot,
    hcleared 13 hslot, hturn, hshallow, hother, hkept 13 hother, hlength,
    (hround addresses hlength 18).trans (by decide)⟩

end Chip8.Stack
