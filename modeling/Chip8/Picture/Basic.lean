import Chip8.Display
import Chip8.Picture.Color

/-!
Pictures of the display: every cell becomes a square of equally colored pixels.
-/

namespace Chip8

/-- Rows of pixels from the top, each from the left. -/
structure Picture where
  rows : List (List Color)
deriving DecidableEq

namespace Picture

def height (p : Picture) : Nat := p.rows.length

def width (p : Picture) : Nat :=
  match p.rows with
  | [] => 0
  | row :: _ => row.length

/-- The side of a cell's square. A scale below one counts as one. -/
def side (scale : Int) : Nat := (max scale 1).toNat

/-- Repeats every member of a list. -/
def stretch {α : Type} (k : Nat) (l : List α) : List α := l.flatMap (List.replicate k)

def paint (on off : Color) (scale : Int) (d : Display) : Picture where
  rows :=
    stretch (side scale) (d.grid.map fun row =>
      stretch (side scale) (row.map fun lit => if lit then on else off))

def ofDisplay (scheme : Scheme) (scale : Int) (d : Display) : Picture :=
  paint scheme.on scheme.off scale d

theorem length_stretch {α : Type} (k : Nat) (l : List α) : (stretch k l).length = l.length * k := by
  induction l with
  | nil => simp [stretch]
  | cons a l ih =>
    rw [stretch, List.flatMap_cons, List.length_append, List.length_replicate, ← stretch, ih,
      List.length_cons, Nat.succ_mul, Nat.add_comm]

theorem stretch_replicate {α : Type} (k n : Nat) (a : α) :
    stretch k (List.replicate n a) = List.replicate (n * k) a := by
  rw [stretch, List.flatMap_replicate, List.flatten_replicate_replicate]

/-- Stretching by `k` puts the member at `i / k` on place `i`. -/
theorem getElem?_stretch {α : Type} (k : Nat) (l : List α) (i : Nat) (h : 0 < k) :
    (stretch k l)[i]? = l[i / k]? := by
  induction l generalizing i with
  | nil => rfl
  | cons a l ih =>
    rw [stretch, List.flatMap_cons, List.getElem?_append, List.length_replicate, ← stretch]
    split
    · next hi => simp [hi, Nat.div_eq_of_lt hi]
    · next hi => rw [ih, Nat.div_eq_sub_div h (Nat.not_lt.mp hi), List.getElem?_cons_succ]

theorem side_pos (scale : Int) : 0 < side scale := by
  unfold side
  omega

theorem height_paint (on off : Color) (scale : Int) (d : Display) :
    (paint on off scale d).height = 32 * side scale := by
  rw [height, paint, length_stretch, List.length_map, Display.length_grid]

end Picture

end Chip8
