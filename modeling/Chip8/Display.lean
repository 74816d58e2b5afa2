/-!
The display, 64 by 32 cells in row-major order, and the sprites drawn on it. A sprite is at
most fifteen rows of eight cells. It is laid over the flat cells, so what crosses the right edge
goes on at the left one row below, and what passes the last cell is lost.
-/

namespace Chip8

abbrev Display := Vector Bool 2048

namespace Display

abbrev width : Nat := 64

abbrev height : Nat := 32

abbrev size : Nat := width * height

def blank : Display := Vector.replicate 2048 false

/-- Whether a sprite whose upper left corner lies on cell `origin` has a set bit on `cell`. -/
def covers (rows : List UInt8) (origin cell : Nat) : Bool :=
  decide (origin ≤ cell) &&
    let offset := cell - origin
    decide (offset % 64 < 8) &&
      match rows[offset / 64]? with
      | some row => row.toNat.testBit (7 - offset % 64)
      | none => false

/-- The cells of the display that a sprite covers. -/
def mask (rows : List UInt8) (x y : UInt8) : Display :=
  let origin := x.toNat + 64 * y.toNat
  Vector.ofFn fun cell => covers rows origin cell

/-- Toggles the cells of the mask. -/
def toggle (d mask : Display) : Display := d.zipWith xor mask

/-- Whether some cell is lit in both. -/
def overlaps (d mask : Display) : Bool := (d.zipWith and mask).any id

/-- The lit and unlit cells row by row. -/
def grid (d : Display) : List (List Bool) :=
  List.ofFn fun r : Fin 32 => List.ofFn fun c : Fin 64 => d[64 * r.val + c.val]

theorem getElem_toggle (d m : Display) (i : Nat) (h : i < 2048) :
    (d.toggle m)[i] = (d[i] ^^ m[i]) := by
  simp [toggle]

theorem getElem_mask (rows : List UInt8) (x y : UInt8) (i : Nat) (h : i < 2048) :
    (mask rows x y)[i] = covers rows (x.toNat + 64 * y.toNat) i := by
  simp [mask]

theorem length_grid (d : Display) : d.grid.length = 32 := List.length_ofFn

theorem overlaps_eq_true_iff (d m : Display) :
    d.overlaps m = true ↔ ∃ i : Fin 2048, d[i] = true ∧ m[i] = true := by
  simp [overlaps, Vector.any_eq_true, Fin.exists_iff]

theorem toggle_toggle (d m : Display) : (d.toggle m).toggle m = d := by
  ext i h
  simp [getElem_toggle]

end Display

end Chip8
