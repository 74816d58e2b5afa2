import Chip8.Proofs.SpriteLoop
import Chip8.Proofs.WriteFootprint
import Mathlib.Data.List.Perm.Basic

/-! Drawing as an action on the display. What a draw turns depends on the sprite and its place
alone, so draws undo themselves and can be made in any order. -/

namespace Chip8

namespace Display

theorem toggle_right_comm (d first second : Display) :
    toggle (d.toggle first) second = toggle (d.toggle second) first := by
  ext i hi
  simp only [getElem_toggle]
  exact Bool.xor_right_comm _ _ _

theorem get_ofCells_iff {cells : List Nat} {cell : Fin 2048} :
    (ofCells cells).get cell = true ↔ cell.val ∈ cells := by
  rw [get_ofCells, decide_eq_true_eq]

/-- Drawn a second time, a sprite meets the cells that it found unlit. -/
theorem overlaps_toggle (d mask : Display) :
    overlaps (d.toggle mask) mask = true ↔
      ∃ i : Fin 2048, mask.get i = true ∧ d.get i = false := by
  rw [overlaps_eq_true_iff]
  refine exists_congr fun i => ?_
  have hturned : (d.toggle mask)[i] = (d[i] ^^ mask[i]) := getElem_toggle d mask i i.isLt
  change (d.toggle mask)[i] = true ∧ mask[i] = true ↔ mask[i] = true ∧ d[i] = false
  rw [hturned]
  cases d[i] <;> cases mask[i] <;> simp

end Display

namespace Machine

theorem toUInt8_eq_one_iff {flag : Bool} : flag.toUInt8 = 1 ↔ flag = true := by
  cases flag <;> decide

theorem spriteCells_congr {m k : Machine} (hmemory : k.memory = m.memory)
    (hindex : k.index = m.index) {x y : Register} (hx : k.registers.get x = m.registers.get x)
    (hy : k.registers.get y = m.registers.get y) (n : Fin 16) :
    k.spriteCells x y n = m.spriteCells x y n := by
  simp only [spriteCells, spriteBit, hmemory, hindex, hx, hy]

theorem spriteCells_draw (m : Machine) {x y : Register} (hx : x ≠ 0xF) (hy : y ≠ 0xF)
    (n : Fin 16) : (m.draw x y n).spriteCells x y n = m.spriteCells x y n := by
  have hkept {r : Register} (hr : r ≠ 0xF) : (Part.register r).Kept m (m.draw x y n) :=
    kept_draw (by simpa [Instruction.writes] using hr)
  apply spriteCells_congr
  · rfl
  · rfl
  · exact hkept hx
  · exact hkept hy

theorem display_draw (m : Machine) (x y n : Fin 16) :
    (m.draw x y n).display = m.display.toggle (Display.ofCells (m.spriteCells x y n)) := by
  rw [draw_eq]

theorem flag_draw (m : Machine) (x y n : Fin 16) :
    (m.draw x y n).registers.get 0xF =
      (m.display.overlaps (Display.ofCells (m.spriteCells x y n))).toUInt8 := by
  rw [draw_eq]
  exact Vector.getElem_set_self _

/-- A draw with all that it finds in the registers. -/
structure Drawing where
  index : UInt16
  registers : Registers
  x : Register
  y : Register
  rows : Fin 16

def Drawing.mask (d : Drawing) (memory : Memory) : Display :=
  Display.mask (memory.readBlock d.index d.rows) (d.registers.get d.x) (d.registers.get d.y)

/-- Makes draws one after the other, each with its own index and registers. -/
def drawAll (m : Machine) (drawings : List Drawing) : Machine :=
  drawings.foldl
    (fun m d =>
      ({ m with index := d.index, registers := d.registers }.execute
        (.ofWord (Instruction.assemble 0xD d.x d.y d.rows))).machine) m

theorem display_drawAll (m : Machine) (drawings : List Drawing) :
    (m.drawAll drawings).display =
      drawings.foldl (fun shown d => Display.toggle shown (d.mask m.memory)) m.display := by
  induction drawings generalizing m with
  | nil => rfl
  | cons d rest ih =>
    rw [drawAll, List.foldl_cons, ← drawAll, ih, execute_draw]
    rfl

theorem display_drawAll_of_perm {m k : Machine} (hmemory : k.memory = m.memory)
    (hdisplay : k.display = m.display) {drawings rearranged : List Drawing}
    (hperm : drawings.Perm rearranged) :
    (k.drawAll rearranged).display = (m.drawAll drawings).display := by
  rw [display_drawAll, display_drawAll, hmemory, hdisplay]
  refine (hperm.foldl_eq' ?_ m.display).symm
  intro first _ second _ shown
  exact Display.toggle_right_comm shown _ _

/-- The same draw made twice leaves the display as it was, unless it takes its place from the flag.
Draws with given places leave the same display in every order. -/
theorem draw_xor :
    (∀ (m : Machine) (x y n : Fin 16), x ≠ 0xF → y ≠ 0xF →
      let word := Instruction.assemble 0xD x y n
      let once := (m.execute (.ofWord word)).machine
      let twice := (once.execute (.ofWord word)).machine
      twice.display = m.display ∧
        (twice.registers.get 0xF = 1 ↔
          ∃ cell : Fin 2048, cell.val ∈ m.spriteCells x y n ∧ m.display.get cell = false)) ∧
    (∀ (m k : Machine) (drawings rearranged : List Drawing), k.memory = m.memory →
      k.display = m.display → drawings.Perm rearranged →
        (k.drawAll rearranged).display = (m.drawAll drawings).display) := by
  refine ⟨fun m x y n hx hy => ?_, fun m k _ _ hmemory hdisplay hperm =>
    display_drawAll_of_perm hmemory hdisplay hperm⟩
  intro word once twice
  have honce : once = m.draw x y n := by
    simp only [once, word, execute_draw]
  have htwice : twice = (m.draw x y n).draw x y n := by
    simp only [twice, honce, word, execute_draw]
  rw [htwice]
  constructor
  · rw [display_draw, spriteCells_draw m hx hy, display_draw, Display.toggle_toggle]
  · rw [flag_draw, spriteCells_draw m hx hy, display_draw, toUInt8_eq_one_iff,
      Display.overlaps_toggle]
    refine exists_congr fun cell => and_congr_left fun _ => ?_
    exact Display.get_ofCells_iff

/-- A glyph half past the last cell, of which one cell is lit. -/
def crossing : Machine :=
  { create 0 with
    registers := #v[0, 60, 30, 0, 0, 0, 0, 0, 0, 0, 0, 0, 0, 0, 0, 0]
    display := Display.ofCells [2047] }

theorem draw_xor_crossing :
    let word := Instruction.assemble 0xD 0x1 0x2 0x5
    let once := (crossing.execute (.ofWord word)).machine
    let twice := (once.execute (.ofWord word)).machine
    let first : Drawing := ⟨0, crossing.registers, 0x1, 0x2, 0x5⟩
    let second : Drawing := ⟨5, crossing.registers, 0x1, 0x1, 0x5⟩
    (0x1 : Fin 16) ≠ 0xF ∧ (0x2 : Fin 16) ≠ 0xF ∧
      crossing.spriteCells 0x1 0x2 0x5 =
        [1980, 1981, 1982, 1983, 2044, 2047, 2108, 2111, 2172, 2175, 2236, 2237, 2238, 2239] ∧
      twice.display = crossing.display ∧ twice.registers.get 0xF = 1 ∧
      [first, second].Perm [second, first] ∧
      (crossing.drawAll [second, first]).display = (crossing.drawAll [first, second]).display := by
  intro word once twice first second
  obtain ⟨htwice, horder⟩ := draw_xor
  have hx : (0x1 : Fin 16) ≠ 0xF := by decide
  have hy : (0x2 : Fin 16) ≠ 0xF := by decide
  have hcells : crossing.spriteCells 0x1 0x2 0x5 =
      [1980, 1981, 1982, 1983, 2044, 2047, 2108, 2111, 2172, 2175, 2236, 2237, 2238, 2239] := by
    decide +kernel
  obtain ⟨hdisplay, hflag⟩ := htwice crossing 0x1 0x2 0x5 hx hy
  have hdrawn : (1980 : Fin 2048).val ∈ crossing.spriteCells 0x1 0x2 0x5 := by
    rw [hcells]
    decide
  have hunlit : crossing.display.get 1980 = false :=
    Bool.eq_false_iff.mpr (mt Display.get_ofCells_iff.mp (by decide))
  have hperm : [first, second].Perm [second, first] := List.Perm.swap second first []
  exact ⟨hx, hy, hcells, hdisplay, hflag.mpr ⟨1980, hdrawn, hunlit⟩, hperm,
    horder crossing crossing [first, second] [second, first] rfl rfl hperm⟩

end Machine

end Chip8
