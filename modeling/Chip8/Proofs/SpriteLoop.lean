import Chip8.Proofs.InstructionTable
import Chip8.Machine.Execute
import Mathlib.Data.List.Nodup
import Mathlib.Data.List.Range

/-! Drawing a sprite bit by bit. The bits lie on different cells, so that it makes no difference
whether they are turned one after the other or all at once. -/

namespace Chip8

namespace Display

def ofCells (cells : List Nat) : Display := Vector.ofFn fun cell => decide (cell.val ∈ cells)

def turn (d : Display) (cell : Nat) (h : cell < 2048) : Display := d.set cell (!d[cell])

theorem getElem_ofCells (cells : List Nat) (i : Nat) (hi : i < 2048) :
    (ofCells cells)[i] = decide (i ∈ cells) := by
  simp [ofCells]

theorem get_ofCells (cells : List Nat) (cell : Fin 2048) :
    (ofCells cells).get cell = decide (cell.val ∈ cells) :=
  getElem_ofCells cells cell cell.isLt

theorem getElem_turn (d : Display) {cell : Nat} (h : cell < 2048) (i : Nat) (hi : i < 2048) :
    (d.turn cell h)[i] = if i = cell then !d[cell] else d[i] := by
  by_cases hcell : i = cell
  · simp [turn, hcell]
  · simp [turn, hcell, Vector.getElem_set_ne _ _ (Ne.symm hcell)]

theorem ofCells_cons_of_le {cell : Nat} (h : 2048 ≤ cell) (cells : List Nat) :
    ofCells (cell :: cells) = ofCells cells := by
  ext i hi
  have hne : i ≠ cell := by omega
  simp [getElem_ofCells, hne]

theorem overlaps_ofCells (d : Display) (cells : List Nat) :
    d.overlaps (ofCells cells) = true ↔ ∃ cell ∈ cells, ∃ h : cell < 2048, d[cell] = true := by
  rw [overlaps_eq_true_iff]
  constructor
  · rintro ⟨i, hlit, hi⟩
    have hmem : i.val ∈ cells := by simpa [getElem_ofCells] using hi
    exact ⟨i, hmem, i.isLt, hlit⟩
  · rintro ⟨cell, hmem, h, hlit⟩
    exact ⟨⟨cell, h⟩, hlit, by simpa [getElem_ofCells] using hmem⟩

section Cons

variable (d : Display) {cell : Nat} (h : cell < 2048) {cells : List Nat} (hnew : cell ∉ cells)

include hnew in
theorem toggle_ofCells_cons :
    d.toggle (ofCells (cell :: cells)) = toggle (d.turn cell h) (ofCells cells) := by
  ext i hi
  rw [getElem_toggle, getElem_toggle, getElem_ofCells, getElem_ofCells, getElem_turn]
  by_cases hcell : i = cell
  · subst i
    simp [hnew]
  · simp [hcell]

include hnew in
theorem overlaps_ofCells_cons :
    d.overlaps (ofCells (cell :: cells)) =
      (d[cell] || overlaps (d.turn cell h) (ofCells cells)) := by
  have hrest : overlaps (d.turn cell h) (ofCells cells) = d.overlaps (ofCells cells) := by
    rw [Bool.eq_iff_iff, overlaps_ofCells, overlaps_ofCells]
    refine exists_congr fun other => and_congr_right fun hother => ?_
    have hne : other ≠ cell := fun he => hnew (he ▸ hother)
    simp [getElem_turn, hne]
  rw [hrest, Bool.eq_iff_iff, Bool.or_eq_true, overlaps_ofCells, overlaps_ofCells]
  simp [h]

end Cons

/-- The cells of the display that the first `n` rows of a sprite cover. -/
def maskRows (rows : List UInt8) (x y : UInt8) (n : Nat) : Display :=
  let origin := x.toNat + 64 * y.toNat
  Vector.ofFn fun cell => covers rows origin cell && decide ((cell.val - origin) / 64 < n)

theorem covers_readBlock (m : Memory) (a : UInt16) {n : Nat} (hn : n ≤ 16) (origin cell : Nat) :
    covers (m.readBlock a n) origin cell =
      (covers (m.readBlock a 16) origin cell && decide ((cell - origin) / 64 < n)) := by
  unfold covers
  simp only [Memory.getElem?_readBlock]
  by_cases hrow : (cell - origin) / 64 < n
  · have hwide : (cell - origin) / 64 < 16 := Nat.lt_of_lt_of_le hrow hn
    simp [hrow, hwide]
  · simp [hrow]

theorem maskRows_readBlock (m : Memory) (a : UInt16) {n : Nat} (hn : n ≤ 16) (x y : UInt8) :
    maskRows (m.readBlock a 16) x y n = mask (m.readBlock a n) x y := by
  ext i hi
  rw [getElem_mask, covers_readBlock m a hn]
  exact Vector.getElem_ofFn hi

end Display

namespace Machine

/-- Turns a cell, and sets the flag if the cell was lit. Past the last cell there is nothing. -/
def plot (m : Machine) (cell : Nat) : Machine :=
  if h : cell < 2048 then
    let flagged := if m.display[cell] then m.setRegister 0xF 1 else m
    { flagged with display := m.display.turn cell h }
  else m

/-- A bit of the sprite that the index register points to, counted from the left. The rows go round
the end of memory. -/
def spriteBit (m : Machine) (row col : Nat) : Bool :=
  let place := (m.index.toNat + row) % 4096
  (m.memory.bytes.get ⟨place, Nat.mod_lt _ (by decide)⟩).toNat.testBit (7 - col)

/-- Draws a sprite bit by bit. -/
def drawLoop (m : Machine) (x y n : Fin 16) : Machine := Id.run do
  let vx := (m.registers.get x).toNat
  let vy := (m.registers.get y).toNat
  let mut drawn := m.setRegister 0xF 0
  for row in List.range n do
    for col in List.range 8 do
      if m.spriteBit row col then
        drawn := drawn.plot ((vx + col) + 64 * (vy + row))
  return drawn

/-- Draws sixteen rows at once, of which those from `n` on are masked. -/
def drawMasked (m : Machine) (x y n : Fin 16) : Machine :=
  let mask := Display.maskRows (m.memory.readBlock m.index 16) (m.registers.get x)
    (m.registers.get y) n
  { m.setRegister 0xF (m.display.overlaps mask).toUInt8 with display := m.display.toggle mask }

/-- Where the set bits of a sprite lie, those past the last cell included. -/
def spriteCells (m : Machine) (x y n : Fin 16) : List Nat :=
  (List.range n).flatMap fun row =>
    ((List.range 8).filter fun col => m.spriteBit row col).map fun col =>
      ((m.registers.get x).toNat + col) + 64 * ((m.registers.get y).toNat + row)

theorem drawLoop_eq_foldl (m : Machine) (x y n : Fin 16) :
    m.drawLoop x y n = (m.spriteCells x y n).foldl plot (m.setRegister 0xF 0) := by
  simp only [drawLoop, spriteCells, List.foldl_flatMap, List.foldl_map, List.foldl_filter]
  simp [← apply_ite]

theorem foldl_plot (m : Machine) {cells : List Nat} (hcells : cells.Nodup) :
    cells.foldl plot m =
      { m with
        display := m.display.toggle (Display.ofCells cells)
        registers :=
          if m.display.overlaps (Display.ofCells cells) then (m.setRegister 0xF 1).registers
          else m.registers } := by
  induction cells generalizing m with
  | nil =>
    have hnone : m.display.overlaps (Display.ofCells []) = false := by
      rw [Bool.eq_false_iff, Ne, Display.overlaps_ofCells]
      simp
    have hkept : m.display.toggle (Display.ofCells []) = m.display := by
      ext i hi
      simp [Display.getElem_toggle, Display.getElem_ofCells]
    simp [hnone, hkept]
  | cons cell rest ih =>
    obtain ⟨hnew, hrest⟩ := List.nodup_cons.mp hcells
    rw [List.foldl_cons, ih _ hrest]
    by_cases h : cell < 2048
    · have hplot : m.plot cell =
          { m with
            display := m.display.turn cell h
            registers :=
              if m.display[cell] then (m.setRegister 0xF 1).registers else m.registers } := by
        rw [plot, dif_pos h]
        cases m.display[cell] <;> rfl
      rw [hplot, Display.toggle_ofCells_cons m.display h hnew,
        Display.overlaps_ofCells_cons m.display h hnew]
      cases m.display[cell] <;> simp [setRegister]
    · have hplot : m.plot cell = m := dif_neg h
      rw [hplot, Display.ofCells_cons_of_le (by omega)]

theorem mem_spriteCells {m : Machine} {x y n : Fin 16} {cell : Nat} :
    cell ∈ m.spriteCells x y n ↔ ∃ row < n.val, ∃ col < 8, m.spriteBit row col = true ∧
      cell = ((m.registers.get x).toNat + col) + 64 * ((m.registers.get y).toNat + row) := by
  simp only [spriteCells, List.mem_flatMap, List.mem_map, List.mem_filter, List.mem_range]
  constructor
  · rintro ⟨row, hrow, col, ⟨hcol, hbit⟩, rfl⟩
    exact ⟨row, hrow, col, hcol, hbit, rfl⟩
  · rintro ⟨row, hrow, col, hcol, hbit, rfl⟩
    exact ⟨row, hrow, col, ⟨hcol, hbit⟩, rfl⟩

theorem nodup_spriteCells (m : Machine) (x y n : Fin 16) : (m.spriteCells x y n).Nodup := by
  refine List.nodup_flatMap.mpr ⟨fun row _ => ?_, ?_⟩
  · refine (List.nodup_range.filter _).map_on ?_
    intro col _ other _ he
    omega
  · refine List.nodup_range.pairwise_of_forall_ne ?_
    intro row _ other _ hne
    simp only [Function.onFun, List.disjoint_left, List.mem_map, List.mem_filter, List.mem_range]
    rintro cell ⟨col, ⟨hcol, -⟩, rfl⟩ ⟨col', ⟨hcol', -⟩, he⟩
    omega

theorem covers_readBlock_iff (m : Machine) (n origin cell : Nat) :
    Display.covers (m.memory.readBlock m.index n) origin cell = true ↔
      ∃ row < n, ∃ col < 8, m.spriteBit row col = true ∧ cell = origin + col + 64 * row := by
  simp only [Display.covers, Memory.getElem?_readBlock, Memory.read_add, Bool.and_eq_true,
    decide_eq_true_eq]
  constructor
  · rintro ⟨hle, hcol, hbit⟩
    by_cases hrow : (cell - origin) / 64 < n
    · rw [if_pos hrow] at hbit
      exact ⟨(cell - origin) / 64, hrow, (cell - origin) % 64, hcol, hbit, by omega⟩
    · rw [if_neg hrow] at hbit
      cases hbit
  · rintro ⟨row, hrow, col, hcol, hbit, rfl⟩
    have hoffset : origin + col + 64 * row - origin = 64 * row + col := by omega
    have hdiv : (64 * row + col) / 64 = row := by omega
    have hmod : (64 * row + col) % 64 = col := by omega
    rw [hoffset, hdiv, hmod, if_pos hrow]
    exact ⟨by omega, hcol, hbit⟩

theorem mask_eq_ofCells (m : Machine) (x y n : Fin 16) :
    Display.mask (m.memory.readBlock m.index n) (m.registers.get x) (m.registers.get y) =
      Display.ofCells (m.spriteCells x y n) := by
  ext i hi
  rw [Display.getElem_mask, Display.getElem_ofCells, Bool.eq_iff_iff, covers_readBlock_iff,
    decide_eq_true_eq, mem_spriteCells]
  refine exists_congr fun row => and_congr_right fun _ => exists_congr fun col => ?_
  refine and_congr_right fun _ => and_congr_right fun _ => ?_
  omega

theorem draw_eq (m : Machine) (x y n : Fin 16) :
    m.draw x y n =
      { m.setRegister 0xF (m.display.overlaps (Display.ofCells (m.spriteCells x y n))).toUInt8 with
        display := m.display.toggle (Display.ofCells (m.spriteCells x y n)) } := by
  rw [← mask_eq_ofCells]
  rfl

theorem draw_eq_drawLoop (m : Machine) (x y n : Fin 16) : m.draw x y n = m.drawLoop x y n := by
  have hshown : (m.setRegister 0xF 0).display = m.display := rfl
  have hlast : (m.setRegister 0xF 0).setRegister 0xF 1 = m.setRegister 0xF 1 := by
    simp [setRegister]
  rw [draw_eq, drawLoop_eq_foldl, foldl_plot _ (m.nodup_spriteCells x y n), hshown, hlast]
  cases m.display.overlaps (Display.ofCells (m.spriteCells x y n)) <;> rfl

theorem draw_eq_drawMasked (m : Machine) (x y n : Fin 16) : m.draw x y n = m.drawMasked x y n := by
  rw [drawMasked, Display.maskRows_readBlock _ _ (by omega)]
  rfl

theorem execute_draw (m : Machine) (x y n : Fin 16) :
    m.execute (.ofWord (Instruction.assemble 0xD x y n)) = ⟨m.draw x y n, none⟩ := by
  rw [Instruction.ofWord_assemble_draw]
  rfl

/-- A word `DXYN` draws as the loop over the bits does, and as sixteen rows at once do when those that
are not asked for are masked. The loop turns no cell twice, and only cells where a bit lies, which
are not counted round past the last cell. -/
theorem draw_loop (m : Machine) (x y n : Fin 16) :
    m.execute (.ofWord (Instruction.assemble 0xD x y n)) = ⟨m.drawLoop x y n, none⟩ ∧
      m.drawLoop x y n = (m.spriteCells x y n).foldl plot (m.setRegister 0xF 0) ∧
      (m.spriteCells x y n).Nodup ∧
      (∀ cell : Fin 2048,
        (m.drawLoop x y n).display.get cell ≠ m.display.get cell ↔
          ∃ row < n.val, ∃ col < 8, m.spriteBit row col = true ∧
            cell.val = ((m.registers.get x).toNat + col) + 64 * ((m.registers.get y).toNat + row)) ∧
      (∃ flag, m.drawLoop x y n =
        { m.setRegister 0xF flag with display := (m.drawLoop x y n).display }) ∧
      m.drawLoop x y n = m.drawMasked x y n := by
  have hdisplay : (m.drawLoop x y n).display =
      m.display.toggle (Display.ofCells (m.spriteCells x y n)) := by
    rw [← draw_eq_drawLoop, draw_eq]
  refine ⟨?_, m.drawLoop_eq_foldl x y n, m.nodup_spriteCells x y n, ?_, ?_, ?_⟩
  · rw [execute_draw, draw_eq_drawLoop]
  · intro cell
    have hturned : (m.drawLoop x y n).display.get cell =
        (m.display.get cell ^^ decide (cell.val ∈ m.spriteCells x y n)) := by
      rw [hdisplay, ← Display.get_ofCells]
      exact Display.getElem_toggle _ _ _ cell.isLt
    rw [hturned, ← mem_spriteCells]
    cases m.display.get cell <;> simp
  · rw [← draw_eq_drawLoop]
    exact ⟨_, rfl⟩
  · rw [← draw_eq_drawLoop, draw_eq_drawMasked]

end Machine

end Chip8
