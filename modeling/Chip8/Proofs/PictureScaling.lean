import Chip8.Picture.Checked
import Chip8.Proofs.Checks

/-! Pictures made of plain numbers. Of all that is wrong with the numbers the first is reported, and
where nothing is wrong every cell of the display is a square of pixels in one of the two colors. -/

namespace Chip8

namespace Picture

def IsByte (v : Int) : Prop := 0 ≤ v ∧ v ≤ 255

instance (v : Int) : Decidable (IsByte v) := inferInstanceAs (Decidable (0 ≤ v ∧ v ≤ 255))

def valueComplaints (values : List Int) : List PictureError :=
  (values.filter fun v => ¬ IsByte v).map valueError

def lengthComplaints (values : List Int) : List PictureError :=
  if values.length = 2048 then [] else [.displayLength values.length]

def shapeComplaints (components : List Int) (cells : Nat) : List PictureError :=
  if components.length = 3 ∨ components.length = 1 then []
  else [.colorShape components.length cells]

/-- All that is wrong with a display and two colors, in the order of the checks. -/
def complaints (values on off : List Int) : List PictureError :=
  valueComplaints values ++ lengthComplaints values ++
    (valueComplaints on ++ shapeComplaints on (values.countP (· ≠ 0))) ++
    (valueComplaints off ++ shapeComplaints off (values.countP (· = 0)))

theorem valueComplaints_eq_nil_iff (values : List Int) :
    valueComplaints values = [] ↔ ∀ v ∈ values, IsByte v := by
  simp [valueComplaints]

theorem head?_valueComplaints (values : List Int) :
    (valueComplaints values).head? =
      (values.find? fun v => v < 0 ∨ 255 < v).map valueError := by
  rw [valueComplaints, List.head?_map, List.head?_filter]
  congr 2
  funext v
  refine decide_eq_decide.mpr ?_
  unfold IsByte
  omega

theorem checked_bytes? (values : List Int) : Checked (bytes? values) (valueComplaints values) := by
  have hhead := head?_valueComplaints values
  unfold bytes?
  cases hfind : values.find? fun v => v < 0 ∨ 255 < v with
  | some v =>
    rw [hfind] at hhead
    exact hhead
  | none =>
    rw [hfind] at hhead
    exact List.head?_eq_none_iff.mp hhead

theorem bytes?_eq_ok {values : List Int} {bytes : List UInt8} (h : bytes? values = .ok bytes) :
    (∀ v ∈ values, IsByte v) ∧ bytes = values.map fun v => UInt8.ofNat v.toNat := by
  have hnone : valueComplaints values = [] := (checked_bytes? values).exists_ok_iff.mp ⟨bytes, h⟩
  refine ⟨(valueComplaints_eq_nil_iff values).mp hnone, ?_⟩
  unfold bytes? at h
  split at h
  · cases h
  · exact (Except.ok.inj h).symm

theorem checked_display? (values : List Int) :
    Checked (display? values) (valueComplaints values ++ lengthComplaints values) := by
  refine (checked_bytes? values).bind fun bytes h => ?_
  have hlength : bytes.length = values.length := by
    rw [(bytes?_eq_ok h).2, List.length_map]
  by_cases hsize : values.length = 2048
  · rw [dif_pos (hlength.trans hsize)]
    exact if_pos hsize
  · have hcomplaints : lengthComplaints values = [.displayLength values.length] := if_neg hsize
    rw [dif_neg (hlength ▸ hsize), hcomplaints, hlength]
    rfl

theorem toNat_byte {v : Int} (h : IsByte v) : ((UInt8.ofNat v.toNat).toNat : Int) = v := by
  obtain ⟨hlow, hhigh⟩ := h
  rw [UInt8.toNat_ofNat_of_lt' (by simp [UInt8.size]; omega)]
  exact Int.toNat_of_nonneg hlow

theorem byte_bne_zero {v : Int} (h : IsByte v) : (UInt8.ofNat v.toNat != 0) = decide (v ≠ 0) := by
  have hvalue := toNat_byte h
  rw [Bool.eq_iff_iff, bne_iff_ne, decide_eq_true_iff, Ne, ← UInt8.toNat_inj]
  exact not_congr (by simp only [UInt8.toNat_zero]; omega)

theorem display?_eq_ok {values : List Int} {display : Display}
    (h : display? values = .ok display) :
    values.length = 2048 ∧ display.toList = values.map fun v => decide (v ≠ 0) := by
  obtain ⟨bytes, hbytes, hdisplay⟩ := bind_eq_ok_iff.mp h
  obtain ⟨hvalues, rfl⟩ := bytes?_eq_ok hbytes
  by_cases hlength : (values.map fun v => UInt8.ofNat v.toNat).length = 2048
  · obtain rfl := Except.ok.inj ((dif_pos hlength).symm.trans hdisplay)
    refine ⟨by rwa [List.length_map] at hlength, ?_⟩
    change (values.map fun v => UInt8.ofNat v.toNat).map (· != 0) = _
    rw [List.map_map]
    exact List.map_congr_left fun v hv => byte_bne_zero (hvalues v hv)
  · cases (dif_neg hlength).symm.trans hdisplay

/-- Three components of a color, one alone being used for all three. -/
def broadcast : List Int → List Int
  | [v] => [v, v, v]
  | components => components

theorem checked_color? (components : List Int) (cells : Nat) :
    Checked (color? components cells)
      (valueComplaints components ++ shapeComplaints components cells) := by
  refine (checked_bytes? components).bind fun bytes h => ?_
  have hlength : bytes.length = components.length := by
    rw [(bytes?_eq_ok h).2, List.length_map]
  rw [shapeComplaints, ← hlength]
  match bytes with
  | [] => rfl
  | [v] => rfl
  | [_, _] => rfl
  | [r, g, b] => rfl
  | _ :: _ :: _ :: _ :: rest =>
    have hshape : ¬ (rest.length + 4 = 3 ∨ rest.length + 4 = 1) := by omega
    rw [List.length_cons, List.length_cons, List.length_cons, List.length_cons, if_neg hshape]
    rfl

end Picture

def Color.components (c : Color) : List Int := [c.red.toNat, c.green.toNat, c.blue.toNat]

namespace Picture

theorem color?_eq_ok {components : List Int} {cells : Nat} {color : Color}
    (h : color? components cells = .ok color) : color.components = broadcast components := by
  obtain ⟨bytes, hbytes, hcolor⟩ := bind_eq_ok_iff.mp h
  obtain ⟨hvalues, rfl⟩ := bytes?_eq_ok hbytes
  match components with
  | [] => cases hcolor
  | [v] =>
    obtain rfl := Except.ok.inj hcolor
    have hv := toNat_byte (hvalues v List.mem_cons_self)
    simp only [Color.components, broadcast, hv]
  | [_, _] => cases hcolor
  | [r, g, b] =>
    obtain rfl := Except.ok.inj hcolor
    have hr := toNat_byte (hvalues r (by simp))
    have hg := toNat_byte (hvalues g (by simp))
    have hb := toNat_byte (hvalues b (by simp))
    simp only [Color.components, broadcast, hr, hg, hb]
  | _ :: _ :: _ :: _ :: _ => cases hcolor

theorem count_lit {values : List Int} {display : Display} (h : display? values = .ok display) :
    display.toList.count true = values.countP (· ≠ 0) ∧
      2048 - display.toList.count true = values.countP (· = 0) := by
  obtain ⟨hlength, hcells⟩ := display?_eq_ok h
  have hlit : display.toList.count true = values.countP (· ≠ 0) := by
    rw [hcells, List.count, List.countP_map]
    exact List.countP_congr fun v _ => by simp
  have hsum := List.length_eq_countP_add_countP (fun v : Int => decide (v ≠ 0)) (l := values)
  have hunlit : values.countP (fun v => ¬ decide (v ≠ 0) = true) = values.countP (· = 0) :=
    List.countP_congr fun v _ => by simp
  refine ⟨hlit, ?_⟩
  rw [hlit, ← hunlit]
  omega

theorem checked_render? (values : List Int) (scale : Int) (on off : List Int) :
    Checked (render? values scale on off) (complaints values on off) := by
  rw [complaints, List.append_assoc]
  refine (checked_display? values).bind fun display h => ?_
  obtain ⟨hlit, hunlit⟩ := count_lit h
  dsimp only
  rw [hunlit, hlit]
  refine (checked_color? on _).bind fun lit _ => ?_
  rw [← List.append_nil (valueComplaints off ++ _)]
  exact (checked_color? off _).bind fun unlit _ => rfl

/-- Whether numbers are the components of a color. -/
def IsColor (components : List Int) : Prop :=
  (∀ v ∈ components, IsByte v) ∧ (components.length = 3 ∨ components.length = 1)

theorem complaints_eq_nil_iff (values on off : List Int) :
    complaints values on off = [] ↔
      (∀ v ∈ values, IsByte v) ∧ values.length = 2048 ∧ IsColor on ∧ IsColor off := by
  simp only [complaints, List.append_eq_nil_iff, valueComplaints_eq_nil_iff, lengthComplaints,
    shapeComplaints, IsColor, ite_eq_left_iff, reduceCtorEq, imp_false, Decidable.not_not, and_assoc]

theorem render?_eq_ok {values on off : List Int} {scale : Int} {p : Picture}
    (h : render? values scale on off = .ok p) :
    ∃ display lit unlit, display? values = .ok display ∧ lit.components = broadcast on ∧
      unlit.components = broadcast off ∧ p = paint lit unlit scale display := by
  obtain ⟨display, hdisplay, hcolors⟩ := bind_eq_ok_iff.mp h
  obtain ⟨lit, hon, hrest⟩ := bind_eq_ok_iff.mp hcolors
  obtain ⟨unlit, hoff, hpaint⟩ := bind_eq_ok_iff.mp hrest
  exact ⟨display, lit, unlit, hdisplay, color?_eq_ok hon, color?_eq_ok hoff,
    (Except.ok.inj hpaint).symm⟩

/-- The pixel in a row and a column. -/
def pixel? (p : Picture) (r c : Nat) : Option Color := p.rows[r]?.bind fun row => row[c]?

section Paint

variable (on off : Color) (scale : Int) (d : Display)

theorem length_row_paint {row : List Color} (h : row ∈ (paint on off scale d).rows) :
    row.length = 64 * side scale := by
  obtain ⟨cells, hcells, hrow⟩ := List.mem_flatMap.mp h
  obtain ⟨lit, hlit, rfl⟩ := List.mem_map.mp hcells
  obtain ⟨r, rfl⟩ := List.mem_ofFn.mp hlit
  rw [List.eq_of_mem_replicate hrow, length_stretch, List.length_map, List.length_ofFn]

theorem getElem?_grid {r c : Nat} (hr : r < 32) (hc : c < 64) :
    (d.grid[r]?.bind fun row => row[c]?) = d.toList[64 * r + c]? := by
  have hrow : d.grid[r]? = some (List.ofFn fun c : Fin 64 => d[64 * r + c.val]) := by
    rw [Display.grid, List.getElem?_ofFn, dif_pos hr]
  have hcell : d.toList[64 * r + c]? = some d[64 * r + c] := by
    rw [Vector.getElem?_toList, Vector.getElem?_eq_getElem]
  rw [hrow, hcell, Option.bind_some, List.getElem?_ofFn, dif_pos hc]

theorem pixel?_paint {r c : Nat} (hr : r < 32 * side scale) (hc : c < 64 * side scale) :
    (paint on off scale d).pixel? r c =
      d.toList[64 * (r / side scale) + c / side scale]?.map fun lit => if lit then on else off := by
  have hk := side_pos scale
  have hrow : r / side scale < 32 := Nat.div_lt_of_lt_mul (Nat.mul_comm 32 _ ▸ hr)
  have hcolumn : c / side scale < 64 := Nat.div_lt_of_lt_mul (Nat.mul_comm 64 _ ▸ hc)
  rw [← getElem?_grid d hrow hcolumn, pixel?, paint, getElem?_stretch _ _ _ hk, List.getElem?_map]
  cases d.grid[r / side scale]? with
  | none => rfl
  | some cells =>
    rw [Option.map_some, Option.bind_some, Option.bind_some, getElem?_stretch _ _ _ hk,
      List.getElem?_map]

end Paint

/-- The lit cells as a picture shows them: each is told by the first pixel of its square. -/
def readBack (p : Picture) (on : List Int) : List Bool :=
  let k := p.rows.length / 32
  (List.range 2048).map fun i =>
    (p.pixel? (k * (i / 64)) (k * (i % 64))).map Color.components == some (broadcast on)

section Rendered

variable {values on off : List Int} {scale : Int} {p : Picture}

theorem pixel?_render? (h : render? values scale on off = .ok p) {r c : Nat}
    (hr : r < 32 * side scale) (hc : c < 64 * side scale) :
    (p.pixel? r c).map Color.components =
      values[64 * (r / side scale) + c / side scale]?.map fun v =>
        broadcast (if v ≠ 0 then on else off) := by
  obtain ⟨display, lit, unlit, hdisplay, hlit, hunlit, rfl⟩ := render?_eq_ok h
  rw [pixel?_paint _ _ _ _ hr hc, (display?_eq_ok hdisplay).2, List.getElem?_map, Option.map_map,
    Option.map_map]
  congr 1
  funext v
  by_cases hv : v = 0
  · simp [hv, hunlit]
  · simp [hv, hlit]

theorem readBack_render? (h : render? values scale on off = .ok p)
    (hdiffer : broadcast on ≠ broadcast off) :
    p.readBack on = values.map fun v => decide (v ≠ 0) := by
  obtain ⟨display, lit, unlit, hdisplay, -, -, hp⟩ := render?_eq_ok h
  have hlength := (display?_eq_ok hdisplay).1
  have hk := side_pos scale
  have hside : p.rows.length / 32 = side scale := by
    have hheight : p.rows.length = 32 * side scale := hp ▸ height_paint lit unlit scale display
    omega
  apply List.ext_getElem?
  intro i
  by_cases hi : i < 2048
  · have hrow : side scale * (i / 64) < 32 * side scale := by
      rw [Nat.mul_comm 32]
      exact Nat.mul_lt_mul_of_pos_left (by omega) hk
    have hcolumn : side scale * (i % 64) < 64 * side scale := by
      rw [Nat.mul_comm 64]
      exact Nat.mul_lt_mul_of_pos_left (by omega) hk
    have hvalue : values[i]? = some values[i] := List.getElem?_eq_getElem (by omega)
    have hpixel := pixel?_render? h hrow hcolumn
    rw [Nat.mul_div_cancel_left _ hk, Nat.mul_div_cancel_left _ hk, Nat.div_add_mod, hvalue]
      at hpixel
    rw [readBack, hside, List.getElem?_map, List.getElem?_range hi, List.getElem?_map, hvalue,
      Option.map_some, Option.map_some, hpixel, Option.map_some]
    by_cases hv : values[i] = 0
    · simp [hv, hdiffer.symm]
    · simp [hv]
  · rw [List.getElem?_eq_none (by simp [readBack]; omega),
      List.getElem?_eq_none (by simp; omega)]

end Rendered

/-- A picture is made exactly if nothing is wrong with the numbers, and otherwise the first complaint
is reported. Each of its pixels has the color of the cell that its square stands for, so that two
different colors show which cells are lit. -/
theorem render_scales (values : List Int) (scale : Int) (on off : List Int) :
    ((∃ p, render? values scale on off = .ok p) ↔
      (∀ v ∈ values, IsByte v) ∧ values.length = 2048 ∧ IsColor on ∧ IsColor off) ∧
    (∀ e, render? values scale on off = .error e ↔
      (complaints values on off).head? = some e) ∧
    ∀ p, render? values scale on off = .ok p →
      let k := (max scale 1).toNat
      p.rows.length = 32 * k ∧ (∀ row ∈ p.rows, row.length = 64 * k) ∧
        (∀ r < 32 * k, ∀ c < 64 * k, ∃ v color, values[64 * (r / k) + c / k]? = some v ∧
          p.pixel? r c = some color ∧
          color.components = broadcast (if v ≠ 0 then on else off)) ∧
        (broadcast on ≠ broadcast off →
          p.readBack on = values.map fun v => decide (v ≠ 0)) := by
  have hchecked := checked_render? values scale on off
  refine ⟨?_, hchecked.eq_error_iff, ?_⟩
  · rw [hchecked.exists_ok_iff, complaints_eq_nil_iff]
  · intro p h k
    obtain ⟨display, lit, unlit, hdisplay, -, -, hp⟩ := render?_eq_ok h
    have hlength := (display?_eq_ok hdisplay).1
    refine ⟨hp ▸ height_paint lit unlit scale display, ?_, ?_, readBack_render? h⟩
    · intro row hrow
      rw [hp] at hrow
      exact length_row_paint lit unlit scale display hrow
    · intro r hr c hc
      have hrow : r / k < 32 := Nat.div_lt_of_lt_mul (Nat.mul_comm 32 k ▸ hr)
      have hcolumn : c / k < 64 := Nat.div_lt_of_lt_mul (Nat.mul_comm 64 k ▸ hc)
      have hvalue : values[64 * (r / k) + c / k]? = some values[64 * (r / k) + c / k] :=
        List.getElem?_eq_getElem (by omega)
      have hpixel := pixel?_render? h hr hc
      rw [show side scale = k from rfl, hvalue, Option.map_some] at hpixel
      obtain ⟨color, hcolor, hcomponents⟩ := Option.map_eq_some_iff.mp hpixel
      exact ⟨_, color, hvalue, hcolor, hcomponents⟩

/-- A display of which only the last cell is lit. -/
def cornerLit : List Int := List.replicate 2047 0 ++ [7]

theorem render_scales_cornerLit :
    ∃ p, render? cornerLit 2 [255, 176, 0] [64] = .ok p ∧ p.rows.length = 64 ∧
      (∀ row ∈ p.rows, row.length = 128) ∧
      (p.pixel? 63 127).map Color.components = some [255, 176, 0] ∧
      (p.pixel? 61 127).map Color.components = some [64, 64, 64] ∧
      p.readBack [255, 176, 0] = List.replicate 2047 false ++ [true] := by
  have hvalues : ∀ v ∈ cornerLit, IsByte v := by
    intro v hv
    rcases List.mem_append.mp hv with hzero | hlast
    · obtain rfl := List.eq_of_mem_replicate hzero
      decide
    · obtain rfl := List.mem_singleton.mp hlast
      decide
  have hlength : cornerLit.length = 2048 := by
    rw [cornerLit, List.length_append, List.length_replicate]
    rfl
  have hcorner : cornerLit[2047]? = some 7 := by
    rw [cornerLit, List.getElem?_append_right (Nat.le_of_eq List.length_replicate),
      List.length_replicate]
    rfl
  have habove : cornerLit[1983]? = some 0 := by
    rw [cornerLit, List.getElem?_append_left (by rw [List.length_replicate]; decide),
      List.getElem?_replicate, if_pos (by decide)]
  obtain ⟨hsuccess, -, hpicture⟩ := render_scales cornerLit 2 [255, 176, 0] [64]
  obtain ⟨p, h⟩ := hsuccess.mpr
    ⟨hvalues, hlength, ⟨by decide, by decide⟩, ⟨by decide, by decide⟩⟩
  obtain ⟨hheight, hwidth, hpixels, hback⟩ := hpicture p h
  obtain ⟨lit, litColor, hlit, hlitPixel, hlitColor⟩ := hpixels 63 (by decide) 127 (by decide)
  obtain ⟨dark, darkColor, hdark, hdarkPixel, hdarkColor⟩ :=
    hpixels 61 (by decide) 127 (by decide)
  obtain rfl : 7 = lit := Option.some.inj (hcorner.symm.trans hlit)
  obtain rfl : 0 = dark := Option.some.inj (habove.symm.trans hdark)
  have hreadBack := hback (by decide)
  rw [cornerLit, List.map_append, List.map_replicate] at hreadBack
  refine ⟨p, h, hheight, hwidth, ?_, ?_, hreadBack⟩
  · rw [hlitPixel, Option.map_some, hlitColor]
    rfl
  · rw [hdarkPixel, Option.map_some, hdarkColor]
    rfl

end Picture

end Chip8
