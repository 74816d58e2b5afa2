import Chip8.Proofs.HostRun
import Chip8.Proofs.PictureScaling

/-! The size of the window against the size of the pictures it is to show. The window takes the
scale as it is, and a picture takes at least one pixel for a cell, so that they agree exactly from
scale one on. -/

namespace Chip8

namespace Picture

def HasSize (p : Picture) (width height : Int) : Prop :=
  p.rows.length = height ∧ ∀ row ∈ p.rows, row.length = width

theorem cast_side (scale : Int) : (side scale : Int) = max scale 1 := by
  unfold side
  omega

theorem hasSize_paint_iff (on off : Color) (scale : Int) (d : Display) (width height : Int) :
    (paint on off scale d).HasSize width height ↔
      width = 64 * max scale 1 ∧ height = 32 * max scale 1 := by
  have hrows : (paint on off scale d).rows.length = 32 * side scale := height_paint on off scale d
  have hcells (row : List Color) (hrow : row ∈ (paint on off scale d).rows) :
      row.length = 64 * side scale := length_row_paint on off scale d hrow
  rw [HasSize, ← cast_side]
  constructor
  · rintro ⟨hheight, hwidth⟩
    -- A picture without a row would have every width.
    have hpos := side_pos scale
    obtain ⟨row, hrow⟩ :=
      List.exists_mem_of_length_pos (l := (paint on off scale d).rows) (by omega)
    have hlength := hcells row hrow
    have hgiven := hwidth row hrow
    omega
  · rintro ⟨rfl, rfl⟩
    refine ⟨by omega, fun row hrow => ?_⟩
    have hlength := hcells row hrow
    omega

end Picture

namespace Window

/-- Whether a picture has the size that the window was given. -/
def Shown.Fits (s : Shown) (p : Picture) : Prop :=
  ∀ width height, Call.sized width height ∈ s.calls → p.HasSize width height

section

variable (style : Style) (m : Machine) (frames : List Frame)

theorem sized_mem_calls_iff (width height : Int) :
    .sized width height ∈ (session style m frames).calls ↔
      width = 64 * style.scale ∧ height = 32 * style.scale := by
  simp [session_eq]

theorem mem_pictures_iff (p : Picture) :
    p ∈ (session style m frames).pictures ↔
      ∃ s ∈ m.frames frames, .ofDisplay style.scheme style.scale s.machine.display = p := by
  simp only [session_eq, List.mem_map]

theorem pictures_eq_nil_iff : (session style m frames).pictures = [] ↔ frames = [] := by
  rw [session_eq, List.map_eq_nil_iff]
  cases frames <;> simp [Machine.frames]

theorem hasSize_of_mem_pictures {p : Picture} (h : p ∈ (session style m frames).pictures)
    (width height : Int) :
    p.HasSize width height ↔
      width = 64 * max style.scale 1 ∧ height = 32 * max style.scale 1 := by
  obtain ⟨s, -, rfl⟩ := (mem_pictures_iff style m frames p).mp h
  exact Picture.hasSize_paint_iff _ _ _ _ _ _

theorem fits_iff_hasSize (p : Picture) :
    (session style m frames).Fits p ↔ p.HasSize (64 * style.scale) (32 * style.scale) := by
  simp only [Shown.Fits, sized_mem_calls_iff]
  constructor
  · intro h
    exact h _ _ ⟨rfl, rfl⟩
  · rintro h width height ⟨rfl, rfl⟩
    exact h

/-- For every scale the window is given 64 times the scale by 32 times the scale. Every picture has
that size from scale one on, and below it is as large as at scale one and never fits. -/
theorem pictures_fit_iff :
    let shown := session style m frames
    (∀ width height, .sized width height ∈ shown.calls ↔
      width = 64 * style.scale ∧ height = 32 * style.scale) ∧
    (shown.pictures = [] ↔ frames = []) ∧
    ∀ p ∈ shown.pictures,
      (∀ width height, p.HasSize width height ↔
        width = 64 * max style.scale 1 ∧ height = 32 * max style.scale 1) ∧
      (shown.Fits p ↔ 1 ≤ style.scale) := by
  refine ⟨sized_mem_calls_iff style m frames, pictures_eq_nil_iff style m frames, fun p hp => ?_⟩
  have hsize := hasSize_of_mem_pictures style m frames hp
  refine ⟨hsize, ?_⟩
  rw [fits_iff_hasSize, hsize]
  omega

end

/-- The command line takes zero for a scale. The window then has no pixels, and the picture has
one for each cell. -/
theorem zero_scale_unfit :
    let settings : CommandLine.Settings :=
      { rom := "pong", scale := .value 0, seed? := some (.value 0) }
    CommandLine.parse ["pong", "--scale", "0", "--seed", "0"] = .ok settings ∧
      ∃ report shown, Host.run settings 0 (fun _ => .ok [0x60, 0xFF]) [[.quit]] = .ok report ∧
        report.window? = some shown ∧ .sized 0 0 ∈ shown.calls ∧
        ∃ p ∈ shown.pictures, p.HasSize 64 32 ∧ ¬ shown.Fits p := by
  intro settings
  have hparse : CommandLine.parse ["pong", "--scale", "0", "--seed", "0"] = .ok settings := by
    decide +kernel
  obtain ⟨start, hload⟩ : ∃ start, (Machine.create 0).load [0x60, 0xFF] = .ok start :=
    ⟨_, Machine.load_eq_ok_iff.mpr ⟨by decide, rfl⟩⟩
  have hstart : (Machine.create 0).loadFile (fun _ => .ok [0x60, 0xFF]) settings.rom = .ok start :=
    (Host.loadFile_eq_ok_iff (by simp [settings])).mpr ⟨_, rfl, hload⟩
  let style : Style := ⟨0, .value 60, .white⟩
  have hserve : (Host.serve .recorder settings start [[.quit]] #[.loaded "pong"]).report = .ok _ :=
    (Host.serve_eq_ok_iff fun _ => List.cons_ne_nil _ _).mpr
      (.inr ⟨rfl, .white, 0, rfl, rfl, Host.report_windowed start style [[.quit]] _⟩)
  refine ⟨hparse, _, (session style start [[.quit]]).toShown, Host.run_eq_ok_iff.mpr
    ⟨by decide, 0, rfl, .inr ⟨start, hstart, hserve⟩⟩, rfl, ?_, ?_⟩
  · exact (sized_mem_calls_iff style start [[.quit]] 0 0).mpr ⟨rfl, rfl⟩
  · obtain ⟨p, hp⟩ := List.exists_mem_of_ne_nil (session style start [[.quit]]).pictures
      (mt (pictures_eq_nil_iff style start [[.quit]]).mp (by simp))
    have hsize := hasSize_of_mem_pictures style start [[.quit]] hp
    refine ⟨p, hp, (hsize 64 32).mpr ⟨rfl, rfl⟩, ?_⟩
    rw [fits_iff_hasSize, hsize]
    decide

end Window

end Chip8
