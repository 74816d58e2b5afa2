import Chip8.Proofs.HostRun
import Chip8.Proofs.LevelOption

/-! The log level is a filter on what a run prints. Two consoles at different levels are told the
same messages in step, and after each of them the one at the higher level has printed what the other
has, but for the lines below its level. -/

namespace Chip8

/-- Printouts of the same messages, one at a level and the other at that level or below it. -/
structure Printout.Below (level : Level) (low high : Printout) : Prop where
  console : high.console = { low.console with threshold := level }
  threshold : low.console.threshold ≤ level
  said : high.said = low.said
  lines : high.lines = low.lines.filter (level ≤ ·.1)

namespace Logger

variable (times : Nat → Int)

/-- Whether a message is printed is for the threshold to say, and how is not. -/
theorem say_printer (p : Printout) (notice : Notice) :
    (printer times).say p notice =
      { p with
        said := p.said + 1
        lines :=
          if p.console.threshold ≤ notice.level then
            p.lines.push
              (notice.level, p.console.line (times p.said) notice.level notice.text ++ "\n")
          else p.lines } := by
  by_cases h : p.console.threshold ≤ notice.level <;> simp [printer, Console.print, h]

theorem setLevel_printer (p : Printout) (level : Level) :
    (printer times).setLevel p level =
      { p with console := { p.console with threshold := level } } := by
  have hlevel : Level.threshold? level.name = .ok level := by
    cases level <;> decide +kernel
  simp only [printer, Console.serve, hlevel]
  rfl

/-- One message: a line that reaches the higher level reaches the lower one. -/
theorem printer_inStep (level : Level) :
    (printer times).InStep (printer times) (Printout.Below level) := by
  intro low high h notice
  have hthreshold : high.console.threshold = level := by rw [h.console]
  have hline : high.console.line (times high.said) notice.level notice.text =
      low.console.line (times low.said) notice.level notice.text := by
    rw [h.console, h.said]
    rfl
  rw [say_printer, say_printer, hthreshold, hline, h.lines]
  refine ⟨h.console, h.threshold, congrArg (· + 1) h.said, ?_⟩
  by_cases hhigh : level ≤ notice.level
  · have hlow : low.console.threshold ≤ notice.level := Nat.le_trans h.threshold hhigh
    simp [hhigh, hlow]
  · by_cases hlow : low.console.threshold ≤ notice.level <;> simp [hhigh, hlow]

end Logger

namespace Host

open CommandLine (Settings parse asking follows_parse)

/-- A run is the same at two levels but for what it prints. -/
theorem runWith_atLevel (settings : Settings) (clock : Int) (files : Files) (frames : List Frame)
    (base : Console) (times : Nat → Int) {low high : Level} (h : low ≤ high) :
    (runWith (.printer times) (settings.atLevel low) clock files frames
        { console := base }).Agrees (Printout.Below high)
      (runWith (.printer times) (settings.atLevel high) clock files frames
        { console := base }) := by
  have hset : Printout.Below high ((Logger.printer times).setLevel { console := base } low)
      ((Logger.printer times).setLevel { console := base } high) := by
    rw [Logger.setLevel_printer, Logger.setLevel_printer]
    exact ⟨rfl, h, rfl, rfl⟩
  -- Once the level is set, nobody asks for it again.
  exact start_agrees (Logger.printer_inStep times high) hset settings clock files frames

/-- Whichever level a command line asks for, the run has the same exit, ends in the same way and
does the same to the bar and to the window. What it prints at one level is what it prints at a
lower one without the lines below. -/
theorem level_filters (before after : List String) (clock : Int) (files : Files)
    (frames : List Frame) :
    (∃ code, ∀ l, ∃ exit, parse (asking before after l) = .error exit ∧ exit.code = code) ∨
    ∃ settings : Level → Settings,
      (∀ l, parse (asking before after l) = .ok (settings l)) ∧
      ((∀ l, threshold (settings l) = l) ∨ ∀ l k, settings l = settings k) ∧
      ∀ (base : Console) (times : Nat → Int) (l k : Level), k ≤ l →
        let shown (j : Level) :=
          runWith (.printer times) (settings j) clock files frames { console := base }
        (shown l).ending = (shown k).ending ∧ (shown l).bar = (shown k).bar ∧
          (shown l).machine? = (shown k).machine? ∧ (shown l).window? = (shown k).window? ∧
          (shown l).log.lines =
            (shown k).log.lines.filter (threshold (settings l) ≤ ·.1) := by
  cases follows_parse before after with
  | refused code h => exact .inl ⟨code, fun l => mapError_eq_error_iff.mp (h l)⟩
  | set settings h =>
    refine .inr ⟨settings.atLevel, fun l => mapError_eq_ok_iff.mp (h l), .inl fun _ => rfl, ?_⟩
    intro base times l k hkl shown
    have hagrees := runWith_atLevel settings clock files frames base times hkl
    exact ⟨hagrees.ending.symm, hagrees.bar.symm, hagrees.machine.symm, hagrees.window.symm,
      hagrees.log.lines⟩
  | fixed settings h =>
    refine .inr ⟨fun _ => settings, fun l => mapError_eq_ok_iff.mp (h l), .inr fun _ _ => rfl, ?_⟩
    intro base times l k hkl shown
    refine ⟨rfl, rfl, rfl, rfl, ?_⟩
    cases hlevel : settings.level with
    | blank => simp [shown, runWith, hlevel]
    | value level =>
      have hsettings : settings.atLevel level = settings := by
        rw [CommandLine.Settings.atLevel, ← hlevel]
      have hle : level ≤ level := Nat.le_refl _
      have hagrees := runWith_atLevel settings clock files frames base times hle
      rw [hsettings] at hagrees
      rw [threshold, hlevel]
      exact hagrees.log.lines

/-- Four ticks a second, and one before each message. -/
def pace (i : Nat) : Int := (i + 1) * 2 ^ 20

theorem level_filters_pong :
    let settings (l : Level) : Settings :=
      { rom := "pong", level := .value l, seed? := some (.value 0) }
    let shown (l : Level) :=
      runWith (.printer pace) (settings l) 0 shelf [[], [.quit]] { console := {} }
    (∀ l, parse (asking ["pong"] ["--seed=0"] l) = .ok (settings l)) ∧
      Level.debug ≤ .warning ∧
      (shown .warning).log.lines = (shown .debug).log.lines.filter (Level.warning ≤ ·.1) ∧
      (shown .debug).log.lines.toList.map Prod.snd =
        ["[    0.25s][    INFO][chipax] Loaded: pong\n",
          "[    0.50s][    INFO][chipax] Controls: 1234/QWER/ASDF/ZXCV = keypad, ESC = quit\n",
          "[    0.75s][ WARNING][chipax] Unknown opcode 0x0123 at 0x202\n",
          "[    1.00s][    INFO][chipax] Stopped after 2 cycles\n"] := by
  intro settings shown
  have hparse : ∀ l, parse (asking ["pong"] ["--seed=0"] l) = .ok (settings l) := by
    intro l
    cases l <;> decide +kernel
  have hle : Level.debug ≤ .warning := by decide
  refine ⟨hparse, hle, ?_, ?_⟩
  · rcases level_filters ["pong"] ["--seed=0"] 0 shelf [[], [.quit]] with
      ⟨code, hrefused⟩ | ⟨others, hothers, -, hfilters⟩
    · obtain ⟨exit, hexit, -⟩ := hrefused .debug
      cases (hparse .debug).symm.trans hexit
    · obtain rfl : settings = others := by
        funext l
        exact Except.ok.inj ((hparse l).symm.trans (hothers l))
      obtain ⟨-, -, -, -, hlines⟩ := hfilters {} pace .warning .debug hle
      exact hlines
  · have hload : (Machine.create 0).loadFile shelf "pong" = .ok _ :=
      (loadFile_eq_ok_iff (by simp)).mpr ⟨_, rfl, rfl⟩
    dsimp only [shown]
    rw [runWith_of_load _ rfl rfl hload]
    decide +kernel

end Host

end Chip8
