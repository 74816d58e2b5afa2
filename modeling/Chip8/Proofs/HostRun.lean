import Chip8.Proofs.BlankSetting
import Chip8.Proofs.LoggerStep
import Chip8.Proofs.ProgressReport
import Chip8.Proofs.WindowRun

/-! Runs of the program from the command line to the exit status. A ROM that cannot be loaded is
reported in one message and nothing runs; every other run goes on to its end. -/

namespace Chip8

open CommandLine (Settings)

namespace Machine

def after (m : Machine) (cycles : Nat) : Machine := (fun s => s.cycle.machine)^[cycles] m

theorem warnings_play (m : Machine) (schedule : List Action) :
    (m.play schedule).warnings.toList.map .unknownOpcode =
      (m.starts schedule).filterMap unknownOpcode? := by
  induction schedule generalizing m with
  | nil => rfl
  | cons a rest ih =>
    cases a with
    | cycle =>
      rw [play_cycle, starts, List.filterMap_cons, ← ih, warning?_cycle, unknownOpcode?]
      split <;> simp
    | key event => exact ih (m.press event)

theorem starts_replicate (m : Machine) (cycles : Nat) :
    m.starts (List.replicate cycles .cycle) = (List.range cycles).map m.after := by
  induction cycles generalizing m with
  | zero => rfl
  | succ n ih =>
    rw [List.replicate_succ, starts, ih, List.range_succ_eq_map, List.map_cons, List.map_map]
    rfl

theorem warnings_run (m : Machine) (n : Int) :
    (m.run n).warnings.toList.map .unknownOpcode =
      (List.range n.toNat).filterMap fun i => (m.after i).unknownOpcode? := by
  rw [run_eq_play, warnings_play, starts_replicate, List.filterMap_map]
  rfl

end Machine

namespace Host

/-- What a run leaves behind that does not break off, with every message taken down. -/
structure Report where
  status : Nat
  notices : List Notice
  bar : List (Progress.Call Empty) := []
  machine? : Option Machine := none
  window? : Option Window.Shown := none

/-- The messages that are printed at a level of the log. -/
def Report.printed (r : Report) (level : Level) : List Notice :=
  r.notices.filter (level ≤ ·.level)

def Outcome.report (o : Outcome (Array Notice)) : Except RunError Report :=
  o.ending.map fun status =>
    { status, notices := o.log.toList, bar := o.bar, machine? := o.machine?, window? := o.window? }

def run (settings : Settings) (clock : Int) (files : Files) (frames : List Frame) :
    Except RunError Report :=
  (runWith .recorder settings clock files frames #[]).report

/-- The level of a run's log. A run with a blank one has no log. -/
def threshold (settings : Settings) : Level := settings.level.getD .info

/-- Why nothing can be loaded from a file: it cannot be read, or it does not fit in memory. -/
inductive Unloadable (files : Files) (rom : String) : LoadError → Prop
  | unreadable {cause : FileError} (hfile : files rom = .error cause) :
      Unloadable files rom (.unreadable rom cause)
  | tooLong {bytes : List UInt8} (hfile : files rom = .ok bytes) (hlength : 3584 < bytes.length) :
      Unloadable files rom (.tooLong bytes.length)

/-- The settings that a loaded ROM is run with are not blank. -/
def Serves (settings : Settings) : Prop :=
  match settings.cycles? with
  | some cycles => cycles ≠ .blank
  | none => settings.scheme ≠ .blank ∧ settings.scale ≠ .blank

/-- The settings that a run asks for are not blank. -/
structure Answers (settings : Settings) (files : Files) : Prop where
  level : settings.level ≠ .blank
  seed : settings.seed? ≠ some .blank
  served : (∃ cause, Unloadable files settings.rom cause) ∨ Serves settings

/-- The report of a run that loads nothing. -/
structure Report.Rejected (r : Report) (level : Level) (cause : LoadError) : Prop where
  machine : r.machine? = none
  bar : r.bar = []
  window : r.window? = none
  log : r.printed level = if level = .critical then [] else [.rejected cause]
  error : ∀ notice ∈ r.printed level, notice.level = .error

/-- The report of a run that counts off cycles. -/
structure Report.Counted (r : Report) (level : Level) (rom : String) (start : Machine) (n : Int) :
    Prop where
  machine : r.machine? = some (start.after n.toNat)
  window : r.window? = none
  log : level ≤ .info →
    r.printed level =
      .loaded rom :: (List.range n.toNat).filterMap (fun i => (start.after i).unknownOpcode?) ++
        [.registers (start.after n.toNat).pc (start.after n.toNat).index
          (start.after n.toNat).registers]

theorem printed_eq {r : Report} {level : Level} (hlevel : level ≤ .info)
    (h : ∀ notice ∈ r.notices, Level.info ≤ notice.level) : r.printed level = r.notices := by
  apply List.filter_eq_self.mpr
  intro notice hnotice
  have hshown : level ≤ notice.level := Nat.le_trans hlevel (h notice hnotice)
  simpa using hshown

theorem headless_eq (m : Machine) {n : Int} (hn : n < 2 ^ 31) (log : Array Notice) :
    headless .recorder m n log =
      { ending := .ok 0
        log := (log ++ (m.run n).warnings.toList.map Notice.unknownOpcode).push
          (.ofRegisters (m.run n).machine)
        bar := (m.runReported n).calls.toList
        machine? := some (m.run n).machine } := by
  have hcarry : (m.runReported n).carry = m.run n := Progress.carry_reportedLoop _ _ _ _
  simp only [headless, Machine.runReported?_eq hn, hcarry, Window.foldl_recorder,
    Logger.say_recorder]

/-- What a window shows is the same whatever its logger is. -/
theorem windowed_eq {σ : Type} (L : Logger σ) (m : Machine) (style : Window.Style)
    (frames : List Frame) (log : σ) :
    windowed L m style.look frames log =
      { ending := .ok 0
        log := (Window.run L style.look m frames log).log
        machine? := some (Window.session style m frames).machine
        window? := some (Window.session style m frames).toShown } := by
  have hshown : (Window.run L style.look m frames log).toShown =
      (Window.session style m frames).toShown :=
    (Window.run_agrees (R := fun _ _ => True) (fun _ _ _ _ => trivial) trivial _ _ _).shown
  have hfailure : (Window.session style m frames).failure? = none := by rw [Window.session_eq]
  simp only [windowed, hshown, hfailure]

theorem report_windowed (m : Machine) (style : Window.Style) (frames : List Frame)
    (log : Array Notice) :
    (windowed .recorder m style.look frames log).report = .ok
      { status := 0
        notices := (Window.run .recorder style.look m frames log).log.toList
        machine? := some (Window.session style m frames).machine
        window? := some (Window.session style m frames).toShown } := by
  rw [windowed_eq]
  rfl

/-- A blank scale is missed at the first picture only, when the window has its title and the first
frame has had its say. -/
theorem windowed_blank {σ : Type} (L : Logger σ) (m : Machine) (fps : CommandLine.Entry Int)
    (scheme : Scheme) (events : Frame) (rest : List Frame) (log : σ) :
    windowed L m ⟨.blank, fps, scheme⟩ (events :: rest) log =
      { ending := .error .blankScale
        log := (Window.stepNotices (m.frame events)).foldl L.say (L.say log .controls)
        window? := some
          { machine := (m.frame events).machine
            cycles := 1
            calls := [.opened, .unsized, .titled "chipax", .ticked fps, .closed]
            failure? := some .blankScale } } :=
  rfl

section Load

variable {files : Files} {rom : String} {m : Machine}

theorem loadFile_eq_error_iff (hname : rom.contains '\x00' = false) {cause : LoadError} :
    m.loadFile files rom = .error cause ↔ Unloadable files rom cause := by
  rw [Machine.loadFile_eq hname]
  cases hfile : files rom with
  | error other =>
    constructor
    · intro h
      obtain rfl := Except.error.inj h
      exact .unreadable hfile
    · intro h
      cases h with
      | unreadable hother =>
        obtain rfl := Except.error.inj (hfile.symm.trans hother)
        rfl
      | tooLong hother => cases hfile.symm.trans hother
  | ok bytes =>
    rw [Machine.load_eq_error_iff]
    constructor
    · rintro ⟨hlength, rfl⟩
      exact .tooLong hfile hlength
    · intro h
      cases h with
      | unreadable hother => cases hfile.symm.trans hother
      | tooLong hother hlength =>
        obtain rfl := Except.ok.inj (hfile.symm.trans hother)
        exact ⟨hlength, rfl⟩

theorem loadFile_eq_ok_iff (hname : rom.contains '\x00' = false) {start : Machine} :
    m.loadFile files rom = .ok start ↔
      ∃ bytes, files rom = .ok bytes ∧ m.load bytes = .ok start := by
  rw [Machine.loadFile_eq hname]
  cases files rom <;> simp

theorem not_unloadable (hname : rom.contains '\x00' = false) {start : Machine}
    (hload : m.loadFile files rom = .ok start) : ¬ ∃ cause, Unloadable files rom cause := by
  rintro ⟨cause, hcause⟩
  cases hload.symm.trans ((loadFile_eq_error_iff hname).mpr hcause)

end Load

section Run

variable {settings : Settings} {clock : Int} {files : Files} {frames : List Frame}
  {m : Machine} {log : Array Notice} {report : Report}

theorem exists_seed_iff :
    (∃ entropy, seed settings clock = .ok entropy) ↔ settings.seed? ≠ some .blank := by
  unfold seed
  cases settings.seed? with
  | none => simp
  | some entry => simp [CommandLine.Entry.orError_eq_ok_iff, CommandLine.Entry.ne_blank_iff]

theorem serve_eq_ok_iff (hframes : settings.cycles? = none → frames ≠ []) :
    (serve .recorder settings m frames log).report = .ok report ↔
      (∃ n, settings.cycles? = some (.value n) ∧
        (headless .recorder m n log).report = .ok report) ∨
      settings.cycles? = none ∧ ∃ scheme scale, settings.scheme = .value scheme ∧
        settings.scale = .value scale ∧
        (windowed .recorder m (Window.Style.look ⟨scale, settings.fps, scheme⟩) frames log).report =
          .ok report := by
  unfold serve
  cases hcycles : settings.cycles? with
  | some cycles => cases cycles <;> simp [Outcome.report, Except.map]
  | none =>
    cases hscheme : settings.scheme with
    | blank => simp [Outcome.report, Except.map]
    | value scheme =>
      cases hscale : settings.scale with
      | blank =>
        obtain ⟨events, others, rfl⟩ := List.exists_cons_of_ne_nil (hframes hcycles)
        dsimp only
        rw [windowed_blank]
        simp [Outcome.report, Except.map]
      | value scale => simp [Window.Style.look]

/-- How a run ends: with its ROM refused, or with what the loaded machine is there for. -/
theorem run_eq_ok_iff :
    run settings clock files frames = .ok report ↔
      settings.level ≠ .blank ∧ ∃ entropy, seed settings clock = .ok entropy ∧
        ((∃ cause ≠ .invalidName,
            (Machine.create entropy).loadFile files settings.rom = .error cause ∧
            { status := 1, notices := [.rejected cause] } = report) ∨
          ∃ start, (Machine.create entropy).loadFile files settings.rom = .ok start ∧
            (serve .recorder settings start frames #[.loaded settings.rom]).report =
              .ok report) := by
  unfold run runWith
  cases settings.level with
  | blank => simp [Outcome.report, Except.map]
  | value level =>
    unfold start
    cases seed settings clock with
    | error cause => simp [Outcome.report, Except.map]
    | ok entropy =>
      simp only [ne_eq, reduceCtorEq, not_false_eq_true, true_and, Except.ok.injEq,
        exists_eq_left']
      cases (Machine.create entropy).loadFile files settings.rom with
      -- An invalid name is the only cause that is not reported.
      | error cause => cases cause <;> simp [Outcome.report, Except.map]
      | ok start => simp

theorem runWith_of_load {σ : Type} (L : Logger σ) {level : Level} {entropy : Int}
    (hlevel : settings.level = .value level) (hseed : seed settings clock = .ok entropy)
    (hload : (Machine.create entropy).loadFile files settings.rom = .ok m) (log : σ) :
    runWith L settings clock files frames log =
      serve L settings m frames (L.say (L.setLevel log level) (.loaded settings.rom)) := by
  simp only [runWith, hlevel, start, hseed, hload]

theorem counted_of_headless {n : Int} (hn : n < 2 ^ 31) (level : Level) (rom : String)
    (h : (headless .recorder m n #[.loaded rom]).report = .ok report) :
    report.status = 0 ∧ report.Counted level rom m n := by
  have hmachine : (m.run n).machine = m.after n.toNat := m.machine_run n
  rw [headless_eq m hn, hmachine, m.warnings_run n] at h
  cases h
  refine ⟨rfl, ⟨rfl, rfl, fun hlevel => ?_⟩⟩
  rw [printed_eq hlevel]
  · simp [Notice.ofRegisters]
  · intro notice hnotice
    simp only [Array.toList_push, Array.toList_appendList, List.mem_append, List.mem_filterMap,
      List.mem_singleton] at hnotice
    obtain (rfl | ⟨i, -, hi⟩) | rfl := hnotice
    · exact Nat.le_refl 20
    · obtain ⟨-, ⟨⟩⟩ := Option.ite_none_left_eq_some.mp hi
      exact Nat.le_add_right 20 10
    · exact Nat.le_refl 20

section Quits

variable (hquits : settings.cycles? = none →
  ∃ f ∈ frames, Event.quit ∈ f ∨ Event.down "escape" ∈ f)

include hquits

theorem frames_ne_nil (hnone : settings.cycles? = none) : frames ≠ [] := by
  obtain ⟨f, hf, -⟩ := hquits hnone
  exact List.ne_nil_of_mem hf

theorem report_of_serve (hcycles : ∀ n, settings.cycles? = some (.value n) → n < 2 ^ 31)
    (level : Level) (rom : String)
    (h : (serve .recorder settings m frames #[.loaded rom]).report = .ok report) :
    report.status = 0 ∧
      (∀ n, settings.cycles? = some (.value n) → report.Counted level rom m n) ∧
      (settings.cycles? = none →
        report.machine? = some (m.afterFrames frames (frames.findIdx Frame.quits + 1))) := by
  rcases (serve_eq_ok_iff (frames_ne_nil hquits)).mp h with
    ⟨n, hn, hheadless⟩ | ⟨hnone, scheme, scale, -, -, hwindowed⟩
  · obtain ⟨hstatus, hcounted⟩ := counted_of_headless (hcycles n hn) level rom hheadless
    refine ⟨hstatus, fun k hk => ?_, fun hnone => ?_⟩
    · obtain rfl : n = k := by simpa [hn] using hk
      exact hcounted
    · cases hnone.symm.trans hn
  · have hsome : ∃ f ∈ frames, Frame.quits f = true := by
      simpa [Frame.quits] using hquits hnone
    rw [report_windowed, Window.machine_session _ m hsome] at hwindowed
    obtain rfl := Except.ok.inj hwindowed
    refine ⟨rfl, fun n hn => ?_, fun _ => rfl⟩
    cases hnone.symm.trans hn

theorem exists_serve_iff (hcycles : ∀ n, settings.cycles? = some (.value n) → n < 2 ^ 31) :
    (∃ report, (serve .recorder settings m frames log).report = .ok report) ↔
      Serves settings := by
  simp only [serve_eq_ok_iff (frames_ne_nil hquits), Serves]
  cases hc : settings.cycles? with
  | none =>
    dsimp only
    rw [CommandLine.Entry.ne_blank_iff, CommandLine.Entry.ne_blank_iff]
    constructor
    · rintro ⟨report, ⟨n, ⟨⟩, -⟩ | ⟨-, scheme, scale, hscheme, hscale, -⟩⟩
      exact ⟨⟨scheme, hscheme⟩, scale, hscale⟩
    · rintro ⟨⟨scheme, hscheme⟩, scale, hscale⟩
      exact ⟨_, .inr ⟨rfl, scheme, scale, hscheme, hscale, report_windowed m _ frames log⟩⟩
  | some cycles =>
    dsimp only
    rw [CommandLine.Entry.ne_blank_iff]
    constructor
    · rintro ⟨report, ⟨n, hn, -⟩ | ⟨⟨⟩, -⟩⟩
      exact ⟨n, Option.some.inj hn⟩
    · rintro ⟨n, rfl⟩
      exact ⟨_, .inl ⟨n, rfl, by rw [headless_eq m (hcycles n hc)]; rfl⟩⟩

end Quits

theorem answers_of_filled (h : settings.toOptions.Filled) : Answers settings files := by
  refine ⟨h.level, h.seed, .inr ?_⟩
  unfold Serves
  split
  case h_1 cycles hc =>
    rintro rfl
    exact h.cycles hc
  case h_2 => exact ⟨h.scheme, h.scale⟩

theorem exists_run_iff (hname : settings.rom.contains '\x00' = false)
    (hcycles : ∀ n, settings.cycles? = some (.value n) → n < 2 ^ 31)
    (hquits : settings.cycles? = none →
      ∃ f ∈ frames, Event.quit ∈ f ∨ Event.down "escape" ∈ f) :
    (∃ report, run settings clock files frames = .ok report) ↔ Answers settings files := by
  constructor
  · rintro ⟨report, h⟩
    obtain ⟨hlevel, entropy, hseed, hend⟩ := run_eq_ok_iff.mp h
    refine ⟨hlevel, exists_seed_iff.mp ⟨entropy, hseed⟩, ?_⟩
    rcases hend with ⟨cause, -, hload, -⟩ | ⟨start, -, hserve⟩
    · exact .inl ⟨cause, (loadFile_eq_error_iff hname).mp hload⟩
    · exact .inr ((exists_serve_iff hquits hcycles).mp ⟨report, hserve⟩)
  · rintro ⟨hlevel, hseed, hserved⟩
    obtain ⟨entropy, hentropy⟩ : ∃ entropy, seed settings clock = .ok entropy :=
      exists_seed_iff.mpr hseed
    cases hload : (Machine.create entropy).loadFile files settings.rom with
    | error cause =>
      have hcause : cause ≠ .invalidName := by
        rintro rfl
        cases (loadFile_eq_error_iff hname).mp hload
      exact ⟨_, run_eq_ok_iff.mpr
        ⟨hlevel, entropy, hentropy, .inl ⟨cause, hcause, hload, rfl⟩⟩⟩
    | ok start =>
      have hserves : Serves settings := hserved.resolve_left (not_unloadable hname hload)
      obtain ⟨report, hserve⟩ := (exists_serve_iff hquits hcycles).mpr hserves
      exact ⟨report, run_eq_ok_iff.mpr
        ⟨hlevel, entropy, hentropy, .inr ⟨start, hload, hserve⟩⟩⟩

theorem rejected (level : Level) (cause : LoadError) :
    Report.Rejected { status := 1, notices := [.rejected cause] } level cause := by
  refine ⟨rfl, rfl, rfl, ?_, ?_⟩
  · cases level <;> rfl
  · intro notice hnotice
    obtain rfl := List.mem_singleton.mp (List.mem_of_mem_filter hnotice)
    rfl

end Run

/-- Unless a setting that it asks for was left blank, a run ends with a report. A ROM that cannot
be loaded gives status 1 and one message; otherwise the status is 0 and the log tells of the ROM,
of every unknown opcode and of the registers. -/
theorem run_answers {arguments : List String} {settings : Settings}
    (hparse : CommandLine.parse arguments = .ok settings) (clock : Int) (files : Files)
    (frames : List Frame) (hname : settings.rom.contains '\x00' = false)
    (hcycles : ∀ n, settings.cycles? = some (.value n) → n < 2 ^ 31)
    (hquits : settings.cycles? = none →
      ∃ f ∈ frames, Event.quit ∈ f ∨ Event.down "escape" ∈ f) :
    ((∀ text ∈ arguments, ¬ ['=', '-', '-'] <:+ text.toList) → Answers settings files) ∧
    ((∃ report, run settings clock files frames = .ok report) ↔ Answers settings files) ∧
    ∀ report, run settings clock files frames = .ok report →
      (report.status = 0 ∨ report.status = 1) ∧
      (report.status = 1 ↔ ∃ cause, Unloadable files settings.rom cause) ∧
      (report.status = 1 → ∃ cause, Unloadable files settings.rom cause ∧
        report.Rejected (threshold settings) cause) ∧
      (report.status = 0 → ∃ entropy bytes start, seed settings clock = .ok entropy ∧
        files settings.rom = .ok bytes ∧ (Machine.create entropy).load bytes = .ok start ∧
        (∀ n, settings.cycles? = some (.value n) →
          report.Counted (threshold settings) settings.rom start n) ∧
        (settings.cycles? = none →
          report.machine? =
            some (start.afterFrames frames (frames.findIdx Frame.quits + 1)))) := by
  refine ⟨fun harguments => answers_of_filled (CommandLine.parse_filled hparse harguments),
    exists_run_iff hname hcycles hquits, fun report h => ?_⟩
  obtain ⟨-, entropy, hseed, ⟨cause, -, hload, rfl⟩ | ⟨start, hload, hserve⟩⟩ :=
    run_eq_ok_iff.mp h
  · have hcause := (loadFile_eq_error_iff hname).mp hload
    refine ⟨.inr rfl, ⟨fun _ => ⟨cause, hcause⟩, fun _ => rfl⟩,
      fun _ => ⟨cause, hcause, rejected _ cause⟩, fun hzero => ?_⟩
    cases hzero
  · obtain ⟨hstatus, hcounted, hshown⟩ :=
      report_of_serve hquits hcycles (threshold settings) settings.rom hserve
    obtain ⟨bytes, hfile, hbytes⟩ := (loadFile_eq_ok_iff hname).mp hload
    refine ⟨.inl hstatus, ⟨fun hone => ?_, fun h => absurd h (not_unloadable hname hload)⟩,
      fun hone => ?_,
      fun _ => ⟨entropy, bytes, start, hseed, hfile, hbytes, hcounted, hshown⟩⟩
    · cases hstatus.symm.trans hone
    · cases hstatus.symm.trans hone

def shelf : Files := fun name =>
  if name = "pong" then .ok [0x60, 0x05, 0x01, 0x23] else .error .missing

theorem run_answers_pong :
    let settings : Settings :=
      { rom := "pong", seed? := some (.value 0), cycles? := some (.value 3) }
    CommandLine.parse ["pong", "--cycles", "3", "--seed", "0"] = .ok settings ∧
      settings.rom.contains '\x00' = false ∧
      (∀ n, settings.cycles? = some (.value n) → n < 2 ^ 31) ∧
      (settings.cycles? = none →
        ∃ f ∈ ([] : List Frame), Event.quit ∈ f ∨ Event.down "escape" ∈ f) ∧
      ∃ report, run settings 0 shelf [] = .ok report ∧ report.status = 0 ∧
        (report.printed .info).map Notice.text =
          ["Loaded: pong", "Unknown opcode 0x0123 at 0x202", "Unknown opcode 0x0123 at 0x202",
            "PC: 0x202 I: 0x000 V0:05 V1:00 V2:00 V3:00 V4:00 V5:00 V6:00 V7:00 " ++
              "V8:00 V9:00 VA:00 VB:00 VC:00 VD:00 VE:00 VF:00"] := by
  intro settings
  have hparse : CommandLine.parse ["pong", "--cycles", "3", "--seed", "0"] = .ok settings := by
    decide +kernel
  have hname : settings.rom.contains '\x00' = false := by
    simp [settings]
  have hcycles : ∀ n, settings.cycles? = some (.value n) → n < 2 ^ 31 := by
    rintro n ⟨⟩
    decide
  have hquits : settings.cycles? = none →
      ∃ f ∈ ([] : List Frame), Event.quit ∈ f ∨ Event.down "escape" ∈ f := by
    rintro ⟨⟩
  obtain ⟨hanswers, hends, hreport⟩ := run_answers hparse 0 shelf [] hname hcycles hquits
  obtain ⟨report, hrun⟩ := hends.mpr (hanswers (by decide))
  obtain ⟨hstatus, hone, -, hzero⟩ := hreport report hrun
  have hpong : shelf settings.rom = .ok [0x60, 0x05, 0x01, 0x23] := if_pos rfl
  have hstatus : report.status = 0 := by
    refine hstatus.resolve_right fun h => ?_
    obtain ⟨cause, hother | ⟨hbytes, hlong⟩⟩ := hone.mp h
    · cases hpong.symm.trans hother
    · obtain rfl := Except.ok.inj (hpong.symm.trans hbytes)
      exact absurd hlong (by decide)
  obtain ⟨entropy, bytes, start, hseed, hfile, hload, hcounted, -⟩ := hzero hstatus
  obtain rfl : 0 = entropy := Except.ok.inj hseed
  obtain rfl := Except.ok.inj (hpong.symm.trans hfile)
  obtain ⟨-, rfl⟩ := Machine.load_eq_ok_iff.mp hload
  refine ⟨hparse, hname, hcycles, hquits, report, hrun, hstatus, ?_⟩
  have hlog := (hcounted 3 rfl).log (Nat.le_refl _)
  have hthreshold : threshold settings = .info := rfl
  rw [hthreshold] at hlog
  rw [hlog]
  decide +kernel

/-- A blank seed stops a run before its ROM is even looked for. -/
theorem blank_seed_unanswered :
    let settings : Settings := { rom := "nope", seed? := some .blank }
    CommandLine.parse ["nope", "--seed=--"] = .ok settings ∧
      settings.rom.contains '\x00' = false ∧ settings.cycles? = none ∧
      ¬ ∃ report, run settings 0 (fun _ => .error .missing) [[.quit]] = .ok report := by
  intro settings
  refine ⟨by decide +kernel, by simp [settings], rfl, ?_⟩
  rintro ⟨report, h⟩
  cases h

end Host

end Chip8
