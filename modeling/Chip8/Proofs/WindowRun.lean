import Chip8.Host.Window
import Chip8.Proofs.Schedule
import Mathlib.Data.List.OfFn

/-! The window as a run. It shows the frames up to the first that quits, and each of them stands
for the key events it has for the keypad and one cycle. -/

namespace Chip8

def Event.action? : Event → Option Action
  | .down name => if (Keypad.key? name).isSome then some (.key (.named name true)) else none
  | .up name => if (Keypad.key? name).isSome then some (.key (.named name false)) else none
  | _ => none

/-- The events of a frame that have a key on the keypad, and then a cycle. -/
def Frame.actions (events : Frame) : List Action := events.filterMap Event.action? ++ [.cycle]

def Frame.quits (events : Frame) : Bool :=
  events.contains .quit || events.contains (.down "escape")

theorem Frame.any_stops (events : Frame) : events.any Event.stops = Frame.quits events := by
  rw [Bool.eq_iff_iff]
  simp only [List.any_eq_true, Frame.quits, Bool.or_eq_true, List.contains_iff_mem]
  constructor
  · rintro ⟨e, he, hstops⟩
    cases e with
    | quit => exact .inl he
    | down key =>
      obtain rfl : key = "escape" := by simpa [Event.stops, Event.escapeKey] using hstops
      exact .inr he
    | up key => cases hstops
    | other => cases hstops
  · rintro (he | he)
    · exact ⟨.quit, he, rfl⟩
    · exact ⟨.down "escape", he, rfl⟩

namespace Machine

theorem press_of_unmapped (m : Machine) {name : String} (h : Keypad.key? name = none)
    (down : Bool) :
    m.press (.named name down) = m := by
  simp [press, Keypad.apply, h]

theorem handle_eq (m : Machine) (e : Event) :
    m.handle e = (m.play e.action?.toList).machine := by
  have hescape : Keypad.key? "escape" = none := by decide +kernel
  cases e with
  | down name =>
    by_cases hname : name = "escape"
    · subst hname
      simp [handle, Event.key?, Event.escapeKey, Event.action?, hescape, play]
    · cases hkey : Keypad.key? name with
      | none => simp [handle, Event.key?, Event.escapeKey, Event.action?, hname, hkey, play,
          press_of_unmapped m hkey]
      | some key => simp [handle, Event.key?, Event.escapeKey, Event.action?, hname, hkey, play,
          Run.act]
  | up name =>
    cases hkey : Keypad.key? name with
    | none => simp [handle, Event.key?, Event.action?, hkey, play, press_of_unmapped m hkey]
    | some key => simp [handle, Event.key?, Event.action?, hkey, play, Run.act]
  | quit => rfl
  | other => rfl

theorem foldl_handle (m : Machine) (events : List Event) :
    events.foldl handle m = (m.play (events.filterMap Event.action?)).machine := by
  induction events generalizing m with
  | nil => rfl
  | cons e rest ih =>
    have hsplit : (e :: rest).filterMap Event.action? =
        e.action?.toList ++ rest.filterMap Event.action? := by
      cases he : e.action? <;> simp [he]
    rw [List.foldl_cons, ih, handle_eq, hsplit, play_append]

/-- The steps of all frames up to the first that stops. -/
def frames (m : Machine) : List Frame → List Step
  | [] => []
  | events :: rest =>
    let step := m.frame events
    step :: (if events.any Event.stops then [] else step.machine.frames rest)

theorem machine_frame (m : Machine) (events : Frame) :
    (m.frame events).machine = (m.play (Frame.actions events)).machine := by
  rw [Frame.actions, play_concat, frame, foldl_handle]
  rfl

/-- The machine after the first frames of a window. -/
def afterFrames (m : Machine) (frames : List Frame) (count : Nat) : Machine :=
  (m.play ((frames.take count).flatMap Frame.actions)).machine

theorem afterFrames_cons (m : Machine) (events : Frame) (rest : List Frame) (count : Nat) :
    m.afterFrames (events :: rest) (count + 1) =
      (m.frame events).machine.afterFrames rest count := by
  rw [afterFrames, List.take_succ_cons, List.flatMap_cons, play_append, machine_frame]
  rfl

theorem afterFrames_succ (m : Machine) {frames : List Frame} {count : Nat}
    (hcount : count < frames.length) :
    m.afterFrames frames (count + 1) =
      ((m.afterFrames frames count).frame (frames[count]?.getD [])).machine := by
  have hsplit : (frames.take (count + 1)).flatMap Frame.actions =
      (frames.take count).flatMap Frame.actions ++ Frame.actions (frames[count]?.getD []) := by
    rw [List.take_add_one, List.getElem?_eq_getElem hcount, List.flatMap_append]
    simp
  rw [machine_frame, afterFrames, hsplit, play_append]
  rfl

theorem frames_eq (m : Machine) {frames : List Frame}
    (h : ∃ f ∈ frames, Frame.quits f = true) :
    m.frames frames = (List.range (frames.findIdx Frame.quits + 1)).map fun i =>
      (m.afterFrames frames i).frame (frames[i]?.getD []) := by
  induction frames generalizing m with
  | nil => simp at h
  | cons events rest ih =>
    rw [frames, Frame.any_stops, List.findIdx_cons, List.range_succ_eq_map, List.map_cons]
    cases hquits : Frame.quits events with
    | true => rfl
    | false =>
      have hrest : ∃ f ∈ rest, Frame.quits f = true := by simpa [hquits] using h
      have hfirst : (m.afterFrames (events :: rest) 0).frame events = m.frame events := rfl
      simp [ih (m.frame events).machine hrest, hfirst, afterFrames_cons]

theorem machines_frames (m : Machine) {frames : List Frame}
    (h : ∃ f ∈ frames, Frame.quits f = true) :
    (m.frames frames).map Step.machine =
      (List.range (frames.findIdx Frame.quits + 1)).map fun i => m.afterFrames frames (i + 1) := by
  rw [m.frames_eq h, List.map_map]
  refine List.map_congr_left fun i hi => ?_
  have hlast := List.findIdx_lt_length_of_exists h
  have hi := List.mem_range.mp hi
  exact (m.afterFrames_succ (by omega)).symm

/-- The machine after the first frames and the key events of the next. -/
def ready (m : Machine) (frames : List Frame) (count : Nat) : Machine :=
  ((m.afterFrames frames count).play
    ((frames[count]?.getD []).filterMap Event.action?)).machine

/-- The warning that the next cycle gives. -/
def unknownOpcode? (m : Machine) : Option Notice :=
  if Instruction.Known m.word then none else some (.unknownOpcode ⟨m.word.toNat, m.pc⟩)

/-- Without a key for the keypad a frame is no more than a cycle. -/
theorem afterFrames_of_unmapped (m : Machine) {frames : List Frame} {count : Nat}
    (hcount : count ≤ frames.length)
    (h : ∀ f ∈ frames.take count, ∀ name,
      Event.down name ∈ f ∨ Event.up name ∈ f → Keypad.key? name = none) :
    m.afterFrames frames count = (m.run count).machine := by
  have hactions : (frames.take count).flatMap Frame.actions = List.replicate count .cycle := by
    have hcycle : ∀ f ∈ frames.take count, Frame.actions f = [.cycle] := by
      intro f hf
      have hnone : ∀ e ∈ f, e.action? = none := by
        intro e he
        cases e with
        | down name => simp [Event.action?, h f hf name (.inl he)]
        | up name => simp [Event.action?, h f hf name (.inr he)]
        | quit => rfl
        | other => rfl
      rw [Frame.actions, List.filterMap_eq_nil_iff.mpr hnone]
      rfl
    rw [List.flatMap_congr hcycle, ← List.map_eq_flatMap, List.map_const', List.length_take,
      Nat.min_eq_left hcount]
  rw [afterFrames, hactions, run_eq_play, Int.toNat_natCast]

end Machine

theorem Notice.ne_beep_of_long {s t : String} (h : 4 < s.length) : s ++ t ≠ "Beep" := by
  intro he
  have hlength := congrArg String.length he
  have hbeep : "Beep".length = 4 := rfl
  rw [String.length_append] at hlength
  omega

theorem Notice.text_unknownOpcode_ne (w : Warning) : (unknownOpcode w).text ≠ "Beep" := by
  have htext : (unknownOpcode w).text = "Unknown opcode 0x" ++
      (Text.hexPadded 4 w.raw ++ (" at 0x" ++ Text.hexPadded 3 w.address.toNat)) := by
    simp only [← String.append_assoc]
    rfl
  rw [htext]
  exact ne_beep_of_long (by decide)

theorem Notice.text_stopped_ne (cycles : Nat) : (stopped cycles).text ≠ "Beep" := by
  have htext : (stopped cycles).text = "Stopped after " ++ (toString cycles ++ " cycles") := by
    simp only [← String.append_assoc]
    rfl
  rw [htext]
  exact ne_beep_of_long (by decide)

theorem Picture.rows_ofDisplay_replicate (scheme : Scheme) (scale : Int) (lit : Bool) :
    (ofDisplay scheme scale (Vector.replicate 2048 lit)).rows =
      List.replicate (32 * side scale)
        (List.replicate (64 * side scale) (if lit then scheme.on else scheme.off)) := by
  have hgrid : Display.grid (Vector.replicate 2048 lit) =
      List.replicate 32 (List.replicate 64 lit) := by
    simp only [Display.grid, Vector.getElem_replicate, List.ofFn_const]
  rw [ofDisplay, paint, hgrid]
  simp only [List.map_replicate, stretch_replicate]

namespace Window

/-- A look with a scale. -/
structure Style where
  scale : Int
  fps : CommandLine.Entry Int
  scheme : Scheme

def Style.look (style : Style) : Look := ⟨.value style.scale, style.fps, style.scheme⟩

/-- The run of a window of its own, with every message taken down. -/
def session (style : Style) (m : Machine) (frames : List Frame) : Session (Array Notice) :=
  run .recorder style.look m frames #[]

/-- The lines of a log at some level while the window is open. -/
def Session.lines (s : Session (Array Notice)) (level : Level) : List String :=
  (s.log.toList.filter (level ≤ ·.level)).map Notice.text

theorem foldl_recorder (notices : List Notice) (log : Array Notice) :
    notices.foldl Logger.recorder.say log = log ++ notices := by
  induction notices generalizing log with
  | nil => simp
  | cons notice rest ih =>
    rw [List.foldl_cons, ih]
    simp

/-- With a scale a window shows every frame, one cycle and one picture each. -/
theorem play_eq {σ : Type} (L : Logger σ) (style : Style) (m : Machine) (log : σ)
    (frames : List Frame) :
    play L style.look m log frames =
      { machine := ((m.frames frames).getLast?.map Step.machine).getD m
        cycles := (m.frames frames).length
        calls := (m.frames frames).map fun _ => .ticked style.fps
        pictures := (m.frames frames).map fun s =>
          .ofDisplay style.scheme style.scale s.machine.display
        log := ((m.frames frames).flatMap stepNotices).foldl L.say log } := by
  induction frames generalizing m log with
  | nil => rfl
  | cons events rest ih =>
    have hpicture (d : Display) :
        style.look.picture d = .ok (.ofDisplay style.scheme style.scale d) := rfl
    simp only [play, hpicture, Machine.frames]
    cases events.any Event.stops with
    | true => simp [Style.look]
    | false =>
      rw [if_neg (by simp), if_neg (by simp), ih]
      simp [Style.look, List.getLast?_cons]

theorem session_eq (style : Style) (m : Machine) (frames : List Frame) :
    session style m frames =
      { machine := ((m.frames frames).getLast?.map Step.machine).getD m
        cycles := (m.frames frames).length
        calls :=
          [.opened, .sized (64 * style.scale) (32 * style.scale), .titled "chipax"] ++
            (m.frames frames).map (fun _ => .ticked style.fps) ++ [.closed]
        pictures := (m.frames frames).map fun s =>
          .ofDisplay style.scheme style.scale s.machine.display
        log := (Notice.controls :: (m.frames frames).flatMap stepNotices ++
          [Notice.stopped (m.frames frames).length]).toArray } := by
  rw [session, run, play_eq, foldl_recorder]
  simp [Look.size, Style.look, title, Display.width, Display.height]

theorem stepNotices_frame (m : Machine) (events : Frame) :
    stepNotices (m.frame events) =
      (m.play (events.filterMap Event.action?)).machine.unknownOpcode?.toList ++
        if (m.frame events).machine.beep then [.beep] else [] := by
  have hwarning : (m.frame events).warning? =
      (m.play (events.filterMap Event.action?)).machine.cycle.warning? := by
    rw [Machine.frame, Machine.foldl_handle]
  rw [stepNotices, hwarning, Machine.warning?_cycle, Machine.unknownOpcode?]
  split <;> rfl

/-- The messages on the frames of a window: an unknown opcode, and then the beep. -/
theorem flatMap_stepNotices_frames (m : Machine) {frames : List Frame}
    (h : ∃ f ∈ frames, Frame.quits f = true) :
    (m.frames frames).flatMap stepNotices =
      (List.range (frames.findIdx Frame.quits + 1)).flatMap fun i =>
        (m.ready frames i).unknownOpcode?.toList ++
          if (m.afterFrames frames (i + 1)).beep then [.beep] else [] := by
  rw [m.frames_eq h, List.flatMap_map]
  refine List.flatMap_congr fun i hi => ?_
  have hlast := List.findIdx_lt_length_of_exists h
  have hi := List.mem_range.mp hi
  rw [stepNotices_frame, m.afterFrames_succ (by omega), Machine.ready]

theorem count_stepNotices (s : Step) :
    ((stepNotices s).map Notice.text).count "Beep" = if s.machine.beep then 1 else 0 := by
  have hbeep : Notice.beep.text = "Beep" := rfl
  cases hw : s.warning? <;> cases hb : s.machine.beep <;>
    simp [stepNotices, hw, hb, hbeep, Notice.text_unknownOpcode_ne]

theorem count_flatMap_stepNotices (steps : List Step) :
    ((steps.flatMap stepNotices).map Notice.text).count "Beep" =
      (steps.map Step.machine).countP Machine.beep := by
  induction steps with
  | nil => rfl
  | cons s rest ih =>
    rw [List.flatMap_cons, List.map_append, List.count_append, ih, count_stepNotices, List.map_cons,
      List.countP_cons, Nat.add_comm]

theorem lines_debug (s : Session (Array Notice)) :
    s.lines .debug = s.log.toList.map Notice.text := by
  have hall : s.log.toList.filter (Level.debug ≤ ·.level) = s.log.toList := by
    apply List.filter_eq_self.mpr
    intro notice _
    cases notice <;> rfl
  rw [Session.lines, hall]

theorem getLast?_lines (style : Style) (m : Machine) (frames : List Frame) {level : Level}
    (hlevel : level ≤ .info) :
    ((session style m frames).lines level).getLast? =
      some ("Stopped after " ++ toString (m.frames frames).length ++ " cycles") := by
  have hshown : level ≤ (Notice.stopped (m.frames frames).length).level := hlevel
  rw [Session.lines, session_eq]
  simp [hshown]
  rfl

theorem machine_session (style : Style) (m : Machine) {frames : List Frame}
    (h : ∃ f ∈ frames, Frame.quits f = true) :
    (session style m frames).machine = m.afterFrames frames (frames.findIdx Frame.quits + 1) := by
  have hlast : ((m.frames frames).map Step.machine).getLast? =
      some (m.afterFrames frames (frames.findIdx Frame.quits + 1)) := by
    rw [m.machines_frames h, List.range_succ, List.map_append]
    simp
  rw [List.getLast?_map] at hlast
  rw [session_eq, hlast]
  rfl

theorem count_session (style : Style) (m : Machine) (frames : List Frame) :
    ((session style m frames).lines .debug).count "Beep" =
      ((m.frames frames).map Step.machine).countP Machine.beep := by
  have hcontrols : Notice.controls.text ≠ "Beep" := by decide
  rw [lines_debug, ← count_flatMap_stepNotices, session_eq]
  simp [hcontrols, Notice.text_stopped_ne]

/-- A window shows the frames up to the first that quits, which is completed. Each stands for its
key events and one cycle, one picture and one tick, and without key events the machine ends as it
would without a window. The log tells of every cycle on an unknown opcode and of every beep, in
order. -/
theorem session_run (style : Style) (m : Machine) (frames : List Frame)
    (hquits : ∃ f ∈ frames, Event.quit ∈ f ∨ Event.down "escape" ∈ f) :
    let last := frames.findIdx Frame.quits
    let shown := session style m frames
    shown.machine = m.afterFrames frames (last + 1) ∧
    shown.calls =
      [.opened, .sized (64 * style.scale) (32 * style.scale), .titled "chipax"] ++
        List.replicate (last + 1) (.ticked style.fps) ++ [.closed] ∧
    shown.pictures = (List.range (last + 1)).map (fun i =>
      .ofDisplay style.scheme style.scale (m.afterFrames frames (i + 1)).display) ∧
    shown.log.toList =
      .controls :: (List.range (last + 1)).flatMap (fun i =>
        (m.ready frames i).unknownOpcode?.toList ++
          if (m.afterFrames frames (i + 1)).beep then [.beep] else []) ++
        [.stopped (last + 1)] ∧
    (shown.lines .debug).count "Beep" =
      (List.range (last + 1)).countP (fun i => (m.afterFrames frames (i + 1)).beep) ∧
    (∀ level, level ≤ Level.info → (shown.lines level).getLast? =
      some ("Stopped after " ++ toString (last + 1) ++ " cycles")) ∧
    ((∀ f ∈ frames.take (last + 1), ∀ name,
        Event.down name ∈ f ∨ Event.up name ∈ f → Keypad.key? name = none) →
      shown.machine = (m.run (last + 1 : Nat)).machine) := by
  intro last shown
  have hsome : ∃ f ∈ frames, Frame.quits f = true := by simpa [Frame.quits] using hquits
  have hshown : shown = _ := session_eq style m frames
  have hmachines := m.machines_frames hsome
  have hlength : (m.frames frames).length = last + 1 := by
    simpa [last] using congrArg List.length hmachines
  refine ⟨machine_session style m hsome, ?_, ?_, ?_, ?_, ?_, ?_⟩
  · have hticks : (m.frames frames).map (fun _ => Call.ticked style.fps) =
        List.replicate (last + 1) (.ticked style.fps) := by
      rw [List.map_const', hlength]
    rw [hshown, ← hticks]
  · have hpictures := congrArg
      (List.map fun s : Machine => Picture.ofDisplay style.scheme style.scale s.display) hmachines
    rw [List.map_map, List.map_map] at hpictures
    rw [hshown]
    exact hpictures
  · rw [hshown, hlength, flatMap_stepNotices_frames m hsome]
  · rw [count_session, hmachines, List.countP_map]
    rfl
  · intro level hlevel
    rw [← hlength]
    exact getLast?_lines style m frames hlevel
  · intro hunmapped
    rw [machine_session style m hsome]
    exact m.afterFrames_of_unmapped (List.findIdx_lt_length_of_exists hsome) hunmapped

/-- A program that sounds and then clears the display, which is all lit. -/
def chime : Machine :=
  { (Machine.create 0).setRegister 1 1 with
    memory := Memory.blank.writeBlock 0 [0xF1, 0x18, 0x00, 0xE0], pc := 0
    display := Vector.replicate 2048 true }

/-- A key goes down, and comes up after the wish to quit, when another goes down. -/
def closing : List Frame :=
  [[.down "q"], [.down "escape", .up "Q", .down "w"], [.down "e"]]

theorem session_run_chime :
    let shown := session ⟨1, .value 60, .amber⟩ chime closing
    (∃ f ∈ closing, Event.quit ∈ f ∨ Event.down "escape" ∈ f) ∧
      shown.machine.keypad.pressed = [5] ∧
      shown.pictures.map Picture.rows =
        [List.replicate 32 (List.replicate 64 ⟨255, 176, 0⟩),
          List.replicate 32 (List.replicate 64 ⟨0, 0, 0⟩)] ∧
      shown.log.toList = [.controls, .beep, .stopped 2] ∧
      (shown.lines .debug).count "Beep" = 1 ∧
      (shown.lines .info).getLast? = some "Stopped after 2 cycles" := by
  have hquits : ∃ f ∈ closing, Event.quit ∈ f ∨ Event.down "escape" ∈ f := by decide
  have hlast : closing.findIdx Frame.quits = 1 := by decide
  obtain ⟨hmachine, -, hpictures, hlog, hbeeps, hstopped, -⟩ :=
    session_run ⟨1, .value 60, .amber⟩ chime closing hquits
  rw [hlast] at hmachine hpictures hlog hbeeps hstopped
  refine ⟨hquits, ?_, ?_, ?_, ?_, hstopped .info (by decide)⟩
  · rw [hmachine]
    decide +kernel
  · have hfirst : (chime.afterFrames closing 1).display = Vector.replicate 2048 true := rfl
    have hsecond : (chime.afterFrames closing 2).display = Vector.replicate 2048 false := rfl
    have hrange : List.range (1 + 1) = [0, 1] := rfl
    rw [hpictures, hrange]
    simp only [List.map_cons, List.map_nil, hfirst, hsecond, Picture.rows_ofDisplay_replicate]
    rfl
  · rw [hlog]
    decide +kernel
  · rw [hbeeps]
    decide +kernel

end Window

end Chip8
