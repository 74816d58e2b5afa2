import Chip8.Host.Run

/-! Runs with different loggers. A run tells its logger what there is to say and looks at nothing
that the logger makes of it. Logs that stay related message by message are therefore related after
the whole run, and the runs have everything else in common. -/

namespace Chip8

variable {σ τ : Type}

/-- Whatever is said to both loggers, related logs stay related. -/
def Logger.InStep (L : Logger σ) (K : Logger τ) (R : σ → τ → Prop) : Prop :=
  ∀ s t, R s t → ∀ notice, R (L.say s notice) (K.say t notice)

/-- Windows that were told and have shown the same, with related logs. -/
structure Window.Session.Agrees (R : σ → τ → Prop) (s : Session σ) (t : Session τ) : Prop where
  shown : s.toShown = t.toShown
  log : R s.log t.log

/-- Runs that leave the same behind but for their logs, which are related. -/
structure Host.Outcome.Agrees (R : σ → τ → Prop) (o : Outcome σ) (p : Outcome τ) : Prop where
  ending : o.ending = p.ending
  log : R o.log p.log
  bar : o.bar = p.bar
  machine : o.machine? = p.machine?
  window : o.window? = p.window?

section Run

variable {L : Logger σ} {K : Logger τ} {R : σ → τ → Prop} (hstep : L.InStep K R)
  {s : σ} {t : τ} (h : R s t)

include hstep h

theorem Logger.foldl_inStep (notices : List Notice) :
    R (notices.foldl L.say s) (notices.foldl K.say t) :=
  List.foldl_rel h fun notice _ s t h => hstep s t h notice

namespace Window

theorem play_agrees (look : Look) (m : Machine) (frames : List Frame) :
    (play L look m s frames).Agrees R (play K look m t frames) := by
  induction frames generalizing m s t with
  | nil => exact ⟨rfl, h⟩
  | cons events rest ih =>
    have hsaid := Logger.foldl_inStep hstep h (stepNotices (m.frame events))
    simp only [play]
    cases look.picture (m.frame events).machine.display with
    | error cause => exact ⟨rfl, hsaid⟩
    | ok picture =>
      cases events.any Event.stops with
      | true => exact ⟨rfl, hsaid⟩
      | false =>
        obtain ⟨hshown, hlog⟩ := ih hsaid (m.frame events).machine
        refine ⟨?_, hlog⟩
        simp [hshown]

theorem run_agrees (look : Look) (m : Machine) (frames : List Frame) :
    (run L look m frames s).Agrees R (run K look m frames t) := by
  obtain ⟨hshown, hlog⟩ := play_agrees hstep (hstep s t h .controls) look m frames
  refine ⟨by simp [run, hshown], ?_⟩
  simp only [run, hshown]
  split
  case isTrue => exact hlog
  case isFalse => exact hstep _ _ hlog _

end Window

namespace Host

theorem headless_agrees (m : Machine) (cycles : Int) :
    (headless L m cycles s).Agrees R (headless K m cycles t) := by
  unfold headless
  cases m.runReported? cycles with
  | error cause => exact ⟨rfl, h, rfl, rfl, rfl⟩
  | ok done => exact ⟨rfl, hstep _ _ (Logger.foldl_inStep hstep h _) _, rfl, rfl, rfl⟩

theorem windowed_agrees (m : Machine) (look : Window.Look) (frames : List Frame) :
    (windowed L m look frames s).Agrees R (windowed K m look frames t) := by
  obtain ⟨hshown, hlog⟩ := Window.run_agrees hstep h look m frames
  simp only [windowed, hshown]
  split
  · exact ⟨rfl, hlog, rfl, rfl, rfl⟩
  · exact ⟨rfl, hlog, rfl, rfl, rfl⟩

theorem serve_agrees (settings : CommandLine.Settings) (m : Machine) (frames : List Frame) :
    (serve L settings m frames s).Agrees R (serve K settings m frames t) := by
  unfold serve
  split
  · exact ⟨rfl, h, rfl, rfl, rfl⟩
  · exact headless_agrees hstep h m _
  · exact ⟨rfl, h, rfl, rfl, rfl⟩
  · exact windowed_agrees hstep h m _ frames

theorem start_agrees (settings : CommandLine.Settings) (clock : Int) (files : Files)
    (frames : List Frame) :
    (start L settings clock files frames s).Agrees R
      (start K settings clock files frames t) := by
  unfold start
  cases seed settings clock with
  | error cause => exact ⟨rfl, h, rfl, rfl, rfl⟩
  | ok entropy =>
    dsimp only
    split
    · exact ⟨rfl, h, rfl, rfl, rfl⟩
    · exact ⟨rfl, hstep s t h _, rfl, rfl, rfl⟩
    · exact serve_agrees hstep (hstep s t h _) settings _ frames

end Host

end Run

end Chip8
