import Chip8.Host.Notice
import Chip8.Log.Console

/-!
Loggers: what becomes of the messages of a run. A run is told to one without looking at what the
logger makes of it.
-/

namespace Chip8

structure Logger (σ : Type) where
  setLevel : σ → Level → σ
  say : σ → Notice → σ

/-- A console in use, with the lines that it has printed and their levels. -/
structure Printout where
  console : Console
  /-- The messages so far, printed or not. -/
  said : Nat := 0
  lines : Array (Level × String) := #[]
deriving DecidableEq

namespace Logger

/-- Takes down every message. -/
def recorder : Logger (Array Notice) where
  setLevel notices _ := notices
  say := Array.push

@[simp] theorem setLevel_recorder (notices : Array Notice) (level : Level) :
    recorder.setLevel notices level = notices := rfl

@[simp] theorem say_recorder (notices : Array Notice) (notice : Notice) :
    recorder.say notices notice = notices.push notice := rfl

/-- Prints on a console. The `i`th message comes at `times i`. -/
def printer (times : Nat → Int) : Logger Printout where
  setLevel p level :=
    match p.console.serve (times p.said) (.setThreshold level.name) with
    | .ok (console, _) => { p with console }
    | .error _ => p
  say p notice :=
    let text := p.console.print (times p.said) notice.level notice.text
    { p with
      said := p.said + 1
      lines := if text = "" then p.lines else p.lines.push (notice.level, text) }

end Logger

end Chip8
