import Chip8.CommandLine.Entry
import Chip8.Host.Logger
import Chip8.Machine.Cycle
import Chip8.Picture.Basic

/-!
The window: one cycle and one picture a frame, after the key events of the frame. A wish to quit
ends the run only when its frame is complete. The window system takes whatever it is told.
-/

namespace Chip8

inductive Event
  | down (key : String)
  | up (key : String)
  | quit
  | other
deriving DecidableEq

/-- The events that arrived since the last frame, in order. -/
abbrev Frame := List Event

namespace Event

def escapeKey : String := "escape"

def stops : Event → Bool
  | quit => true
  | down key => key == escapeKey
  | _ => false

/-- The key event that reaches the keypad. -/
def key? : Event → Option KeyEvent
  | down key => if key = escapeKey then none else some (.named key true)
  | up key => some (.named key false)
  | _ => none

end Event

namespace Machine

def handle (m : Machine) (event : Event) : Machine :=
  match event.key? with
  | some key => m.press key
  | none => m

/-- The events of a frame and then one cycle. -/
def frame (m : Machine) (events : Frame) : Step := (events.foldl handle m).cycle

end Machine

namespace Window

open CommandLine (Entry)
open Host (RunError)

/-- What the window system is told. -/
inductive Call
  | opened
  | sized (width height : Int)
  /-- A blank scale makes no size. -/
  | unsized
  | titled (text : String)
  | ticked (fps : Entry Int)
  | closed
deriving DecidableEq

/-- How a window shows the machine, as it was entered. The frame rate is passed on as it is. -/
structure Look where
  scale : Entry Int
  fps : Entry Int
  scheme : Scheme
deriving DecidableEq

namespace Look

def size (look : Look) : Call :=
  match look.scale with
  | .blank => .unsized
  | .value scale => .sized (Display.width * scale) (Display.height * scale)

def picture (look : Look) (d : Display) : Except RunError Picture := do
  return .ofDisplay look.scheme (← look.scale.orError .blankScale) d

end Look

/-- What a window was told and what it has shown. -/
structure Shown where
  machine : Machine
  cycles : Nat := 0
  calls : List Call := []
  pictures : List Picture := []
  /-- Why the window did not go on, if nobody wished to quit. -/
  failure? : Option RunError := none
deriving DecidableEq

/-- A window and the log of its messages. -/
structure Session (σ : Type) extends Shown where
  log : σ

def title : String := "chipax"

def stepNotices (s : Step) : List Notice :=
  s.warning?.toList.map .unknownOpcode ++ (if s.machine.beep then [.beep] else [])

variable {σ : Type}

/-- The frames up to the first that stops or cannot be drawn. -/
def play (L : Logger σ) (look : Look) (m : Machine) (log : σ) : List Frame → Session σ
  | [] => { machine := m, log }
  | events :: rest =>
    let step := m.frame events
    let log := (stepNotices step).foldl L.say log
    match look.picture step.machine.display with
    | .error cause =>
      { machine := step.machine, cycles := 1, calls := [.ticked look.fps], failure? := some cause,
        log }
    | .ok picture =>
      let later :=
        if events.any Event.stops then { machine := step.machine, log }
        else play L look step.machine log rest
      { later with
        cycles := later.cycles + 1
        calls := .ticked look.fps :: later.calls
        pictures := picture :: later.pictures }

/-- A window from its opening to its closing. One that breaks off has no last word. -/
def run (L : Logger σ) (look : Look) (m : Machine) (frames : List Frame) (log : σ) : Session σ :=
  let played := play L look m (L.say log .controls) frames
  { played with
    calls := [.opened, look.size, .titled title] ++ played.calls ++ [.closed]
    log := if played.failure?.isSome then played.log else L.say played.log (.stopped played.cycles) }

end Window

end Chip8
