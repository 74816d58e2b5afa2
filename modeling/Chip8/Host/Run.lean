import Chip8.CommandLine.Parse
import Chip8.Host.Window
import Chip8.Machine.Run

/-!
A run of the program from its settings to its exit status: load the ROM, then either count off
cycles or keep a window until it is closed. Whatever there is to say is told to a logger.
-/

namespace Chip8.Host

open CommandLine (Settings)

/-- What a run leaves behind, however it ends. -/
structure Outcome (σ : Type) where
  /-- The exit status, or why the run broke off. -/
  ending : Except RunError Nat
  log : σ
  bar : List (Progress.Call Empty) := []
  /-- The machine at the end, if one is left. -/
  machine? : Option Machine := none
  window? : Option Window.Shown := none

variable {σ : Type} (L : Logger σ)

/-- A fixed number of cycles without a window, and a look at the registers. -/
def headless (m : Machine) (cycles : Int) (log : σ) : Outcome σ :=
  match m.runReported? cycles with
  | .error cause => { ending := .error (.counter cause), log }
  | .ok done =>
    let warned := (done.carry.warnings.toList.map Notice.unknownOpcode).foldl L.say log
    { ending := .ok 0
      log := L.say warned (.ofRegisters done.carry.machine)
      bar := done.calls.toList
      machine? := some done.carry.machine }

def windowed (m : Machine) (look : Window.Look) (frames : List Frame) (log : σ) : Outcome σ :=
  let session := Window.run L look m frames log
  match session.failure? with
  | some cause =>
    { ending := .error cause, log := session.log, window? := some session.toShown }
  | none =>
    { ending := .ok 0
      log := session.log
      machine? := some session.machine
      window? := some session.toShown }

/-- The seed of a run, the clock if none is given. -/
def seed (settings : Settings) (clock : Int) : Except RunError Int :=
  match settings.seed? with
  | some seed => seed.orError .blankSeed
  | none => .ok clock

/-- Without a window if the cycles are counted, else with one. -/
def serve (settings : Settings) (m : Machine) (frames : List Frame) (log : σ) : Outcome σ :=
  match settings.cycles?, settings.scheme with
  | some .blank, _ => { ending := .error .blankCycles, log }
  | some (.value cycles), _ => headless L m cycles log
  | none, .blank => { ending := .error .blankScheme, log }
  | none, .value scheme => windowed L m ⟨settings.scale, settings.fps, scheme⟩ frames log

/-- A run with given settings after the level of its log is set. A ROM that cannot be loaded ends
the run, except that no run is possible at all with an invalid name. -/
def start (settings : Settings) (clock : Int) (files : Files) (frames : List Frame) (log : σ) :
    Outcome σ :=
  match seed settings clock with
  | .error cause => { ending := .error cause, log }
  | .ok entropy =>
    match (Machine.create entropy).loadFile files settings.rom with
    | .error .invalidName => { ending := .error (.load .invalidName), log }
    | .error cause => { ending := .ok 1, log := L.say log (.rejected cause) }
    | .ok m => serve L settings m frames (L.say log (.loaded settings.rom))

/-- A run with given settings. Those that must not be blank are asked for when they are needed: the
level first, the seed next, and the others after the ROM is loaded. -/
def runWith (settings : Settings) (clock : Int) (files : Files) (frames : List Frame) (log : σ) :
    Outcome σ :=
  match settings.level with
  | .blank => { ending := .error .blankLevel, log }
  | .value level => start L settings clock files frames (L.setLevel log level)

end Chip8.Host
