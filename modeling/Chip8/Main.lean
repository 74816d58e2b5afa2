import Chip8.Host.Run

/-!
The program itself. There is no window here: frames are read from standard input, a line of
events each, and what the window would show last is drawn in text.
-/

namespace Chip8.Main

/-- A failure by its number, which some calls give negated. -/
def systemError (number : UInt32) (reason : String) : FileError :=
  let number := if number.toNat < 0x80000000 then number.toNat else 0x100000000 - number.toNat
  (FileError.all.find? (·.number == number)).getD ⟨number, reason⟩

def fileError : IO.Error → FileError
  | .noFileOrDirectory .. => .missing
  | .inappropriateType _ number reason
  | .permissionDenied _ number reason
  | .invalidArgument _ number reason => systemError number reason
  | e => ⟨5, toString e⟩

def readFile (name : String) : IO (Except FileError (List UInt8)) := do
  try return .ok (← IO.FS.readBinFile name).toList
  catch e => return .error (fileError e)

/-- The events of a line, such as `down q, up q, quit`. -/
def frameOfLine (line : String) : Frame :=
  (line.trimAscii.toString.splitOn ",").map fun part =>
    match part.trimAscii.toString.splitOn " " with
    | ["down", key] => .down key
    | ["up", key] => .up key
    | ["quit"] => .quit
    | _ => .other

partial def readFrames (input : IO.FS.Stream) (frames : Array Frame) : IO (List Frame) := do
  let line ← input.getLine
  if line.isEmpty then return (frames.push [.quit]).toList
  readFrames input (frames.push (frameOfLine line))

def drawing (d : Display) : String :=
  String.join (d.grid.map fun row =>
    String.ofList (row.map fun lit => if lit then '#' else '.') ++ "\n")

/-- The time on the clock of a console. -/
def now (console : Console) : IO Int := do
  return Int.ofNat ((← IO.monoNanosNow) * (1 <<< console.bits) / 1000000000)

/-- The run is over before anything of it is printed, so that all lines have the same time. -/
def start (settings : CommandLine.Settings) : IO UInt32 := do
  let console : Console := {}
  let opened ← now console
  let contents ← readFile settings.rom
  let frames ← if settings.cycles?.isSome then pure [] else readFrames (← IO.getStdin) #[]
  let time ← now console
  let outcome := Host.runWith (.printer fun _ => time) settings (← IO.monoNanosNow)
    (fun _ => contents) frames { console := { console with start := opened } }
  for line in outcome.log.lines do IO.print line.2
  match outcome.ending with
  | .ok status =>
    if let some shown := outcome.window? then IO.print (drawing shown.machine.display)
    return status.toUInt32
  | .error cause =>
    IO.eprintln cause.message
    return 1

end Chip8.Main

def main (arguments : List String) : IO UInt32 := do
  match Chip8.CommandLine.parse arguments with
  | .error ending =>
    IO.print ending.output
    IO.eprint ending.errorOutput
    return ending.code.toUInt32
  | .ok settings => Chip8.Main.start settings
