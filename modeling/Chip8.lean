import Chip8.Nibble
import Chip8.Text.Case
import Chip8.Text.Digit
import Chip8.Text.Numeral
import Chip8.Text.Padded
import Chip8.Text.Printable
import Chip8.Text.Quoted
import Chip8.Text.Stamp
import Chip8.Memory
import Chip8.Stack
import Chip8.Keypad
import Chip8.Font
import Chip8.Display
import Chip8.Random
import Chip8.Instruction.Fields
import Chip8.Instruction.Arithmetic
import Chip8.Instruction.Basic
import Chip8.Machine.Basic
import Chip8.Machine.Execute
import Chip8.Machine.Cycle
import Chip8.Machine.Load
import Chip8.Machine.Run
import Chip8.Directory
import Chip8.Progress
import Chip8.Log.Level
import Chip8.Log.Console
import Chip8.Picture.Color
import Chip8.Picture.Basic
import Chip8.Picture.Checked
import Chip8.CommandLine.Entry
import Chip8.CommandLine.Settings
import Chip8.CommandLine.Usage
import Chip8.CommandLine.Word
import Chip8.CommandLine.Parse
import Chip8.Host.Notice
import Chip8.Host.Logger
import Chip8.Host.Window
import Chip8.Host.Run
import Chip8.Main
import Chip8.Proofs.InstructionTable
import Chip8.Proofs.Footprint
import Chip8.Proofs.HeldCycle
import Chip8.Proofs.Schedule
import Chip8.Proofs.UnknownOpcode
import Chip8.Proofs.MatchedCall
import Chip8.Proofs.AddressCongruence
import Chip8.Proofs.TimerAccount
import Chip8.Proofs.KeyWait
import Chip8.Proofs.ProgressReport
import Chip8.Proofs.WindowRun
import Chip8.Proofs.RandomStream
import Chip8.Proofs.KeyExchange
import Chip8.Proofs.ByteStorage
import Chip8.Proofs.ReachableState
import Chip8.Proofs.BlankSetting
import Chip8.Proofs.LoggerStep
import Chip8.Proofs.HostRun
import Chip8.Proofs.LevelOption
import Chip8.Proofs.LogLevel
import Chip8.Proofs.SoundIsolation
import Chip8.Proofs.ReadFootprint
import Chip8.Proofs.WriteFootprint
import Chip8.Proofs.NestedCalls
import Chip8.Proofs.SpriteLoop
import Chip8.Proofs.SpriteXor
import Chip8.Proofs.RegisterBlock
import Chip8.Proofs.RegisterArithmetic
import Chip8.Proofs.ProgramImage
import Chip8.Proofs.ControlTransfer
import Chip8.Proofs.PictureScaling
import Chip8.Proofs.StackRing
import Chip8.Proofs.DecimalDigits
import Chip8.Proofs.LastKeyEvent
import Chip8.Proofs.WideWord
import Chip8.Proofs.FieldCoding
import Chip8.Proofs.DocumentedTable
import Chip8.Proofs.ConsoleCalls
import Chip8.Proofs.WindowFit
