import Chip8.Attempt
import Chip8.Bell
import Chip8.CodeAddress
import Chip8.CommandLine.Arguments
import Chip8.CommandLine.Execution
import Chip8.CommandLine.Files
import Chip8.CommandLine.Headless
import Chip8.CommandLine.Help
import Chip8.CommandLine.Invocation
import Chip8.CommandLine.Report
import Chip8.Config
import Chip8.Cpu
import Chip8.Cpu.Build
import Chip8.Cpu.Describe
import Chip8.Cpu.Request
import Chip8.Cpu.Step
import Chip8.Dialect
import Chip8.Display
import Chip8.Display.FrameBuffer
import Chip8.Display.Panel
import Chip8.Event
import Chip8.Fault
import Chip8.Host
import Chip8.Instruction
import Chip8.Json
import Chip8.Json.Printer
import Chip8.Json.Reader
import Chip8.Json.Text
import Chip8.Keypad
import Chip8.Main
import Chip8.Memory
import Chip8.Opcode
import Chip8.Opcode.Encoding
import Chip8.Opcode.Json
import Chip8.Picture
import Chip8.Picture.Cell
import Chip8.Picture.Title
import Chip8.Player
import Chip8.Player.View
import Chip8.Proofs.Config.Limits
import Chip8.Proofs.Config.Overlay
import Chip8.Proofs.Config.RoundTrip
import Chip8.Proofs.Cpu.Arithmetic
import Chip8.Proofs.Cpu.Batch
import Chip8.Proofs.Cpu.Calls
import Chip8.Proofs.Cpu.Confinement
import Chip8.Proofs.Cpu.Crash
import Chip8.Proofs.Cpu.DeadSlots
import Chip8.Proofs.Cpu.Diagnostics
import Chip8.Proofs.Cpu.Dialects
import Chip8.Proofs.Cpu.Drawing
import Chip8.Proofs.Cpu.Execution
import Chip8.Proofs.Cpu.FailedReset
import Chip8.Proofs.Cpu.Failure
import Chip8.Proofs.Cpu.History
import Chip8.Proofs.Cpu.Restart
import Chip8.Proofs.Cpu.Ringing
import Chip8.Proofs.Cpu.Soundness
import Chip8.Proofs.Cpu.Stepping
import Chip8.Proofs.Cpu.Storing
import Chip8.Proofs.Cpu.Stream
import Chip8.Proofs.Cpu.Ticking
import Chip8.Proofs.Cpu.Timing
import Chip8.Proofs.Cpu.Verdict
import Chip8.Proofs.Display.Clearing
import Chip8.Proofs.Display.Contract
import Chip8.Proofs.Display.Drawing
import Chip8.Proofs.Display.Views
import Chip8.Proofs.Encoding
import Chip8.Proofs.Host.Attachment
import Chip8.Proofs.Host.Driving
import Chip8.Proofs.Json.Grammar
import Chip8.Proofs.Json.Printing
import Chip8.Proofs.Json.Reading
import Chip8.Proofs.Json.Record
import Chip8.Proofs.Memory.Views
import Chip8.Proofs.Mnemonics
import Chip8.Proofs.Operands
import Chip8.Proofs.Player.Keys
import Chip8.Proofs.Player.Phases
import Chip8.Proofs.Session.Blocking
import Chip8.Proofs.Session.Delivery
import Chip8.Proofs.Session.Driving
import Chip8.Proofs.Session.Failure
import Chip8.Proofs.Session.History
import Chip8.Proofs.Session.Onset
import Chip8.Proofs.Session.Pace
import Chip8.Proofs.Session.Polling
import Chip8.Proofs.Session.Registration
import Chip8.Proofs.Session.Round
import Chip8.Proofs.Session.Running
import Chip8.Proofs.Session.Schedule
import Chip8.Proofs.Span
import Chip8.Proofs.Store.Commuting
import Chip8.Proofs.Store.DeadSlots
import Chip8.Proofs.Store.Effects
import Chip8.Proofs.Store.Operations
import Chip8.Proofs.Store.Plain
import Chip8.Proofs.Store.Refinement
import Chip8.Proofs.Store.Reset
import Chip8.Proofs.Store.Soundness
import Chip8.Random
import Chip8.Registers
import Chip8.ReturnStack
import Chip8.Scheduler
import Chip8.Store
import Chip8.Store.Effect
import Chip8.Store.Operation
import Chip8.Text.CharSet
import Chip8.Text.CharSet.Columns
import Chip8.Text.CharSet.Emoji
import Chip8.Text.CharSet.Joining
import Chip8.Text.Cluster
import Chip8.Text.Columns
import Chip8.Text.Description
import Chip8.Text.Duration
import Chip8.Text.Numeral
