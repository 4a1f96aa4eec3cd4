import Scanout.Bench
import Scanout.Bench.Recorder
import Scanout.Bench.Script
import Scanout.Bench.Transcript
import Scanout.Checked
import Scanout.Chip
import Scanout.Command.Arguments
import Scanout.Command.Complaint
import Scanout.Command.DryRun
import Scanout.Command.ModeText
import Scanout.Command.Run
import Scanout.Config
import Scanout.Device
import Scanout.Display.Basic
import Scanout.Display.Operation
import Scanout.Display.Request
import Scanout.Edid
import Scanout.Error
import Scanout.Fault
import Scanout.Hardware
import Scanout.I2c.Address
import Scanout.I2c.BitBang
import Scanout.I2c.Controller
import Scanout.I2c.Error
import Scanout.I2c.Phase
import Scanout.I2c.Wire
import Scanout.Log
import Scanout.Main
import Scanout.Output.Id
import Scanout.Output.View
import Scanout.Output.Wiring
import Scanout.Pipe.Cursor
import Scanout.Pipe.ModeSet
import Scanout.Pipe.View
import Scanout.Pll
import Scanout.Power
import Scanout.Program
import Scanout.Proofs.Action
import Scanout.Proofs.Checked
import Scanout.Proofs.Device
import Scanout.Proofs.Device.Idle
import Scanout.Proofs.Display.Acceptance
import Scanout.Proofs.Display.Aperture
import Scanout.Proofs.Display.Board
import Scanout.Proofs.Display.Cached
import Scanout.Proofs.Display.Coherent
import Scanout.Proofs.Display.CoherentSession
import Scanout.Proofs.Display.Connector
import Scanout.Proofs.Display.Contained
import Scanout.Proofs.Display.Ending
import Scanout.Proofs.Display.Exclusive
import Scanout.Proofs.Display.Fallback
import Scanout.Proofs.Display.Faultless
import Scanout.Proofs.Display.Footprint
import Scanout.Proofs.Display.Idle
import Scanout.Proofs.Display.Independent
import Scanout.Proofs.Display.Monitor
import Scanout.Proofs.Display.Native
import Scanout.Proofs.Display.Outputs
import Scanout.Proofs.Display.Plan
import Scanout.Proofs.Display.Program
import Scanout.Proofs.Display.Programmed
import Scanout.Proofs.Display.Reach
import Scanout.Proofs.Display.Ready
import Scanout.Proofs.Display.Rejection
import Scanout.Proofs.Display.Restore
import Scanout.Proofs.Display.Resync
import Scanout.Proofs.Display.Session
import Scanout.Proofs.Display.Talk
import Scanout.Proofs.Display.Wiring
import Scanout.Proofs.Display.Words
import Scanout.Proofs.Edid.Eeprom
import Scanout.Proofs.Edid.Read
import Scanout.Proofs.Edid.Segment
import Scanout.Proofs.Hardware
import Scanout.Proofs.I2c.Acknowledge
import Scanout.Proofs.I2c.Bits
import Scanout.Proofs.I2c.Channel
import Scanout.Proofs.I2c.Conclusive
import Scanout.Proofs.I2c.Connector
import Scanout.Proofs.I2c.Containment
import Scanout.Proofs.I2c.Course
import Scanout.Proofs.I2c.Ends
import Scanout.Proofs.I2c.Framing
import Scanout.Proofs.I2c.Handback
import Scanout.Proofs.I2c.Lines
import Scanout.Proofs.I2c.Marks
import Scanout.Proofs.I2c.Move
import Scanout.Proofs.I2c.Observer
import Scanout.Proofs.I2c.Outcome
import Scanout.Proofs.I2c.Pads
import Scanout.Proofs.I2c.Payload
import Scanout.Proofs.I2c.Phase
import Scanout.Proofs.I2c.Polling
import Scanout.Proofs.I2c.Staging
import Scanout.Proofs.I2c.Tiling
import Scanout.Proofs.I2c.Transaction
import Scanout.Proofs.I2c.Waits
import Scanout.Proofs.Order.Lockup
import Scanout.Proofs.Order.ModeSet
import Scanout.Proofs.Order.Outputs
import Scanout.Proofs.Output.Coherent
import Scanout.Proofs.Output.Dark
import Scanout.Proofs.Output.Each
import Scanout.Proofs.Output.Lit
import Scanout.Proofs.Output.Sequence
import Scanout.Proofs.Output.Switch
import Scanout.Proofs.Pipe.Clock
import Scanout.Proofs.Pipe.Coherent
import Scanout.Proofs.Pipe.ModeSet
import Scanout.Proofs.Pipe.Programmed
import Scanout.Proofs.Pll
import Scanout.Proofs.Pll.Range
import Scanout.Proofs.Pll.Search
import Scanout.Proofs.Port
import Scanout.Proofs.Program.Contract
import Scanout.Proofs.Program.Guarded
import Scanout.Proofs.Program.Plays
import Scanout.Proofs.Program.Trace
import Scanout.Proofs.Recall
import Scanout.Proofs.Register.Packed
import Scanout.Proofs.Register.Region
import Scanout.Proofs.Register.Setter
import Scanout.Proofs.RegisterFile
import Scanout.Proofs.Snapshot
import Scanout.Proofs.Timing
import Scanout.Register.Address
import Scanout.Register.Ddc
import Scanout.Register.Encoder
import Scanout.Register.Field
import Scanout.Register.Mapping
import Scanout.Register.Packed
import Scanout.Register.Pipe
import Scanout.Snapshot
import Scanout.Surface
import Scanout.Text.Hex
import Scanout.Text.Layout
import Scanout.Text.Number
import Scanout.Timing.Axis
import Scanout.Timing.Cvt
import Scanout.Timing.Dmt
import Scanout.Timing.Mode
