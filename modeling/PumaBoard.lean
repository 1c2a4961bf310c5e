import PumaBoard.Aperture.Layout
import PumaBoard.Aperture.Memory
import PumaBoard.Bytes
import PumaBoard.CommandLine.Arguments
import PumaBoard.CommandLine.TraceRunner
import PumaBoard.Config.Basic
import PumaBoard.Config.File
import PumaBoard.Config.Override
import PumaBoard.Coprocessor.Basic
import PumaBoard.Coprocessor.Bus
import PumaBoard.Coprocessor.Command
import PumaBoard.Coprocessor.Drain
import PumaBoard.Coprocessor.RegisterFile
import PumaBoard.Coprocessor.Snapshot
import PumaBoard.Counters
import PumaBoard.Environment.File
import PumaBoard.Environment.Line
import PumaBoard.Environment.Value
import PumaBoard.Error
import PumaBoard.FastFill
import PumaBoard.Fog
import PumaBoard.Host.Bank
import PumaBoard.Host.Basic
import PumaBoard.Host.Cursor
import PumaBoard.Host.RectFill
import PumaBoard.Host.Registers
import PumaBoard.Host.VideoMemory
import PumaBoard.Host.Window
import PumaBoard.Main
import PumaBoard.Notice
import PumaBoard.Numeric.Binary32
import PumaBoard.Register.Descriptor
import PumaBoard.Register.File
import PumaBoard.Register.Flags
import PumaBoard.Register.Map
import PumaBoard.Render.Block
import PumaBoard.Render.Call
import PumaBoard.Ring.Basic
import PumaBoard.Ring.Packet
import PumaBoard.SaveState.Basic
import PumaBoard.SaveState.Codec
import PumaBoard.SaveState.Parts
import PumaBoard.Surface
import PumaBoard.Swap
import PumaBoard.Tasks.Basic
import PumaBoard.Tasks.Command
import PumaBoard.Tasks.Run
import PumaBoard.Tasks.Tree
import PumaBoard.Text.Alphanumeric
import PumaBoard.Text.Blank
import PumaBoard.Text.Hex
import PumaBoard.Text.Json
import PumaBoard.Text.Number
import PumaBoard.Text.Printable
import PumaBoard.Text.Quoted
import PumaBoard.Text.Ranges
import PumaBoard.Time.Calendar
import PumaBoard.Time.Stamp
import PumaBoard.Toml.Document
import PumaBoard.Toml.Quoted
import PumaBoard.Toml.Scalar
import PumaBoard.Toml.Statement
import PumaBoard.Toml.Token
import PumaBoard.Toml.Value
import PumaBoard.Trace.Access
import PumaBoard.Trace.Run
import PumaBoard.Trace.Script
import PumaBoard.Trace.Summary
import PumaBoard.Triangle.Field
import PumaBoard.Triangle.Setup
import PumaBoard.Window
import PumaBoard.Word
import PumaBoard.Proofs.Word.Number
import PumaBoard.Proofs.Word.Lanes
import PumaBoard.Proofs.Memory.Words
import PumaBoard.Proofs.Memory.Flat
import PumaBoard.Proofs.Memory.Painted
import PumaBoard.Proofs.Ring.Geometry
import PumaBoard.Proofs.Coprocessor.Backdrop
import PumaBoard.Proofs.Coprocessor.Operation
import PumaBoard.Proofs.Coprocessor.Past
import PumaBoard.Proofs.Coprocessor.Steps
import PumaBoard.Proofs.Coprocessor.Swaps
import PumaBoard.Proofs.Coprocessor.Stopped
import PumaBoard.Proofs.Coprocessor.Invariant
import PumaBoard.Proofs.Coprocessor.Banks
import PumaBoard.Proofs.Coprocessor.Calls
import PumaBoard.Proofs.Coprocessor.Outside
import PumaBoard.Proofs.Coprocessor.Resume
import PumaBoard.Proofs.Coprocessor.History
import PumaBoard.Proofs.Coprocessor.NarrowAccess
import PumaBoard.Proofs.Coprocessor.NarrowFields
import PumaBoard.Proofs.Coprocessor.Masked
import PumaBoard.Proofs.Coprocessor.PlainMemory
import PumaBoard.Proofs.Coprocessor.Footprint
import PumaBoard.Proofs.Ring.Pairs
import PumaBoard.Proofs.Ring.Stream
import PumaBoard.Proofs.Ring.Batch
import PumaBoard.Proofs.Ring.NarrowPairs
import PumaBoard.Proofs.Ring.Group
import PumaBoard.Proofs.Ring.Execution
import PumaBoard.Proofs.Ring.Containment
import PumaBoard.Proofs.Ring.Threshold
import PumaBoard.Proofs.Arithmetic.Exact
import PumaBoard.Proofs.SaveState.Lawful
import PumaBoard.Proofs.SaveState.Number
import PumaBoard.Proofs.SaveState.RoundTrip
import PumaBoard.Proofs.SaveState.Loaded
import PumaBoard.Proofs.Render.Described
import PumaBoard.Proofs.Arithmetic.InRange
import PumaBoard.Proofs.Arithmetic.Overflow
import PumaBoard.Proofs.Render.Queued
import PumaBoard.Proofs.Triangle.Formats
import PumaBoard.Proofs.Render.Replayed
import PumaBoard.Proofs.Coprocessor.Internal
import PumaBoard.Proofs.Render.Transcript
import PumaBoard.Proofs.Render.Coherence
import PumaBoard.Proofs.Render.Drawn
import PumaBoard.Proofs.Render.Drawings
import PumaBoard.Proofs.Host.Access
import PumaBoard.Proofs.Host.Bridge
import PumaBoard.Proofs.Host.Disabled
import PumaBoard.Proofs.Host.Reads
import PumaBoard.Proofs.Host.Effects
import PumaBoard.Proofs.Host.Events
import PumaBoard.Proofs.Host.Stored
import PumaBoard.Proofs.Host.Cursor
import PumaBoard.Proofs.Host.Rectangle
import PumaBoard.Proofs.Text.Numeral
import PumaBoard.Proofs.Text.Pieces
import PumaBoard.Proofs.Trace.Language
import PumaBoard.Proofs.Trace.Scripts
import PumaBoard.Proofs.Host.Circle
