import TegraGpu.Bench.Arguments
import TegraGpu.Bench.Dump
import TegraGpu.Bench.Report
import TegraGpu.Bench.Run
import TegraGpu.Bench.Test
import TegraGpu.Binary32.Decode
import TegraGpu.Binary32.Fixed
import TegraGpu.Binary32.Nearest
import TegraGpu.Binary32.Read
import TegraGpu.Binary32.Shortest
import TegraGpu.Buffer.Basic
import TegraGpu.Buffer.Object
import TegraGpu.Chip
import TegraGpu.Cli.Args
import TegraGpu.Cli.Clock
import TegraGpu.Cli.Environment
import TegraGpu.Cli.Run
import TegraGpu.Display.Context
import TegraGpu.Error
import TegraGpu.Folder
import TegraGpu.Host.Calls
import TegraGpu.Host.Device
import TegraGpu.Host.Handle
import TegraGpu.Intercept.Loopback
import TegraGpu.Intercept.Registry
import TegraGpu.Log
import TegraGpu.Machine
import TegraGpu.Main
import TegraGpu.Options
import TegraGpu.Options.Read
import TegraGpu.Raster.Engine
import TegraGpu.Raster.Primitive
import TegraGpu.Raster.State
import TegraGpu.Raster.Triangle
import TegraGpu.Regex.Ast
import TegraGpu.Regex.Automaton
import TegraGpu.Regex.Fault
import TegraGpu.Regex.Footprint
import TegraGpu.Regex.Interval
import TegraGpu.Regex.Meaning
import TegraGpu.Regex.Parse
import TegraGpu.Regex.Translate
import TegraGpu.Script.Command
import TegraGpu.Script.Displays
import TegraGpu.Script.Drawing
import TegraGpu.Script.Files
import TegraGpu.Script.Memory
import TegraGpu.Script.Run
import TegraGpu.Script.Session
import TegraGpu.Script.Surfaces
import TegraGpu.Shader.Basic
import TegraGpu.Shader.Load
import TegraGpu.Shader.Parser
import TegraGpu.Shader.Program
import TegraGpu.Surface.Basic
import TegraGpu.Surface.Format
import TegraGpu.Surface.Framebuffer
import TegraGpu.Surface.Image
import TegraGpu.Text.Alphanumeric
import TegraGpu.Text.Blank
import TegraGpu.Text.Hexdump
import TegraGpu.Text.Lines
import TegraGpu.Text.Quoted
import TegraGpu.Text.Radix
import TegraGpu.Text.Terminal
import TegraGpu.Text.Visible
import TegraGpu.Toml.Datetime
import TegraGpu.Toml.Decode
import TegraGpu.Toml.Fault
import TegraGpu.Toml.Read
import TegraGpu.Toml.Scalar
import TegraGpu.Toml.Syntax
import TegraGpu.Toml.Token
import TegraGpu.Toml.Value
import TegraGpu.Proofs.Exec
import TegraGpu.Proofs.Device
import TegraGpu.Proofs.Stores
import TegraGpu.Proofs.Buffer
import TegraGpu.Proofs.Surface
import TegraGpu.Proofs.Engine
import TegraGpu.Proofs.Session
import TegraGpu.Proofs.Commands
import TegraGpu.Proofs.Shader
import TegraGpu.Proofs.Registry
import TegraGpu.Proofs.Text
import TegraGpu.Proofs.ShaderSource
import TegraGpu.Proofs.Perform
import TegraGpu.Proofs.Lifecycle
import TegraGpu.Proofs.Mappings
import TegraGpu.Proofs.Draw
import TegraGpu.Proofs.Coverage
import TegraGpu.Proofs.Memory
import TegraGpu.Proofs.Targets
import TegraGpu.Proofs.Checks
import TegraGpu.Proofs.Scissor
import TegraGpu.Proofs.Layout
import TegraGpu.Proofs.Agreement
import TegraGpu.Proofs.Bench
import TegraGpu.Proofs.Clipping
import TegraGpu.Proofs.Addressing
import TegraGpu.Proofs.Wraps
import TegraGpu.Proofs.Frames
import TegraGpu.Proofs.Outcome
import TegraGpu.Proofs.Progress
import TegraGpu.Proofs.Noninterference
import TegraGpu.Proofs.Hexdump
import TegraGpu.Proofs.Atomic
import TegraGpu.Proofs.Prefixes
import TegraGpu.Proofs.Uniforms
import TegraGpu.Proofs.SingleSign
import TegraGpu.Proofs.Winding
import TegraGpu.Proofs.SingleValue
import TegraGpu.Proofs.Nearest
import TegraGpu.Proofs.SingleExact
import TegraGpu.Proofs.Nudge
import TegraGpu.Proofs.TopLeft
import TegraGpu.Proofs.SingleRound
import TegraGpu.Proofs.FlatColour
