import Dialogue.Bus.Basic
import Dialogue.Bus.Host
import Dialogue.Bus.Settling
import Dialogue.Cast
import Dialogue.Character.Basic
import Dialogue.Character.Draft
import Dialogue.Character.Part
import Dialogue.Character.Reading
import Dialogue.Choice
import Dialogue.Commands
import Dialogue.Fault
import Dialogue.Files.Folder
import Dialogue.Files.Path
import Dialogue.Files.Walking
import Dialogue.Host.Basic
import Dialogue.Host.Performing
import Dialogue.Intent
import Dialogue.Json.Escape
import Dialogue.Json.Reader
import Dialogue.Json.Writer
import Dialogue.Library.Loading
import Dialogue.Library.Schema
import Dialogue.Line
import Dialogue.Number.Double
import Dialogue.Number.Shortest
import Dialogue.Options.Defaults
import Dialogue.Options.Merge
import Dialogue.Options.Settings
import Dialogue.Playhead
import Dialogue.Report
import Dialogue.Script
import Dialogue.Script.Compiling
import Dialogue.Session.Basic
import Dialogue.Session.Notice
import Dialogue.Session.Playing
import Dialogue.Showcase
import Dialogue.Signal
import Dialogue.Surface
import Dialogue.Surface.Board
import Dialogue.Surface.Canvas
import Dialogue.Surface.Placement
import Dialogue.Surface.Rect
import Dialogue.Table
import Dialogue.Text.Blank
import Dialogue.Text.Hex
import Dialogue.Text.Lines
import Dialogue.Text.Printable
import Dialogue.Text.Quoted
import Dialogue.Text.Word
import Dialogue.Value.Arithmetic
import Dialogue.Value.Basic
import Dialogue.Value.Key
import Dialogue.Value.Keyed
import Dialogue.Value.Order
import Dialogue.Value.Shown
import Dialogue.Proofs.Boards
import Dialogue.Proofs.Bus.Draining
import Dialogue.Proofs.Bus.Hosted
import Dialogue.Proofs.Bus.Leaving
import Dialogue.Proofs.Bus.OneShot
import Dialogue.Proofs.Bus.Order
import Dialogue.Proofs.Bus.Priorities
import Dialogue.Proofs.Bus.Rosters
import Dialogue.Proofs.Bus.Run
import Dialogue.Proofs.Bus.Serving
import Dialogue.Proofs.Bus.Settled
import Dialogue.Proofs.Bus.Staying
import Dialogue.Proofs.Bus.Waiting
import Dialogue.Proofs.Bus.Watching
import Dialogue.Proofs.Canvas.Framing
import Dialogue.Proofs.Canvas.Furnished
import Dialogue.Proofs.Canvas.Layout
import Dialogue.Proofs.Canvas.Placing
import Dialogue.Proofs.Documents
import Dialogue.Proofs.Grammar
import Dialogue.Proofs.Index
import Dialogue.Proofs.Json
import Dialogue.Proofs.Layers
import Dialogue.Proofs.Library.Compiled
import Dialogue.Proofs.Library.Gathering
import Dialogue.Proofs.Library.Installing
import Dialogue.Proofs.Library.LastWord
import Dialogue.Proofs.Library.Reporting
import Dialogue.Proofs.Library.Statements
import Dialogue.Proofs.Library.Usable
import Dialogue.Proofs.Lines
import Dialogue.Proofs.Mentions
import Dialogue.Proofs.Options.Announced
import Dialogue.Proofs.Options.Configuring
import Dialogue.Proofs.Options.Lasting
import Dialogue.Proofs.Options.Precedence
import Dialogue.Proofs.Options.Premerging
import Dialogue.Proofs.Options.Reach
import Dialogue.Proofs.Options.Reapplying
import Dialogue.Proofs.Paths
import Dialogue.Proofs.Playhead
import Dialogue.Proofs.Reading
import Dialogue.Proofs.Records
import Dialogue.Proofs.Refusals
import Dialogue.Proofs.Script.Printing
import Dialogue.Proofs.Script.Sections
import Dialogue.Proofs.Session.Advance
import Dialogue.Proofs.Session.Aloof
import Dialogue.Proofs.Session.Boxes
import Dialogue.Proofs.Session.Discreet
import Dialogue.Proofs.Session.Drawing
import Dialogue.Proofs.Session.Failing
import Dialogue.Proofs.Session.Going
import Dialogue.Proofs.Session.Guarded
import Dialogue.Proofs.Session.Keeping
import Dialogue.Proofs.Session.Later
import Dialogue.Proofs.Session.Lists
import Dialogue.Proofs.Session.Mirroring
import Dialogue.Proofs.Session.Modest
import Dialogue.Proofs.Session.Observing
import Dialogue.Proofs.Session.Prompting
import Dialogue.Proofs.Session.Reader
import Dialogue.Proofs.Session.Recording
import Dialogue.Proofs.Session.Resting
import Dialogue.Proofs.Session.Sidelines
import Dialogue.Proofs.Session.Sights
import Dialogue.Proofs.Session.Sound
import Dialogue.Proofs.Session.Unheard
import Dialogue.Proofs.Showcase.Running
import Dialogue.Proofs.Showcase.Scenes
import Dialogue.Proofs.Step
import Dialogue.Proofs.Writing
