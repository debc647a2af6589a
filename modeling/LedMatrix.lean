import LedMatrix.Address
import LedMatrix.AutoRender
import LedMatrix.CanvasError
import LedMatrix.Color
import LedMatrix.Command
import LedMatrix.CommandLine
import LedMatrix.Compositor.Basic
import LedMatrix.Compositor.Picture
import LedMatrix.Config
import LedMatrix.Decimal.Shortest
import LedMatrix.Demo
import LedMatrix.Font
import LedMatrix.Glyph
import LedMatrix.Handle
import LedMatrix.IpAddress.Basic
import LedMatrix.IpAddress.Reader
import LedMatrix.Json.Complete
import LedMatrix.Json.Document
import LedMatrix.Json.Fault
import LedMatrix.Json.Numeral
import LedMatrix.Json.Reader
import LedMatrix.Json.StringLiteral
import LedMatrix.Json.Value
import LedMatrix.Layout
import LedMatrix.Listening
import LedMatrix.Main
import LedMatrix.Orientation
import LedMatrix.Pixmap.Basic
import LedMatrix.Pixmap.Paint
import LedMatrix.Report
import LedMatrix.Server
import LedMatrix.Service
import LedMatrix.Source
import LedMatrix.Strip.Basic
import LedMatrix.Strip.Driver
import LedMatrix.Text.Digits
import LedMatrix.Text.Pieces
import LedMatrix.Text.Printable
import LedMatrix.Text.Quoted
import LedMatrix.Text.Utf8
import LedMatrix.Written.Basic
import LedMatrix.Written.Command
import LedMatrix.Written.Config
import LedMatrix.Written.ConfigFile
import LedMatrix.Proofs.Edit
import LedMatrix.Proofs.Orientation.Bijection
import LedMatrix.Proofs.Pixmap.Cells
import LedMatrix.Proofs.Pixmap.Drawing
import LedMatrix.Proofs.Pixmap.Wiring
import LedMatrix.Proofs.Compositor.Changes
import LedMatrix.Proofs.Compositor.Edits
import LedMatrix.Proofs.Compositor.Forest
import LedMatrix.Proofs.Compositor.Layers
import LedMatrix.Proofs.Compositor.Atomicity
import LedMatrix.Proofs.Compositor.Totality
import LedMatrix.Proofs.Compositor.Flattening
import LedMatrix.Proofs.Pixmap.Placement
import LedMatrix.Proofs.Server.Lines
import LedMatrix.Proofs.Text.Utf8
import LedMatrix.Proofs.Server.Oversized
import LedMatrix.Proofs.Server.Requests
import LedMatrix.Proofs.Server.Malformed
import LedMatrix.Proofs.Pixmap.Turning
import LedMatrix.Proofs.Pixmap.CounterTurning
import LedMatrix.Proofs.Compositor.History
import LedMatrix.Proofs.Compositor.Handles
import LedMatrix.Proofs.Compositor.Registrations
import LedMatrix.Proofs.Strip.Lifecycle
import LedMatrix.Proofs.Strip.Frames
import LedMatrix.Proofs.Json.Literals
import LedMatrix.Proofs.Json.Spelling
import LedMatrix.Proofs.Json.Reading
import LedMatrix.Proofs.Json.Rendering
import LedMatrix.Proofs.Json.Records
import LedMatrix.Proofs.Written.Commands
import LedMatrix.Proofs.Server.Replies
import LedMatrix.Proofs.Written.Configurations
import LedMatrix.Proofs.Glyph
import LedMatrix.Proofs.Service.Tasks
import LedMatrix.Proofs.Service.Commands
import LedMatrix.Proofs.Service.Interleaving
import LedMatrix.Proofs.Service.Timer
import LedMatrix.Proofs.Compositor.Independence
import LedMatrix.Proofs.Pixmap.Writing
import LedMatrix.Proofs.Pixmap.Interruption
import LedMatrix.Proofs.Compositor.LiveViews
import LedMatrix.Proofs.Pixmap.Tiling
import LedMatrix.Proofs.Service.Lettering
import LedMatrix.Proofs.Service.Writing
import LedMatrix.Proofs.Compositor.Registries
import LedMatrix.Proofs.Compositor.Relaying
import LedMatrix.Proofs.Compositor.Linking
import LedMatrix.Proofs.Compositor.Destroying
import LedMatrix.Proofs.Compositor.Clearing
import LedMatrix.Proofs.Compositor.Imprint
import LedMatrix.Proofs.Pixmap.Clearing
import LedMatrix.Proofs.Demo.Scene
import LedMatrix.Proofs.Demo.Playing
