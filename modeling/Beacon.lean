import Beacon.Block.Basic
import Beacon.Bytes.Basic
import Beacon.Bytes.Hex
import Beacon.Chain.Clock
import Beacon.Chain.Timing
import Beacon.Command.Help
import Beacon.Command.Option
import Beacon.Command.Options
import Beacon.Command.Run
import Beacon.Command.Settings
import Beacon.Command.Word
import Beacon.Datum.Basic
import Beacon.Datum.Content
import Beacon.Datum.Reader
import Beacon.Datum.Shown
import Beacon.Datum.Writer
import Beacon.Event.Basic
import Beacon.Event.Frame
import Beacon.Event.Head
import Beacon.Failure.Basic
import Beacon.Failure.Kind
import Beacon.Fork.Basic
import Beacon.Fork.Catalogue
import Beacon.Fork.Operation
import Beacon.Fork.Preset
import Beacon.Fork.Scalar
import Beacon.HostName.Basic
import Beacon.HostName.Context
import Beacon.HostName.Direction
import Beacon.HostName.Fault
import Beacon.HostName.Label
import Beacon.HostName.Permitted
import Beacon.HostName.Punycode
import Beacon.Http.Address
import Beacon.Http.Exchange
import Beacon.Http.Percent
import Beacon.Http.Recording
import Beacon.Http.Url
import Beacon.Log
import Beacon.Log.Line
import Beacon.Merkle.Chunk
import Beacon.Merkle.Root
import Beacon.Merkle.Sha256
import Beacon.Merkle.Tree
import Beacon.Node.Basic
import Beacon.Node.Client
import Beacon.Number.Binary64
import Beacon.Number.Decimal
import Beacon.Number.Spelling
import Beacon.Report.Mode
import Beacon.Report.Render
import Beacon.Report.Text
import Beacon.Service.Request
import Beacon.Service.Session
import Beacon.Service.State
import Beacon.Service.Stream
import Beacon.Ssz.Bits
import Beacon.Ssz.Building
import Beacon.Ssz.Decoding
import Beacon.Ssz.Encoding
import Beacon.Ssz.Fault
import Beacon.Ssz.Field
import Beacon.Ssz.Input
import Beacon.Ssz.Instance
import Beacon.Ssz.Layout
import Beacon.Ssz.Presentation
import Beacon.Ssz.Reading
import Beacon.Ssz.Schema
import Beacon.Ssz.Size
import Beacon.Ssz.Typed
import Beacon.Ssz.Value
import Beacon.Text.Ascii
import Beacon.Text.Basic
import Beacon.Text.Case
import Beacon.Text.Charset
import Beacon.Text.Combining
import Beacon.Text.Composition
import Beacon.Text.Cut
import Beacon.Text.Interval
import Beacon.Text.Lines
import Beacon.Text.Normal
import Beacon.Text.Numeric
import Beacon.Text.Printable
import Beacon.Text.Quoted
import Beacon.Text.Utf8
import Beacon.Text.Wide
import Beacon.Time.Calendar
import Beacon.Time.Expression
import Beacon.Time.Zone
import Beacon.Main
import Beacon.Proofs.Merkle.Binding
import Beacon.Proofs.Merkle.Hashed
import Beacon.Proofs.Merkle.Leaves
import Beacon.Proofs.Merkle.PaddedTree
import Beacon.Proofs.Merkle.Reference
import Beacon.Proofs.Outcome
import Beacon.Proofs.Ssz.BitPacking
import Beacon.Proofs.Ssz.Canonical
import Beacon.Proofs.Ssz.Complete
import Beacon.Proofs.Ssz.EncodedSize
import Beacon.Proofs.Ssz.OffsetTable
import Beacon.Proofs.Ssz.RoundTrip
import Beacon.Proofs.Datum.RoundTrip
import Beacon.Proofs.Ssz.Refusal
import Beacon.Proofs.Ssz.Checks
import Beacon.Proofs.Ssz.NodeForm
import Beacon.Proofs.Service.Effect
import Beacon.Proofs.Service.Steady
import Beacon.Proofs.Service.Streaming
import Beacon.Proofs.Report.Breakdown
import Beacon.Proofs.Service.BestEffort
import Beacon.Proofs.Ssz.Blank
import Beacon.Proofs.Fork.Exclusive
import Beacon.Proofs.Number.Digits
import Beacon.Proofs.Time.Calendar
import Beacon.Proofs.Time.Zone
import Beacon.Proofs.Time.Expression
import Beacon.Proofs.Report.Heading
import Beacon.Proofs.Chain.Resolution
import Beacon.Proofs.Ssz.Printable
import Beacon.Proofs.Report.Framing
import Beacon.Proofs.Service.Changing
import Beacon.Proofs.Service.Mirroring
import Beacon.Proofs.Service.Stopping
import Beacon.Proofs.Node.Client
import Beacon.Proofs.Service.Once
import Beacon.Proofs.Failure.Ordinary
import Beacon.Proofs.Command.Status
import Beacon.Proofs.Fork.Header
import Beacon.Proofs.Merkle.Numeric
import Beacon.Proofs.Service.Attachment
import Beacon.Proofs.Merkle.Evaluation
import Beacon.Proofs.Service.Policy
import Beacon.Proofs.Ssz.Reading
import Beacon.Proofs.Ssz.Bounds
import Beacon.Proofs.Ssz.Places
import Beacon.Proofs.Ssz.Handing
import Beacon.Proofs.Ssz.Building
import Beacon.Proofs.Ssz.Acceptance
import Beacon.Proofs.Node.Boundary
import Beacon.Proofs.Service.Configuration
import Beacon.Proofs.Service.Lifetime
import Beacon.Proofs.Merkle.CompleteTree
import Beacon.Proofs.Ssz.Sequence
import Beacon.Proofs.Ssz.BitString
import Beacon.Proofs.Time.Acceptance
import Beacon.Proofs.Datum.Place
import Beacon.Proofs.Event.Delivery
import Beacon.Proofs.Datum.Spacing
import Beacon.Proofs.Event.Written
import Beacon.Proofs.Text.Lines
import Beacon.Proofs.Node.Subscription
import Beacon.Proofs.Service.Denial
import Beacon.Proofs.Command.Absence
import Beacon.Proofs.Ssz.Placement
import Beacon.Proofs.Text.LineFeed
import Beacon.Proofs.Report.Lines
import Beacon.Proofs.Report.Detail
import Beacon.Proofs.Ssz.Extent
import Beacon.Proofs.Ssz.Member
import Beacon.Proofs.Report.Oversize
import Beacon.Proofs.Service.Cutting
import Beacon.Proofs.Chain.Spans
import Beacon.Proofs.Merkle.Abridged
import Beacon.Proofs.Ssz.Equality
import Beacon.Proofs.Text.Character
import Beacon.Proofs.Text.Pieces
import Beacon.Proofs.Http.Escape
import Beacon.Proofs.Http.Path
import Beacon.Proofs.Http.Location
import Beacon.Proofs.Node.Address
import Beacon.Proofs.Ssz.DeclaredSize
import Beacon.Proofs.Ssz.Recutting
import Beacon.Proofs.Merkle.BitLeaves
