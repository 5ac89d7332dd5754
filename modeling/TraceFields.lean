import TraceFields.Access
import TraceFields.Ambient
import TraceFields.Carrier
import TraceFields.Context
import TraceFields.Datum
import TraceFields.Entries
import TraceFields.Fault
import TraceFields.Files
import TraceFields.Heap
import TraceFields.Identity.Headers
import TraceFields.Identity.Ids
import TraceFields.Identity.Traceparent
import TraceFields.Identity.Tracestate
import TraceFields.Numeral.Decimal
import TraceFields.Numeral.Hex
import TraceFields.Numeral.Reading
import TraceFields.Numeral.Real64
import TraceFields.Proofs.Bodies
import TraceFields.Proofs.Carriage
import TraceFields.Proofs.Cutting
import TraceFields.Proofs.Delegates
import TraceFields.Proofs.Frames
import TraceFields.Proofs.HeaderNames
import TraceFields.Proofs.HeaderTrip
import TraceFields.Proofs.Hexadecimal
import TraceFields.Proofs.IdentityHeaders
import TraceFields.Proofs.Layers
import TraceFields.Proofs.Lexical
import TraceFields.Proofs.Lowering
import TraceFields.Proofs.Meanings
import TraceFields.Proofs.Readers
import TraceFields.Proofs.Reading
import TraceFields.Proofs.Records
import TraceFields.Proofs.Relay
import TraceFields.Proofs.Scoping
import TraceFields.Proofs.Serving
import TraceFields.Proofs.Sharing
import TraceFields.Proofs.StateMembers
import TraceFields.Proofs.Stores
import TraceFields.Proofs.Writes
import TraceFields.Propagation.Basic
import TraceFields.Propagation.Fields
import TraceFields.Propagation.Identity
import TraceFields.Propagation.Naming
import TraceFields.Registration
import TraceFields.Report
import TraceFields.Requests
import TraceFields.Script.Active
import TraceFields.Script.Answer
import TraceFields.Script.Equality
import TraceFields.Script.Exchange
import TraceFields.Script.Literal
import TraceFields.Script.Object
import TraceFields.Script.Perform
import TraceFields.Script.Run
import TraceFields.Script.Setup
import TraceFields.Script.State
import TraceFields.Script.Step
import TraceFields.Script.View
import TraceFields.Settings.Check
import TraceFields.Settings.Issue
import TraceFields.Settings.Load
import TraceFields.Spans
import TraceFields.Text.Blank
import TraceFields.Text.Cased
import TraceFields.Text.Digit
import TraceFields.Text.Lower
import TraceFields.Text.Lower.Table
import TraceFields.Text.Printable
import TraceFields.Text.Quoted
import TraceFields.Text.Ranges
import TraceFields.Text.Runs
import TraceFields.Text.Split
import TraceFields.Text.Upper
import TraceFields.Toml.Document
import TraceFields.Toml.Limits
import TraceFields.Toml.Moment
import TraceFields.Toml.Scanner
import TraceFields.Toml.Value
import TraceFields.Proofs.Precedence
import TraceFields.Proofs.Footprint
import TraceFields.Proofs.Lifecycle
import TraceFields.Proofs.ParentHeader
import TraceFields.Proofs.StateHeader
import TraceFields.Proofs.Checking
import TraceFields.Proofs.Configuration
import TraceFields.Proofs.Legibility
import TraceFields.Proofs.Handling
import TraceFields.Proofs.Decoration
import TraceFields.Proofs.Section
import TraceFields.Proofs.Overlap
import TraceFields.Proofs.Making
import TraceFields.Proofs.Entering
import TraceFields.Proofs.Ambience
import TraceFields.Proofs.Keyless
import TraceFields.Proofs.OwnStores
import TraceFields.Proofs.Retraction
import TraceFields.Proofs.Snapshot
import TraceFields.Proofs.HeaderTexts
import TraceFields.Proofs.FieldTable
import TraceFields.Proofs.Tagging
import TraceFields.Proofs.NameList
import TraceFields.Proofs.IdNumbers
import TraceFields.Proofs.Marks
import TraceFields.Proofs.StateTexts
import TraceFields.Proofs.BlankNames
import TraceFields.Proofs.Spellings
