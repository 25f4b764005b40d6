import Convoy.Backoff
import Convoy.Data.Datum
import Convoy.Data.Decode
import Convoy.Data.Table
import Convoy.Decimal.Binary
import Convoy.Decimal.Notation
import Convoy.Decimal.Reading
import Convoy.Decimal.Shortest
import Convoy.Failure
import Convoy.Files
import Convoy.GroupFile
import Convoy.Identity.Identifier
import Convoy.Identity.Mint
import Convoy.Identity.Stamp
import Convoy.Json.Reader
import Convoy.Json.Writer
import Convoy.Ledger.Basic
import Convoy.Ledger.SpanSet
import Convoy.Main
import Convoy.Profile.Basic
import Convoy.Profile.Book
import Convoy.Proofs.Data.Decode
import Convoy.Proofs.Data.FreeForm
import Convoy.Proofs.Data.Leaves
import Convoy.Proofs.Data.Survival
import Convoy.Proofs.Data.Writing
import Convoy.Proofs.GroupFile
import Convoy.Proofs.Identity.Renewal
import Convoy.Proofs.Identity.Restamping
import Convoy.Proofs.Identity.Stamps
import Convoy.Proofs.Ledger.Amounts
import Convoy.Proofs.Ledger.Merging
import Convoy.Proofs.Ledger.SetTerms
import Convoy.Proofs.Ledger.Spans
import Convoy.Proofs.Schedule.Account
import Convoy.Proofs.Schedule.Budget
import Convoy.Proofs.Schedule.Coherence
import Convoy.Proofs.Schedule.Commuting
import Convoy.Proofs.Schedule.Completion
import Convoy.Proofs.Schedule.Course
import Convoy.Proofs.Schedule.Doubles
import Convoy.Proofs.Schedule.FirstFit
import Convoy.Proofs.Schedule.Grants
import Convoy.Proofs.Schedule.LateReports
import Convoy.Proofs.Schedule.Launches
import Convoy.Proofs.Schedule.Limits
import Convoy.Proofs.Schedule.News
import Convoy.Proofs.Schedule.Offers
import Convoy.Proofs.Schedule.Order
import Convoy.Proofs.Schedule.Origins
import Convoy.Proofs.Schedule.Outline
import Convoy.Proofs.Schedule.Ownership
import Convoy.Proofs.Schedule.Parallel
import Convoy.Proofs.Schedule.Queue
import Convoy.Proofs.Schedule.Refusals
import Convoy.Proofs.Schedule.Roster
import Convoy.Proofs.Schedule.Serial
import Convoy.Proofs.Schedule.Steps
import Convoy.Proofs.Schedule.Strays
import Convoy.Proofs.Schedule.Turn
import Convoy.Proofs.Session.Deeds
import Convoy.Proofs.Session.Endings
import Convoy.Proofs.Session.Fidelity
import Convoy.Proofs.Session.Interleaving
import Convoy.Proofs.Session.Loops
import Convoy.Proofs.Session.Moves
import Convoy.Proofs.Session.Naming
import Convoy.Proofs.Session.Losses
import Convoy.Proofs.Session.Pauses
import Convoy.Proofs.Session.Relay
import Convoy.Proofs.Session.Sessions
import Convoy.Proofs.Session.Trace
import Convoy.Proofs.Session.Unknown
import Convoy.Proofs.Session.Verdict
import Convoy.Proofs.TaskGroup.Changes
import Convoy.Proofs.Wire.Messages
import Convoy.Proofs.Wire.RoundTrip
import Convoy.Proofs.Wire.Steady
import Convoy.Proofs.Wire.Survival
import Convoy.Proofs.Wire.Tags
import Convoy.Refusal
import Convoy.Restart
import Convoy.Schedule.Basic
import Convoy.Schedule.Offers
import Convoy.Schedule.Queue
import Convoy.Schedule.Roster
import Convoy.Schedule.Rules
import Convoy.Schedule.Watch
import Convoy.Session.Journal
import Convoy.Session.Link
import Convoy.Session.Router
import Convoy.Session.Run
import Convoy.Shell.Arguments
import Convoy.Shell.Basic
import Convoy.Shell.Plan
import Convoy.TaskGroup
import Convoy.Text.Blank
import Convoy.Text.Columns
import Convoy.Text.Grid
import Convoy.Text.Printable
import Convoy.Text.Quoted
import Convoy.Wire.Call
import Convoy.Wire.Container
import Convoy.Wire.Event
import Convoy.Wire.Framework
import Convoy.Wire.Identifier
import Convoy.Wire.Operation
import Convoy.Wire.Resource
import Convoy.Wire.Status
import Convoy.Wire.Task
import Convoy.Yaml.Cursor
import Convoy.Yaml.Document
import Convoy.Yaml.Lexer
import Convoy.Yaml.Reader
import Convoy.Yaml.Scalar
import Convoy.Yaml.Token
import Convoy.Proofs.TaskGroup.Networks
import Convoy.Proofs.TaskGroup.NormalForm
import Convoy.Proofs.TaskGroup.Docker
import Convoy.Proofs.TaskGroup.Ports
import Convoy.Proofs.Profile.RoundTrip
import Convoy.Proofs.Json.Scanning
import Convoy.Proofs.Json.RoundTrip
import Convoy.Proofs.Profile.Books
import Convoy.Proofs.TaskGroup.Resemblance
import Convoy.Proofs.Schedule.Lineage
import Convoy.Proofs.Session.Turns
import Convoy.Proofs.Session.Foresight
import Convoy.Proofs.Ledger.Queries
import Convoy.Proofs.Ledger.Export
import Convoy.Proofs.Identity.Minted
