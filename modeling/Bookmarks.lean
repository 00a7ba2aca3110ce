import Bookmarks.Batch.Check
import Bookmarks.Batch.Projection
import Bookmarks.Batch.Violation
import Bookmarks.Daemon.Basic
import Bookmarks.Daemon.Failure
import Bookmarks.Daemon.Methods
import Bookmarks.Decimal.Binary
import Bookmarks.Decimal.Notation
import Bookmarks.Decimal.Reading
import Bookmarks.Decimal.Shortest
import Bookmarks.Hub
import Bookmarks.Identity
import Bookmarks.Json.Access
import Bookmarks.Json.Decoder
import Bookmarks.Json.Document
import Bookmarks.Json.Problem
import Bookmarks.Json.Text
import Bookmarks.Json.Token
import Bookmarks.Json.Value
import Bookmarks.Keyed
import Bookmarks.Main
import Bookmarks.Operation.Basic
import Bookmarks.Operation.Codec
import Bookmarks.Order
import Bookmarks.Proofs.Batch.Acceptance
import Bookmarks.Proofs.Batch.Agreement
import Bookmarks.Proofs.Batch.Mirror
import Bookmarks.Proofs.Batch.Projection
import Bookmarks.Proofs.Daemon.Acceptance
import Bookmarks.Proofs.Daemon.Announcements
import Bookmarks.Proofs.Daemon.Atomicity
import Bookmarks.Proofs.Daemon.Effects
import Bookmarks.Proofs.Daemon.Interleaving
import Bookmarks.Proofs.Daemon.Reachable
import Bookmarks.Proofs.Daemon.Runs
import Bookmarks.Proofs.Daemon.Traffic
import Bookmarks.Proofs.Hub.History
import Bookmarks.Proofs.Hub.Independence
import Bookmarks.Proofs.Identity
import Bookmarks.Proofs.Json.Length
import Bookmarks.Proofs.Json.Records
import Bookmarks.Proofs.Json.RoundTrip
import Bookmarks.Proofs.Json.Tokens
import Bookmarks.Proofs.Keyed
import Bookmarks.Proofs.Order.Exact
import Bookmarks.Proofs.Order.Binary
import Bookmarks.Proofs.Outcome
import Bookmarks.Proofs.Reach
import Bookmarks.Proofs.Rows.Allocation
import Bookmarks.Proofs.Rows.Placement
import Bookmarks.Proofs.Rows.Removal
import Bookmarks.Proofs.Rows.Siblings
import Bookmarks.Proofs.Rows.Sound
import Bookmarks.Proofs.Server.Conversation
import Bookmarks.Proofs.Store.Batch
import Bookmarks.Proofs.Store.Operations
import Bookmarks.Proofs.Store.Reload
import Bookmarks.Proofs.Store.Upkeep
import Bookmarks.Proofs.Text.Utf8
import Bookmarks.Proofs.Tree.Changes
import Bookmarks.Proofs.Tree.Canonical
import Bookmarks.Proofs.Tree.Differences
import Bookmarks.Proofs.Tree.Loading
import Bookmarks.Proofs.Tree.WellFormed
import Bookmarks.Proofs.Wire.Framing
import Bookmarks.Proofs.Wire.Requests
import Bookmarks.Server.Basic
import Bookmarks.Server.Client
import Bookmarks.Server.Connection
import Bookmarks.Server.Methods
import Bookmarks.Settings.Basic
import Bookmarks.Settings.Conversion
import Bookmarks.Settings.Place
import Bookmarks.Settings.Profile
import Bookmarks.Settings.Sections
import Bookmarks.Store.Basic
import Bookmarks.Store.Error
import Bookmarks.Store.Files
import Bookmarks.Store.Operations
import Bookmarks.Store.Rows
import Bookmarks.Text.Blank
import Bookmarks.Text.Hex
import Bookmarks.Text.LowerCase
import Bookmarks.Text.Normal
import Bookmarks.Text.Part
import Bookmarks.Text.Path
import Bookmarks.Text.Printable
import Bookmarks.Text.Quoted
import Bookmarks.Text.Spans
import Bookmarks.Text.Utf8
import Bookmarks.Toml.Document
import Bookmarks.Toml.Node
import Bookmarks.Toml.Quoted
import Bookmarks.Toml.Scalar
import Bookmarks.Tree.Basic
import Bookmarks.Tree.Codec
import Bookmarks.Tree.Search
import Bookmarks.Tree.Snapshot
import Bookmarks.Url.Direction
import Bookmarks.Url.Domain
import Bookmarks.Url.Ipv4
import Bookmarks.Url.Ipv6
import Bookmarks.Url.Joining
import Bookmarks.Url.Mapping
import Bookmarks.Url.Punycode
import Bookmarks.Url.WebAddress
import Bookmarks.Version.Basic
import Bookmarks.Version.Control
import Bookmarks.Version.Handling
import Bookmarks.Version.History
import Bookmarks.Version.Message
import Bookmarks.Version.Repository
import Bookmarks.Wire.Fault
import Bookmarks.Wire.Frame
import Bookmarks.Wire.Message
import Bookmarks.Proofs.Server.Calls
import Bookmarks.Proofs.Daemon.Handlers
import Bookmarks.Proofs.Server.Streams
import Bookmarks.Proofs.Server.Subscriptions
import Bookmarks.Proofs.Server.Delivery
import Bookmarks.Proofs.Daemon.Readers
import Bookmarks.Proofs.Store.Sidecar
import Bookmarks.Proofs.Daemon.Views
import Bookmarks.Proofs.Version.Ancestry
import Bookmarks.Proofs.Version.Handling
import Bookmarks.Proofs.Version.Takeover
import Bookmarks.Proofs.Store.Contents
import Bookmarks.Proofs.Daemon.Pulls
import Bookmarks.Proofs.Daemon.Shelter
import Bookmarks.Proofs.Version.Mishaps
import Bookmarks.Proofs.Daemon.Commits
import Bookmarks.Proofs.Daemon.Ledger
import Bookmarks.Proofs.Version.Advance
import Bookmarks.Proofs.Version.Checkout
import Bookmarks.Proofs.Version.Tally
import Bookmarks.Proofs.Daemon.Members
import Bookmarks.Proofs.Daemon.Replicas
import Bookmarks.Proofs.Batch.Ancestors
import Bookmarks.Proofs.Batch.Arranged
import Bookmarks.Proofs.Outline.Drawing
import Bookmarks.Proofs.Outline.Steps
import Bookmarks.Proofs.Outline.Checks
import Bookmarks.Proofs.Outline.Verdict
import Bookmarks.Proofs.Store.Applied
import Bookmarks.Proofs.Store.Additions
import Bookmarks.Proofs.Store.Position
import Bookmarks.Proofs.Store.Frame
import Bookmarks.Proofs.Batch.Renaming
import Bookmarks.Proofs.Rows.Likeness
import Bookmarks.Proofs.Store.Lockstep
import Bookmarks.Proofs.Daemon.Composition
import Bookmarks.Proofs.Store.Failure
import Bookmarks.Proofs.Text.Spans
import Bookmarks.Proofs.Text.LowerCase
import Bookmarks.Proofs.Tree.Search
import Bookmarks.Proofs.Json.Fields
import Bookmarks.Proofs.Operation.Codec
import Bookmarks.Proofs.Json.Layout
import Bookmarks.Proofs.Tree.Export
import Bookmarks.Proofs.Batch.Ascent
import Bookmarks.Proofs.Batch.Clearing
import Bookmarks.Proofs.Text.Trimming
import Bookmarks.Proofs.Url.Address
import Bookmarks.Proofs.Store.Recording
