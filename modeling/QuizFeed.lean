import QuizFeed.Cache.Key
import QuizFeed.Cache.Snapshot
import QuizFeed.Cache.Store
import QuizFeed.Command.Execution
import QuizFeed.Command.Grammar
import QuizFeed.Command.Help
import QuizFeed.Command.Invocation
import QuizFeed.Command.Refusal
import QuizFeed.Command.Run
import QuizFeed.Decimal.Binary64
import QuizFeed.Decimal.Shortest
import QuizFeed.Digest.Sha256
import QuizFeed.Feed.Basic
import QuizFeed.Feed.Entry
import QuizFeed.Feed.Image
import QuizFeed.Feed.Loading
import QuizFeed.Feed.Projection
import QuizFeed.Fetch.Download
import QuizFeed.Fetch.Failure
import QuizFeed.Fetch.Reason
import QuizFeed.Files.Cause
import QuizFeed.Files.Disk
import QuizFeed.Files.Write
import QuizFeed.Json.Failure
import QuizFeed.Json.Number
import QuizFeed.Json.Reader
import QuizFeed.Json.Text
import QuizFeed.Json.Value
import QuizFeed.Log
import QuizFeed.Log.Sink
import QuizFeed.Main
import QuizFeed.Media.Field
import QuizFeed.Media.Thumbnail
import QuizFeed.Path
import QuizFeed.Program
import QuizFeed.Proofs.Cache.Contents
import QuizFeed.Proofs.Cache.Counterparts
import QuizFeed.Proofs.Cache.Document
import QuizFeed.Proofs.Cache.Files
import QuizFeed.Proofs.Cache.Naming
import QuizFeed.Proofs.Cache.Persistence
import QuizFeed.Proofs.Cache.Places
import QuizFeed.Proofs.Command.Attempts
import QuizFeed.Proofs.Command.Phases
import QuizFeed.Proofs.Command.Configuration
import QuizFeed.Proofs.Command.Degradation
import QuizFeed.Proofs.Command.Listing
import QuizFeed.Proofs.Command.Window
import QuizFeed.Proofs.Feed.Batch
import QuizFeed.Proofs.Feed.Calls
import QuizFeed.Proofs.Feed.Failures
import QuizFeed.Proofs.Feed.Freshness
import QuizFeed.Proofs.Feed.Items
import QuizFeed.Proofs.Feed.Loading
import QuizFeed.Proofs.Feed.Lookup
import QuizFeed.Proofs.Feed.Partitions
import QuizFeed.Proofs.Feed.Rate
import QuizFeed.Proofs.Feed.Recovery
import QuizFeed.Proofs.Feed.Reports
import QuizFeed.Proofs.Fetch.Chains
import QuizFeed.Proofs.Fetch.Servers
import QuizFeed.Proofs.Files.Following
import QuizFeed.Proofs.Files.Locations
import QuizFeed.Proofs.Files.Making
import QuizFeed.Proofs.Files.Pieces
import QuizFeed.Proofs.Files.Writing
import QuizFeed.Proofs.Media.Agreement
import QuizFeed.Proofs.Media.Confinement
import QuizFeed.Proofs.Media.Thumbnail
import QuizFeed.Proofs.Program.Events
import QuizFeed.Proofs.Results
import QuizFeed.Proofs.Ron.Fields
import QuizFeed.Proofs.Ron.Layout
import QuizFeed.Proofs.Ron.Moves
import QuizFeed.Proofs.Ron.Quoted
import QuizFeed.Proofs.Settings.File
import QuizFeed.Proofs.Time.Calendar
import QuizFeed.Proofs.Time.Text
import QuizFeed.Ron.Cursor
import QuizFeed.Ron.Document
import QuizFeed.Ron.Failure
import QuizFeed.Ron.Number
import QuizFeed.Ron.Printer
import QuizFeed.Ron.Text
import QuizFeed.Ron.Value
import QuizFeed.Settings.Basic
import QuizFeed.Settings.Document
import QuizFeed.Settings.File
import QuizFeed.Text.Blank
import QuizFeed.Text.Classification
import QuizFeed.Text.Composition
import QuizFeed.Text.Direction
import QuizFeed.Text.Extending
import QuizFeed.Text.Identifier
import QuizFeed.Text.Joining
import QuizFeed.Text.Mark
import QuizFeed.Text.Order
import QuizFeed.Text.Printable
import QuizFeed.Text.Quoted
import QuizFeed.Text.Ranges
import QuizFeed.Time.Calendar
import QuizFeed.Time.Instant
import QuizFeed.Time.Text
import QuizFeed.Url.Address
import QuizFeed.Url.Basic
import QuizFeed.Url.Domain.Bootstring
import QuizFeed.Url.Domain.Mapping
import QuizFeed.Url.Domain.Name
import QuizFeed.Url.Host
import QuizFeed.Url.Path
import QuizFeed.Url.Percent
import QuizFeed.Url.Reader
import QuizFeed.Proofs.Feed.Interleaving
import QuizFeed.Proofs.Feed.Soundness
import QuizFeed.Proofs.Files.Ensuring
import QuizFeed.Proofs.Files.Replacing
import QuizFeed.Proofs.Media.Downloads
import QuizFeed.Proofs.Settings.Document
import QuizFeed.Proofs.Command.Configuration
import QuizFeed.Proofs.Command.Listing
import QuizFeed.Proofs.Cache.Counterparts
import QuizFeed.Proofs.Feed.Renaming
import QuizFeed.Proofs.Settings.Address
import QuizFeed.Proofs.Text.Directions
import QuizFeed.Proofs.Text.Splitting
import QuizFeed.Proofs.Url.Bootstring
import QuizFeed.Proofs.Url.Names
import QuizFeed.Proofs.Url.Percent
import QuizFeed.Proofs.Url.Addresses
import QuizFeed.Proofs.Url.Hosts
import QuizFeed.Proofs.Url.Paths
import QuizFeed.Proofs.Url.Parts
import QuizFeed.Proofs.Url.Rereading
import QuizFeed.Proofs.Feed.Images
import QuizFeed.Proofs.Media.Extensions
import QuizFeed.Proofs.Cache.Fingerprints
import QuizFeed.Proofs.Command.Rows
import QuizFeed.Proofs.Feed.History
import QuizFeed.Proofs.Settings.Reopening
