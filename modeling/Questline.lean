import Questline.Account.Basic
import Questline.Account.Codec
import Questline.Account.Desk
import Questline.Console.Basic
import Questline.Console.Config
import Questline.Console.Launch
import Questline.Console.Options
import Questline.Decimal.Digits
import Questline.Decimal.Dyadic
import Questline.Decimal.Shortest
import Questline.Json.Basic
import Questline.Json.Canonical
import Questline.Json.Number
import Questline.Json.Printer
import Questline.Json.Reader
import Questline.Json.Record
import Questline.Keyed
import Questline.Main
import Questline.Progress.Basic
import Questline.Progress.Codec
import Questline.Progress.Player
import Questline.Progress.Return
import Questline.Progress.Shop
import Questline.Proofs.Account.Arrival
import Questline.Proofs.Account.AsWritten
import Questline.Proofs.Account.Atomic
import Questline.Proofs.Account.Barred
import Questline.Proofs.Account.Custody
import Questline.Proofs.Account.Home
import Questline.Proofs.Account.Local
import Questline.Proofs.Account.Refusal
import Questline.Proofs.Account.Restored
import Questline.Proofs.Account.Switch
import Questline.Proofs.Account.Username
import Questline.Proofs.Action
import Questline.Proofs.Decimal.Digits
import Questline.Proofs.Decimal.Doubles
import Questline.Proofs.Decimal.Rounding
import Questline.Proofs.Json.Canonical
import Questline.Proofs.Json.Numbers
import Questline.Proofs.Json.RoundTrip
import Questline.Proofs.Json.Strings
import Questline.Proofs.Keyed
import Questline.Proofs.Progress.Boost
import Questline.Proofs.Progress.Codec
import Questline.Proofs.Progress.Experience
import Questline.Proofs.Progress.Lasting
import Questline.Proofs.Progress.Ledger
import Questline.Proofs.Progress.Leveling
import Questline.Proofs.Progress.Purchase
import Questline.Proofs.Progress.Reading
import Questline.Proofs.Progress.Repair
import Questline.Proofs.Progress.Sound
import Questline.Proofs.Progress.Storable
import Questline.Proofs.Progress.Streak
import Questline.Proofs.Progress.Tally
import Questline.Proofs.Progress.Watch
import Questline.Proofs.Quest.Evaluation
import Questline.Proofs.Quest.FixedPoint
import Questline.Proofs.Quest.Gains
import Questline.Proofs.Quest.Recommendation
import Questline.Proofs.Session.Alone
import Questline.Proofs.Session.Barred
import Questline.Proofs.Session.Complaint
import Questline.Proofs.Session.Contents
import Questline.Proofs.Session.Convergence
import Questline.Proofs.Session.Custody
import Questline.Proofs.Session.Everywhere
import Questline.Proofs.Session.Handover
import Questline.Proofs.Session.History
import Questline.Proofs.Session.Interleaving
import Questline.Proofs.Session.Kept
import Questline.Proofs.Session.Ledger
import Questline.Proofs.Session.Logged
import Questline.Proofs.Session.Pending
import Questline.Proofs.Session.Refusal
import Questline.Proofs.Session.Relay
import Questline.Proofs.Session.Roster
import Questline.Proofs.Session.Setback
import Questline.Proofs.Session.Succession
import Questline.Proofs.Session.Turn
import Questline.Proofs.Shell.Argument
import Questline.Proofs.Shell.Card
import Questline.Proofs.Shell.Completion
import Questline.Proofs.Shell.Hint
import Questline.Proofs.Shell.Pipeline
import Questline.Proofs.Shell.Quoting
import Questline.Proofs.Shell.Redirection
import Questline.Proofs.Shell.Splitting
import Questline.Proofs.Shell.Word
import Questline.Proofs.Store.Disk
import Questline.Proofs.Store.Folder
import Questline.Proofs.Store.Memory
import Questline.Proofs.Store.ReadBack
import Questline.Proofs.Store.Saves
import Questline.Proofs.Store.Snapshots
import Questline.Proofs.Sync.Cloud
import Questline.Proofs.Sync.Custody
import Questline.Proofs.Sync.Debounce
import Questline.Proofs.Sync.Keeping
import Questline.Proofs.Sync.Link
import Questline.Proofs.Sync.Record
import Questline.Proofs.Sync.Registry
import Questline.Proofs.Sync.Sending
import Questline.Proofs.Sync.Settled
import Questline.Proofs.Sync.Succession
import Questline.Proofs.Sync.Timetable
import Questline.Proofs.Time.Calendar
import Questline.Proofs.Time.Stamp
import Questline.Proofs.Tree.Course
import Questline.Proofs.Tree.FlatMap
import Questline.Proofs.Tree.Graft
import Questline.Proofs.Tree.Listing
import Questline.Proofs.Tree.Names
import Questline.Proofs.Tree.Path
import Questline.Proofs.Tree.Presence
import Questline.Proofs.Tree.Resolution
import Questline.Quest.Catalog
import Questline.Quest.Check
import Questline.Quest.Evaluation
import Questline.Quest.Zone
import Questline.Session.Basic
import Questline.Session.Fleet
import Questline.Shell.Card
import Questline.Shell.Codec
import Questline.Shell.Command
import Questline.Shell.Completion
import Questline.Shell.Machine
import Questline.Shell.Outcome
import Questline.Shell.Report
import Questline.Shell.Scene
import Questline.Shell.Token
import Questline.Store.Basic
import Questline.Store.Disk
import Questline.Store.Memory
import Questline.Store.Saves
import Questline.Store.Station
import Questline.Sync.Courier
import Questline.Sync.Link
import Questline.Sync.Record
import Questline.Sync.Remote
import Questline.Text.Blank
import Questline.Text.Case
import Questline.Text.Grapheme
import Questline.Text.Hex
import Questline.Text.Joining
import Questline.Text.Lines
import Questline.Text.Lowercase
import Questline.Text.Ranges
import Questline.Text.Search
import Questline.Text.Width
import Questline.Time.Calendar
import Questline.Time.Instant
import Questline.Time.Stamp
import Questline.Toml.Basic
import Questline.Toml.Quoted
import Questline.Toml.Reader
import Questline.Toml.Scalar
import Questline.Tree.FileSystem
import Questline.Tree.Node
import Questline.Tree.Path
