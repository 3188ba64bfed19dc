import FlowPeers.Config
import FlowPeers.Dialogue
import FlowPeers.Domain.Ascii
import FlowPeers.Domain.Label
import FlowPeers.Domain.Punycode
import FlowPeers.Duration
import FlowPeers.Failure
import FlowPeers.Host.Basic
import FlowPeers.Host.Ipv4
import FlowPeers.Host.Ipv6
import FlowPeers.Http.Header
import FlowPeers.Http.Message
import FlowPeers.Http.Status
import FlowPeers.Http.Target
import FlowPeers.Json.Reader
import FlowPeers.Json.Record
import FlowPeers.Json.Token
import FlowPeers.Json.Value
import FlowPeers.KeepAlive
import FlowPeers.KeepAlive.Trial
import FlowPeers.Login
import FlowPeers.Network.Basic
import FlowPeers.Network.Direct
import FlowPeers.Network.PeerServer
import FlowPeers.Network.Script
import FlowPeers.Peer
import FlowPeers.PeerAddress
import FlowPeers.PeerList
import FlowPeers.PeerStatus
import FlowPeers.PortDirectory
import FlowPeers.Session.Basic
import FlowPeers.Session.Operation
import FlowPeers.Session.Parallel
import FlowPeers.SocketAddress
import FlowPeers.Sorting
import FlowPeers.Text.Blank
import FlowPeers.Text.Decimal
import FlowPeers.Text.Form
import FlowPeers.Text.Percent
import FlowPeers.Text.Quoted
import FlowPeers.Text.Split
import FlowPeers.Text.Utf8
import FlowPeers.Tracker
import FlowPeers.Transaction
import FlowPeers.Unicode.CodeTable
import FlowPeers.Unicode.Composition
import FlowPeers.Unicode.Composition.Table
import FlowPeers.Unicode.Direction
import FlowPeers.Unicode.Mapping
import FlowPeers.Unicode.Mapping.Table
import FlowPeers.Unicode.Marks
import FlowPeers.Unicode.Printable
import FlowPeers.Url.Basic
import FlowPeers.Url.Error
import FlowPeers.Url.Path
import FlowPeers.Url.Read
import FlowPeers.Proofs.Ranking
import FlowPeers.Proofs.Transcript
import FlowPeers.Proofs.Asking
import FlowPeers.Proofs.Visit
import FlowPeers.Proofs.Failover
import FlowPeers.Proofs.Refresh
import FlowPeers.Proofs.Course
import FlowPeers.Proofs.Merge
import FlowPeers.Proofs.Standing
import FlowPeers.Proofs.History
import FlowPeers.Proofs.Timetable
import FlowPeers.Proofs.Scheduler
import FlowPeers.Proofs.Isolation
import FlowPeers.Proofs.Sparing
import FlowPeers.Proofs.Reachability
import FlowPeers.Proofs.Opening
import FlowPeers.Proofs.Plan
import FlowPeers.Proofs.Agenda
import FlowPeers.Proofs.Handles
import FlowPeers.Proofs.Moves
import FlowPeers.Proofs.Upkeep
import FlowPeers.Proofs.Lifecycle
import FlowPeers.Proofs.Calls
import FlowPeers.Proofs.Tokens
import FlowPeers.Proofs.Address
import FlowPeers.Proofs.Custody
import FlowPeers.Proofs.Bearer
import FlowPeers.Proofs.Atomicity
import FlowPeers.Proofs.Seeds
import FlowPeers.Proofs.Tenures
import FlowPeers.Proofs.Staleness
import FlowPeers.Proofs.Freshness
import FlowPeers.Proofs.Agreement
import FlowPeers.Proofs.Callers
import FlowPeers.Proofs.Literals
import FlowPeers.Proofs.Origin
import FlowPeers.Proofs.Spelling
import FlowPeers.Proofs.Canonical
import FlowPeers.Proofs.LetterCase
import FlowPeers.Proofs.Reported
import FlowPeers.Proofs.Starts
import FlowPeers.Proofs.Unfolding
import FlowPeers.Proofs.Extensions
import FlowPeers.Proofs.Connecting
import FlowPeers.Proofs.Persistence
import FlowPeers.Proofs.Utf8
import FlowPeers.Proofs.JsonTokens
import FlowPeers.Proofs.JsonRoundTrip
import FlowPeers.Proofs.ReadBack
import FlowPeers.Proofs.SavedText
import FlowPeers.Proofs.FirstRecords
import FlowPeers.Proofs.MergeOrder
import FlowPeers.Proofs.Correspondence
import FlowPeers.Proofs.Lockstep
import FlowPeers.Proofs.Cues
import FlowPeers.Proofs.Traceless
import FlowPeers.Proofs.Secrecy
import FlowPeers.Proofs.Idempotence
import FlowPeers.Proofs.EntryOrder
import FlowPeers.Proofs.Preference
import FlowPeers.Proofs.PortSegment
import FlowPeers.Proofs.LoginForm
import FlowPeers.Proofs.Sockets
import FlowPeers.Proofs.Encoded
import FlowPeers.Proofs.Targets
import FlowPeers.Proofs.Locations
import FlowPeers.Proofs.Attempts
