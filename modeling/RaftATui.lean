import RaftATui.Construction.Bincode
import RaftATui.Construction.Client.App
import RaftATui.Construction.Client.Session
import RaftATui.Construction.Cluster
import RaftATui.Construction.Commands
import RaftATui.Construction.DiskStorage
import RaftATui.Construction.Driver.CommandHandler
import RaftATui.Construction.Driver.EntryApplicator
import RaftATui.Construction.Driver.RaftLoop
import RaftATui.Construction.Driver.RaftNode
import RaftATui.Construction.Driver.ReadyProcessor
import RaftATui.Construction.Driver.Scripted
import RaftATui.Construction.Driver.State
import RaftATui.Construction.MemStorage
import RaftATui.Construction.Node
import RaftATui.Construction.Protobuf
import RaftATui.Construction.RaftStorage
import RaftATui.Construction.RaftTypes
import RaftATui.Construction.Server.App
import RaftATui.Construction.Server.Cli
import RaftATui.Construction.Server.Process
import RaftATui.Construction.Server.RaftKvService
import RaftATui.Construction.Server.Tui
import RaftATui.Construction.SledStorage
import RaftATui.Construction.SocketAddr
import RaftATui.Construction.TcpNetwork
import RaftATui.Construction.TcpTransport
import RaftATui.Library.Agreement
import RaftATui.Library.Attempt
import RaftATui.Library.ByteIndex
import RaftATui.Library.Crash
import RaftATui.Library.Delivery
import RaftATui.Library.Framing
import RaftATui.Library.Loop
import RaftATui.Library.Majority
import RaftATui.Library.OrderedTree
import RaftATui.Library.Overwrite
import RaftATui.Library.Queue
import RaftATui.Library.Reading
import RaftATui.Library.Text
import RaftATui.Library.Trace
import RaftATui.Proof.Client.Commands
import RaftATui.Proof.Client.Hint
import RaftATui.Proof.Client.Messages
import RaftATui.Proof.Client.Reads
import RaftATui.Proof.Client.Redirect
import RaftATui.Proof.Client.Success
import RaftATui.Proof.Cluster.Durability
import RaftATui.Proof.Cluster.Provenance
import RaftATui.Proof.Cluster.Quorum
import RaftATui.Proof.Cluster.Sessions
import RaftATui.Proof.Cluster.Votes
import RaftATui.Proof.Driver.Accounts
import RaftATui.Proof.Driver.Acknowledge
import RaftATui.Proof.Driver.AppliedIndex
import RaftATui.Proof.Driver.BadSnapshot
import RaftATui.Proof.Driver.Calls
import RaftATui.Proof.Driver.Commit
import RaftATui.Proof.Driver.ConfChange
import RaftATui.Proof.Driver.Crash
import RaftATui.Proof.Driver.Current
import RaftATui.Proof.Driver.FailedProposal
import RaftATui.Proof.Driver.Feed
import RaftATui.Proof.Driver.Frame
import RaftATui.Proof.Driver.Journal
import RaftATui.Proof.Driver.KvFold
import RaftATui.Proof.Driver.Ledger
import RaftATui.Proof.Driver.Lives
import RaftATui.Proof.Driver.Loop
import RaftATui.Proof.Driver.Mirror
import RaftATui.Proof.Driver.Moves
import RaftATui.Proof.Driver.NodeLog
import RaftATui.Proof.Driver.Outputs
import RaftATui.Proof.Driver.Pending
import RaftATui.Proof.Driver.Persisted
import RaftATui.Proof.Driver.Promise
import RaftATui.Proof.Driver.PutCommand
import RaftATui.Proof.Driver.Queued
import RaftATui.Proof.Driver.Redelivery
import RaftATui.Proof.Driver.Resilience
import RaftATui.Proof.Driver.Restart
import RaftATui.Proof.Driver.Screen
import RaftATui.Proof.Driver.Snapshots
import RaftATui.Proof.Driver.Sourced
import RaftATui.Proof.Driver.Transparent
import RaftATui.Proof.Driver.Turns
import RaftATui.Proof.Driver.WriteAhead
import RaftATui.Proof.Server.Deployable
import RaftATui.Proof.Server.LineEditor
import RaftATui.Proof.Server.Panel
import RaftATui.Proof.Server.PeerList
import RaftATui.Proof.Server.Process
import RaftATui.Proof.Snapshot.Format
import RaftATui.Proof.Snapshot.Malformed
import RaftATui.Proof.Snapshot.Replay
import RaftATui.Proof.Storage.AppendOverwrite
import RaftATui.Proof.Storage.Applied
import RaftATui.Proof.Storage.Backends
import RaftATui.Proof.Storage.Boot
import RaftATui.Proof.Storage.Bytes
import RaftATui.Proof.Storage.Compaction
import RaftATui.Proof.Storage.CrashAppend
import RaftATui.Proof.Storage.CrashPoints
import RaftATui.Proof.Storage.FailedWrites
import RaftATui.Proof.Storage.Initialize
import RaftATui.Proof.Storage.KeyOrder
import RaftATui.Proof.Storage.Log
import RaftATui.Proof.Storage.MemLog
import RaftATui.Proof.Storage.Persisted
import RaftATui.Proof.Storage.RangeRead
import RaftATui.Proof.Storage.Script
import RaftATui.Proof.Storage.SnapshotSuffix
import RaftATui.Proof.Storage.StaleSnapshot
import RaftATui.Proof.Storage.Startable
import RaftATui.Proof.Storage.Tally
import RaftATui.Proof.Transport.Carried
import RaftATui.Proof.Transport.Fabric
import RaftATui.Proof.Transport.Incremental
import RaftATui.Proof.Transport.Reconnect
import RaftATui.Proof.Transport.RoundTrip
