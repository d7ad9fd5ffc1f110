import Rustory.Cli.AsyncUpload
import Rustory.Cli.AutoPrune
import Rustory.Cli.Doctor
import Rustory.Cli.PruneMarker
import Rustory.Cli.Record
import Rustory.Cli.RequestRetry
import Rustory.Config.Reinit
import Rustory.Foundations.Attempts
import Rustory.Foundations.Exchange
import Rustory.HistoryImport.BashFormat
import Rustory.HistoryImport.Failure
import Rustory.HistoryImport.Grammar
import Rustory.HistoryImport.Identity
import Rustory.HistoryImport.Order
import Rustory.Http.Push
import Rustory.Http.Relay
import Rustory.Http.Served
import Rustory.Http.Server
import Rustory.P2p.CachedPeers
import Rustory.P2p.Calls
import Rustory.P2p.Dialing
import Rustory.P2p.Migration
import Rustory.P2p.Presence
import Rustory.P2p.Publish
import Rustory.P2p.PushWire
import Rustory.P2p.Request
import Rustory.P2p.Retries
import Rustory.P2p.Serve
import Rustory.P2p.ServeAll
import Rustory.P2p.SyncRun
import Rustory.P2p.Timeouts
import Rustory.Search.Picker
import Rustory.Storage.Pending
import Rustory.Storage.Retention
import Rustory.Sync.BatchSize
import Rustory.Sync.Convergence
import Rustory.Sync.Network
import Rustory.Sync.NetworkConvergence
import Rustory.Sync.NetworkSafety
import Rustory.Sync.PruneRace
import Rustory.Sync.PullBatching
import Rustory.Sync.PushAdapts
import Rustory.Sync.PushQueue
import Rustory.Sync.RejectedBatch
import Rustory.Sync.SharedCursor
import Rustory.Tracker.Ttl
