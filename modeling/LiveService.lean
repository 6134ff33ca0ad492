import LiveService.Http.RequestTarget
import LiveService.Json.Pointer
import LiveService.Main
import LiveService.Proofs.Net.Wakeup
import LiveService.Proofs.Store.Failure
import LiveService.Proofs.Store.History
import LiveService.Service.Shutdown
import LiveService.Store.Reaction
import LiveService.Proofs.Files.Content
import LiveService.Proofs.Store.Restore
import LiveService.Proofs.Json.Document
import LiveService.Proofs.Json.RoundTrip
import LiveService.Proofs.Json.Free
import LiveService.Config.App
import LiveService.Proofs.Config.RoundTrip
import LiveService.Proofs.Store.Agreement
import LiveService.Proofs.Net.Progress
import LiveService.Proofs.Net.Recovery
import LiveService.Proofs.Store.TornWrite
import LiveService.Proofs.Store.Frozen
import LiveService.Proofs.Store.Held
import LiveService.Proofs.Store.Opening
import LiveService.Proofs.Store.Rejection
import LiveService.Proofs.Net.Ending
import LiveService.Proofs.Net.DryRun
import LiveService.Proofs.Net.Target
import LiveService.Proofs.Net.Hearing
import LiveService.Proofs.Store.CommitPaths
import LiveService.Proofs.Service.Following
import LiveService.Proofs.Service.Watching
import LiveService.Proofs.Config.Recast
import LiveService.Proofs.Config.Schedule
import LiveService.Proofs.Store.Debate
import LiveService.Proofs.Net.FirstStart
import LiveService.Proofs.Http.Rpc
import LiveService.Proofs.Store.Broadcast
import LiveService.Proofs.Watch.Burst
import LiveService.Proofs.Net.Accounts
import LiveService.Proofs.Store.OwnFiles
import LiveService.Proofs.Net.Rollback
