import HomeHub.Main
import HomeHub.Proofs.Delivery
import HomeHub.Proofs.ThermostatRuns
import HomeHub.Proofs.HandshakeLaws
import HomeHub.Proofs.StoreRuns
import HomeHub.Server.Loopback
import HomeHub.Workbench
import HomeHub.Proofs.Quiescence
import HomeHub.Proofs.Parking
import HomeHub.Proofs.Bursts
import HomeHub.Proofs.PageCorruption
import HomeHub.Proofs.HeaderLaws
import HomeHub.Proofs.Resynchronisation
import HomeHub.Proofs.RegistryLaws
import HomeHub.Proofs.ServerRuns
import HomeHub.Proofs.ReplyOwners
import HomeHub.Proofs.Directory
import HomeHub.Proofs.SessionNumbers
import HomeHub.Proofs.Publication
import HomeHub.Proofs.Restarts
import HomeHub.Proofs.Base64Laws
import HomeHub.Proofs.Sealing
import HomeHub.Proofs.DrainedFeeds
import HomeHub.Proofs.ReadRoom
import HomeHub.Proofs.WriterRuns
import HomeHub.Proofs.Conversation
import HomeHub.Proofs.DeviceRuns
import HomeHub.Proofs.Coalescing
import HomeHub.Proofs.StoreCalls
import HomeHub.Proofs.CrashSafety
import HomeHub.Proofs.Isolation
import HomeHub.Proofs.LatestValue
import HomeHub.Proofs.Dispatching
import HomeHub.Proofs.SettingsChanges
import HomeHub.Proofs.ShutDown
import HomeHub.Proofs.Hysteresis
import HomeHub.Proofs.FanOuts
import HomeHub.Proofs.ConnectionRuns
import HomeHub.Proofs.SizeGuard
import HomeHub.Proofs.TargetText
import HomeHub.Proofs.SetpointSafety
import HomeHub.Proofs.Reaping
import HomeHub.Proofs.StaleGaps
import HomeHub.Proofs.Abandonment
import HomeHub.Proofs.Draining
import HomeHub.Proofs.LinkReleases
import HomeHub.Proofs.PageFields
import HomeHub.Proofs.FlashCells
import HomeHub.Proofs.Flushing
import HomeHub.Proofs.Envelopes
import HomeHub.Proofs.LengthHeaders
import HomeHub.Proofs.AccumulatorCalls
import HomeHub.Proofs.HexLaws
import HomeHub.Proofs.Configurations
