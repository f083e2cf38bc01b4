import ArtistNode.Base.Process
import ArtistNode.Base.Pool
import ArtistNode.Base.Sequential
import ArtistNode.Base.Journal
import ArtistNode.Base.Text
import ArtistNode.Base.Parse
import ArtistNode.Base.Hex
import ArtistNode.Store
import ArtistNode.Durability
import ArtistNode.Nip98
import ArtistNode.Effects
import ArtistNode.Gate
import ArtistNode.Admin
import ArtistNode.Lnurl
import ArtistNode.Daemon
import ArtistNode.Config
import ArtistNode.Justification
import ArtistNode.Authorization
import ArtistNode.Outcomes
import ArtistNode.Pricing
import ArtistNode.Steps
import ArtistNode.CrashSafety
import ArtistNode.Ledger
import ArtistNode.Delivery
import ArtistNode.PaidBuyer
import ArtistNode.Credentials
import ArtistNode.Signer
import ArtistNode.Replay
import ArtistNode.Catalog
import ArtistNode.Uploads
import ArtistNode.Downloads
import ArtistNode.FailedUpload
import ArtistNode.Receiving
import ArtistNode.Settlement
import ArtistNode.RpcUrl
import ArtistNode.Settings
import ArtistNode.Address
import ArtistNode.Recovery
import ArtistNode.PoisonedLock
import ArtistNode.EventLoop
import ArtistNode.Sales
import ArtistNode.Base.Json
import ArtistNode.IndexFormat
import ArtistNode.Invoices
import ArtistNode.Authority
import ArtistNode.Provenance
import ArtistNode.Base.Maps
import ArtistNode.Base.Simulation
import ArtistNode.Footprint
import ArtistNode.Renaming
import ArtistNode.Secrecy
import ArtistNode.Base.Erasure
import ArtistNode.Refusals
import ArtistNode.Isolation
