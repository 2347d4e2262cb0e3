import PeerLink.Config.Environment
import PeerLink.Dispatch.Pool
import PeerLink.Link.Dial
import PeerLink.Link.Pair
import PeerLink.Log.Logger
import PeerLink.Proofs.Wire.Chunking
import PeerLink.Stream.Script
import PeerLink.Proofs.Wire.RuleOrder
import PeerLink.Proofs.Wire.PacketQueue
import PeerLink.Proofs.Wire.PrefixLoop
import PeerLink.Proofs.Wire.Appending
import PeerLink.Proofs.Link.OrderedStream
import PeerLink.Proofs.Link.Delivery
import PeerLink.Proofs.Link.OutgoingFrames
import PeerLink.Proofs.Link.AfterFailure
import PeerLink.Proofs.Dispatch.Routing
import PeerLink.Proofs.Dispatch.Poisoning
import PeerLink.Proofs.Traffic.Call
import PeerLink.Proofs.Traffic.Process
import PeerLink.Proofs.Traffic.Balance
import PeerLink.Proofs.Traffic.Gauge
import PeerLink.Proofs.Wire.Truncation
import PeerLink.Wire.Scanning
import PeerLink.Proofs.Wire.PrefixFree
import PeerLink.Proofs.Wire.Construction
import PeerLink.Proofs.Wire.Bounds
import PeerLink.Link.Recorded
import PeerLink.Proofs.Traffic.WholeWrite
import PeerLink.Proofs.Traffic.BoundedRead
import PeerLink.Proofs.Toml.Atoms
import PeerLink.Proofs.Toml.Sections
import PeerLink.Proofs.Config.PartialDocument
import PeerLink.Proofs.Config.Overrides
import PeerLink.Proofs.Traffic.Totals
import PeerLink.Proofs.Wire.HeaderRow
