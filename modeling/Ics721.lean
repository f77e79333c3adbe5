import Ics721.Library.Outcome
import Ics721.Library.StoreMap
import Ics721.Library.Codec
import Ics721.Library.Format
import Ics721.Library.Dispatch
import Ics721.Library.Trace
import Ics721.Library.Runs
import Ics721.Library.Vouchers
import Ics721.Library.Backing
import Ics721.Library.Conserved
import Ics721.Library.Copies
import Ics721.Library.Handshake
import Ics721.Library.Lockstep
import Ics721.Model.Types
import Ics721.Model.Storage
import Ics721.Model.Helpers
import Ics721.Model.Receive
import Ics721.Model.Contract
import Ics721.Model.Ibc
import Ics721.Model.Queries
import Ics721.Model.Json
import Ics721.Chain.Host
import Ics721.Chain.Cw721
import Ics721.Chain.Sample
import Ics721.Chain.Virus
import Ics721.Receive.Selection
import Ics721.Receive.Aggregate
import Ics721.Receive.Prefixes
import Ics721.Receive.Partition
import Ics721.Receive.Transaction
import Ics721.Settlement.Handlers
import Ics721.Registry.Handlers
import Ics721.Registry.Dispatch
import Ics721.Registry.Runs
import Ics721.Registry.Coherence
import Ics721.Bridge.Rules
import Ics721.Bridge.Emission
import Ics721.Bridge.Metadata
import Ics721.Bridge.Bookkeeping
import Ics721.Bridge.Authority
import Ics721.Bridge.Forwarding
import Ics721.Bridge.Journey
import Ics721.Bridge.Pause
import Ics721.Bridge.Reentry
import Ics721.Bridge.Pending
import Ics721.Bridge.Infection
import Ics721.Settlement.Emitted
import Ics721.Cw721.Calls
import Ics721.Cw721.Conformance
import Ics721.Cw721.Messages
import Ics721.Cw721.Transactions
import Ics721.Cw721.Effects
import Ics721.Cw721.Spared
import Ics721.Receive.Attributes
import Ics721.Receive.Approvals
import Ics721.Receive.Failure
import Ics721.Receive.Truth
import Ics721.Receive.Frame
import Ics721.Escrow.Steps
import Ics721.Escrow.Isolation
import Ics721.Escrow.Outgoing
import Ics721.Escrow.Apart
import Ics721.Escrow.Twins
import Ics721.Escrow.Runs
import Ics721.Escrow.Undo
import Ics721.Network.Model
import Ics721.Network.Sample
import Ics721.Network.Holders
import Ics721.Network.Orderly
import Ics721.Network.Packets
import Ics721.Network.Simulation
import Ics721.Network.Progress
import Ics721.Network.Secured
import Ics721.Network.Backed
import Ics721.Network.Chains
import Ics721.Network.Transfer
import Ics721.Network.RoundTrip
import Ics721.Network.Homecoming
import Ics721.Network.Arrival
import Ics721.Network.Careful
import Ics721.Network.Conserved
import Ics721.Network.Acceptance
import Ics721.Network.Channels
import Ics721.Network.Scene
import Ics721.Network.Order
import Ics721.Network.Shown
import Ics721.Network.Copies
