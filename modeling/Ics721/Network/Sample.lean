import Ics721.Chain.Sample
import Ics721.Network.Model

/-!
# A network to run the bridges in

Two chains with two channels between them.
-/

namespace Ics721

open Library

namespace Sample

/-- The chains of the network. -/
inductive Place where
  | home
  | away
  deriving DecidableEq, Repr

/-- `channel-0` and `channel-1` of the home chain are `channel-5` and `channel-6` of the
other one. -/
def peer : Place → String → Option (Place × String)
  | .home, channelId =>
      if channelId = "channel-0" then some (.away, "channel-5")
      else if channelId = "channel-1" then some (.away, "channel-6")
      else none
  | .away, channelId =>
      if channelId = "channel-5" then some (.home, "channel-0")
      else if channelId = "channel-6" then some (.home, "channel-1")
      else none

/-- The four ends of the two channels. -/
theorem peer_cases {here there : Place} {channelId far : String}
    (opened : peer here channelId = some (there, far)) :
    (here = .home ∧ there = .away ∧
        (channelId = "channel-0" ∧ far = "channel-5" ∨
          channelId = "channel-1" ∧ far = "channel-6")) ∨
      (here = .away ∧ there = .home ∧
        (channelId = "channel-5" ∧ far = "channel-0" ∨
          channelId = "channel-6" ∧ far = "channel-1")) := by
  cases here with
  | home =>
      simp only [peer] at opened
      split at opened
      next first =>
        cases opened
        exact .inl ⟨rfl, rfl, .inl ⟨first, rfl⟩⟩
      next =>
        split at opened
        next second =>
          cases opened
          exact .inl ⟨rfl, rfl, .inr ⟨second, rfl⟩⟩
        next => cases opened
  | away =>
      simp only [peer] at opened
      split at opened
      next first =>
        cases opened
        exact .inr ⟨rfl, rfl, .inl ⟨first, rfl⟩⟩
      next =>
        split at opened
        next second =>
          cases opened
          exact .inr ⟨rfl, rfl, .inr ⟨second, rfl⟩⟩
        next => cases opened

/-- The bridge of a chain. -/
def bridgeAt (place : Place) : Deployment :=
  deployment (fun channelId => (peer place channelId).map fun other => ⟨"wasm.bridge", other.2⟩)
    (by cases place <;> rfl)

def network : Network Place where
  deployment := bridgeAt
  json := Json.serde
  speaks := fun _ => rfl
  peer := peer
  peer_symm := by
    intro here channelId there far opened
    rcases peer_cases opened with
      ⟨rfl, rfl, ⟨rfl, rfl⟩ | ⟨rfl, rfl⟩⟩ | ⟨rfl, rfl, ⟨rfl, rfl⟩ | ⟨rfl, rfl⟩⟩
    all_goals rfl
  peer_ne := by
    intro here channelId there far opened
    rcases peer_cases opened with ⟨rfl, rfl, -⟩ | ⟨rfl, rfl, -⟩
    · decide
    · decide
  counterparty := fun _ _ => rfl
  channel_no_slash := by
    intro here channelId ends opened
    rcases ends with ⟨there, far⟩
    rcases peer_cases opened with
      ⟨-, -, ⟨rfl, -⟩ | ⟨rfl, -⟩⟩ | ⟨-, -, ⟨rfl, -⟩ | ⟨rfl, -⟩⟩
    all_goals decide
  deep := by
    intro place
    cases place
    · decide
    · decide

/-- Both bridges start without collections. -/
def fresh : Network.State Place where
  worlds := fun _ => genesis
  acks := fun _ _ => none

theorem genesis_fresh : network.Genesis fresh where
  instantiated := by
    intro place
    refine ⟨instantiateMsg, ⟨.empty, 0⟩, (bridgeAt place).unused_empty, ?_, rfl⟩
    intro index _
    simp [Ledger.infoAt, Ledger.contractAt]
  undelivered := fun _ _ => rfl

/-- The state after a run of the network. -/
def networkRun (labels : List (Network.Label Place)) : Network.State Place :=
  labels.foldl network.step fresh

/-! ## There and back -/

/-- The packet with which Alice sends her NFT to Bob. -/
def outward : IbcPacket where
  data := api.packetData.toBinary
    ⟨⟨"contract0"⟩, none, none, [⟨"gem"⟩], none, none, "alice", "bob", none⟩
  src := ⟨"wasm.bridge", "channel-0"⟩
  dest := ⟨"wasm.bridge", "channel-5"⟩
  sequence := 0
  timeout := ⟨none, some 5⟩

/-- The packet with which Bob sends the voucher back. -/
def homeward : IbcPacket where
  data := api.packetData.toBinary
    ⟨⟨"wasm.bridge/channel-5/contract0"⟩, none, none, [⟨"gem"⟩], none, none, "bob", "alice",
      none⟩
  src := ⟨"wasm.bridge", "channel-5"⟩
  dest := ⟨"wasm.bridge", "channel-0"⟩
  sequence := 0
  timeout := ⟨none, some 5⟩

/-- Alice mints an NFT and sends it to Bob. -/
def crossed : List (Network.Label Place) :=
  [.execute .home ⟨"alice"⟩ (.instantiate none 1 (.cw721 ⟨"art", "ART", "alice"⟩) "art"),
    .execute .home ⟨"alice"⟩ (.execute ⟨"contract0"⟩ (.cw721 (.mint ⟨"gem"⟩ "alice" none))),
    .execute .home ⟨"alice"⟩ (.execute ⟨"contract0"⟩
      (.cw721 (.sendNft "bridge" ⟨"gem"⟩ (request "bob" "channel-0")))),
    .deliver .home outward,
    .acknowledge .home outward]

/-- Bob sends the voucher back. -/
def returned : List (Network.Label Place) :=
  crossed ++
    [.execute .away ⟨"bob"⟩ (.execute ⟨"contract0"⟩
      (.cw721 (.sendNft "bridge" ⟨"gem"⟩ (request "alice" "channel-5")))),
      .deliver .away homeward,
      .acknowledge .away homeward]

end Sample

end Ics721
