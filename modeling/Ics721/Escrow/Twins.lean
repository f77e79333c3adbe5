import Ics721.Bridge.Rules
import Ics721.Escrow.Apart

/-!
# Chains that differ in one NFT

The collections are the same but for the owner of the NFT, and one bridge has a packet under
way that the other has never sent.
-/

namespace Ics721

open Library

/-! ## Collections -/

/-- The collections are the same but for the NFT. -/
structure Collection.Twins (shipment : Shipment) (left right : Collection) : Prop where
  info : left.toCollectionInfo = right.toCollectionInfo
  tokens : ∀ tokenId, tokenId ≠ shipment.tokenId → left.tokens tokenId = right.tokens tokenId
  held : left.tokens shipment.tokenId = some shipment.held
  kept : right.tokens shipment.tokenId = some shipment.kept

namespace Collection.Twins

variable {api : Api} {shipment : Shipment} {left right : Collection} {sender : Addr}
variable {tokenId : TokenId}

theorem loadToken (twins : left.Twins shipment right) (other : tokenId ≠ shipment.tokenId) :
    left.loadToken tokenId = right.loadToken tokenId := by
  unfold Collection.loadToken StoreMap.load
  rw [twins.tokens tokenId other]

theorem save (twins : left.Twins shipment right) (other : tokenId ≠ shipment.tokenId)
    (info : CollectionInfo) (token : TokenInfo) :
    Collection.Twins shipment { toCollectionInfo := info, tokens := left.tokens.save tokenId token }
      { toCollectionInfo := info, tokens := right.tokens.save tokenId token } where
  info := rfl
  tokens := by
    intro query different
    simp only [StoreMap.save_apply]
    split
    next => rfl
    next => exact twins.tokens query different
  held := by
    simp only [StoreMap.save_of_ne (Ne.symm other)]
    exact twins.held
  kept := by
    simp only [StoreMap.save_of_ne (Ne.symm other)]
    exact twins.kept

theorem transferNft (twins : left.Twins shipment right) (other : tokenId ≠ shipment.tokenId)
    (recipient : String) :
    Alike (Collection.Twins shipment) (left.transferNft api sender recipient tokenId)
      (right.transferNft api sender recipient tokenId) := by
  simp only [Collection.transferNft, twins.loadToken other, twins.info]
  apply Alike.bind_same
  intro token _
  split
  next =>
    apply Alike.bind_same
    intro owner _
    exact .ok (twins.save other _ _)
  next => exact .error _

theorem updateApprovals (twins : left.Twins shipment right) (other : tokenId ≠ shipment.tokenId)
    (spender : String) (add : Bool) :
    Alike (Collection.Twins shipment) (left.updateApprovals api sender spender tokenId add)
      (right.updateApprovals api sender spender tokenId add) := by
  simp only [Collection.updateApprovals, twins.loadToken other, twins.info]
  apply Alike.bind_same
  intro token _
  split
  next =>
    apply Alike.bind_same
    intro owner _
    exact .ok (twins.save other _ _)
  next => exact .error _

theorem updateOperators (twins : left.Twins shipment right) (operator : String) (add : Bool) :
    Alike (Collection.Twins shipment) (left.updateOperators api sender operator add)
      (right.updateOperators api sender operator add) := by
  simp only [Collection.updateOperators]
  apply Alike.bind_same
  intro named _
  refine .ok ⟨?_, twins.tokens, twins.held, twins.kept⟩
  simp only [twins.info]

/-- A message that is not about the NFT. -/
theorem execute (twins : left.Twins shipment right) {msg : Cw721ExecuteMsg}
    (other : msg.names ≠ some shipment.tokenId) :
    Alike (Collection.Twins shipment) (left.execute api sender msg)
      (right.execute api sender msg) := by
  cases msg with
  | transferNft recipient tokenId =>
      exact twins.transferNft (fun same => other (congrArg some same)) recipient
  | sendNft contract tokenId msg =>
      exact twins.transferNft (fun same => other (congrArg some same)) contract
  | burn tokenId =>
      have different : tokenId ≠ shipment.tokenId := fun same => other (congrArg some same)
      simp only [Collection.execute, Collection.burn, twins.loadToken different, twins.info]
      apply Alike.bind_same
      intro token _
      split
      next =>
        refine .ok ⟨rfl, ?_, ?_, ?_⟩
        · intro query distinct
          simp only [StoreMap.remove_apply]
          split
          next => rfl
          next => exact twins.tokens query distinct
        · simp only [StoreMap.remove_of_ne (Ne.symm different)]
          exact twins.held
        · simp only [StoreMap.remove_of_ne (Ne.symm different)]
          exact twins.kept
      next => exact .error _
  | mint tokenId owner tokenUri =>
      have different : tokenId ≠ shipment.tokenId := fun same => other (congrArg some same)
      have has : left.tokens.has tokenId = right.tokens.has tokenId := by
        unfold StoreMap.has
        rw [twins.tokens tokenId different]
      simp only [Collection.execute, Collection.mint, has, twins.info]
      split
      next =>
        apply Alike.bind_same
        intro named _
        split
        next => exact .error _
        next =>
          exact .ok (twins.save different _ _)
      next => exact .error _
  | approve spender tokenId =>
      exact twins.updateApprovals (fun same => other (congrArg some same)) spender true
  | revoke spender tokenId =>
      exact twins.updateApprovals (fun same => other (congrArg some same)) spender false
  | approveAll operator => exact twins.updateOperators operator true
  | revokeAll operator => exact twins.updateOperators operator false

end Collection.Twins

/-! ## Ledgers -/

/-- The ledgers are the same but for the NFT. -/
structure Ledger.Twins (api : Api) (shipment : Shipment) (left right : Ledger) : Prop where
  instances : left.instances = right.instances
  others : ∀ contract, contract ≠ shipment.contract →
    left.contractAt api contract = right.contractAt api contract
  here : ∃ collection twin, left.contractAt api shipment.contract = some collection ∧
    right.contractAt api shipment.contract = some twin ∧ collection.Twins shipment twin
  uri : shipment.held.tokenUri = shipment.kept.tokenUri

namespace Ledger.Twins

variable {api : Api} {shipment : Shipment} {left right : Ledger} {contract : Addr}

theorem call (twins : Ledger.Twins api shipment left right) {sender : Addr}
    {msg : Cw721ExecuteMsg} (other : contract = shipment.contract →
      msg.names ≠ some shipment.tokenId) :
    Alike (Ledger.Twins api shipment) (left.call api sender contract msg)
      (right.call api sender contract msg) := by
  by_cases own : contract = shipment.contract
  · subst own
    rcases twins.here with ⟨collection, twin, found, there, same⟩
    have valid := (Ledger.contractAt_eq_some.mp found).1
    simp only [Ledger.call, found, there]
    apply Alike.bind (same.execute (other rfl))
    intro after twinAfter _ _ next
    refine .ok ⟨twins.instances, ?_, ?_, twins.uri⟩
    · intro query different
      rw [Ledger.contractAt_put valid, Ledger.contractAt_put valid, if_neg different,
        if_neg different]
      exact twins.others query different
    · refine ⟨after, twinAfter, ?_, ?_, next⟩
      · rw [Ledger.contractAt_put valid, if_pos rfl]
      · rw [Ledger.contractAt_put valid, if_pos rfl]
  · simp only [Ledger.call, twins.others contract own]
    cases there : right.contractAt api contract with
    | none => exact .error _
    | some collection =>
        have valid := (Ledger.contractAt_eq_some.mp there).1
        apply Alike.bind_same
        intro after _
        refine .ok ⟨twins.instances, ?_, ?_, twins.uri⟩
        · intro query different
          rw [Ledger.contractAt_put valid, Ledger.contractAt_put valid]
          split
          next => rfl
          next => exact twins.others query different
        · rw [Ledger.contractAt_put valid, Ledger.contractAt_put valid, if_neg (Ne.symm own),
            if_neg (Ne.symm own)]
          exact twins.here

theorem isSome_contractAt (twins : Ledger.Twins api shipment left right) (contract : Addr) :
    (left.contractAt api contract).isSome = (right.contractAt api contract).isSome := by
  by_cases own : contract = shipment.contract
  · rcases twins.here with ⟨collection, twin, found, there, -⟩
    rw [own, found, there]
    rfl
  · rw [twins.others contract own]

theorem instantiate {deployment : Deployment}
    (twins : Ledger.Twins deployment.api shipment left right) (msg : Cw721InstantiateMsg) :
    Alike (fun first second => first.1 = second.1 ∧
        Ledger.Twins deployment.api shipment first.2 second.2)
      (deployment.instantiate left msg) (deployment.instantiate right msg) := by
  simp only [Deployment.instantiate, twins.instances, twins.isSome_contractAt]
  apply Alike.bind_same
  intro minter _
  split
  next => exact .error _
  next free =>
    have valid := deployment.newAddress_valid right.instances
    have different : deployment.newAddress right.instances ≠ shipment.contract := by
      intro same
      rcases twins.here with ⟨collection, twin, -, there, -⟩
      rw [same, there] at free
      exact free rfl
    refine .ok ⟨rfl, rfl, ?_, ?_, twins.uri⟩
    · intro query distinct
      change (left.put _ _).contractAt _ query = (right.put _ _).contractAt _ query
      rw [Ledger.contractAt_put valid, Ledger.contractAt_put valid]
      split
      next => rfl
      next => exact twins.others query distinct
    · rcases twins.here with ⟨collection, twin, found, there, same⟩
      refine ⟨collection, twin, ?_, ?_, same⟩
      · change (left.put _ _).contractAt _ shipment.contract = _
        rw [Ledger.contractAt_put valid, if_neg (Ne.symm different), found]
      · change (right.put _ _).contractAt _ shipment.contract = _
        rw [Ledger.contractAt_put valid, if_neg (Ne.symm different), there]

/-- Queries have the same answers. -/
theorem querier {deployment : Deployment}
    (twins : Ledger.Twins deployment.api shipment left right) :
    deployment.contracts.querier left = deployment.contracts.querier right := by
  simp only [Contracts.querier, Querier.mk.injEq]
  constructor
  · funext contract tokenId
    simp only [Deployment.contracts, Ledger.nfts]
    by_cases own : contract = shipment.contract
    · subst own
      rcases twins.here with ⟨collection, twin, found, there, same⟩
      rw [found, there]
      simp only [Option.bind_some]
      by_cases token : tokenId = shipment.tokenId
      · rw [token, same.held, same.kept]
        simp only [twins.uri]
      · rw [same.tokens tokenId token]
    · rw [twins.others contract own]
  · funext contract
    simp only [Deployment.contracts]
    by_cases own : contract = shipment.contract
    · subst own
      rcases twins.here with ⟨collection, twin, found, there, same⟩
      rw [found, there]
      simp only [same.info]
    · rw [twins.others contract own]

end Ledger.Twins

/-! ## Worlds -/

namespace IbcPacket

/-- The packet where the one with the sequence number was not sent. -/
def without (sequence : Nat) (packet : IbcPacket) : IbcPacket :=
  { packet with
    sequence := if sequence < packet.sequence then packet.sequence - 1 else packet.sequence }

/-- The packet where one more has been sent, with the sequence number. -/
def besides (sequence : Nat) (packet : IbcPacket) : IbcPacket :=
  { packet with
    sequence := if packet.sequence < sequence then packet.sequence else packet.sequence + 1 }

theorem without_besides (sequence : Nat) (packet : IbcPacket) :
    (packet.besides sequence).without sequence = packet := by
  simp only [without, besides]
  congr 1
  split <;> split <;> omega

theorem besides_without {sequence : Nat} {packet : IbcPacket}
    (different : packet.sequence ≠ sequence) :
    (packet.without sequence).besides sequence = packet := by
  simp only [without, besides]
  congr 1
  split <;> split <;> omega

theorem sequence_besides (sequence : Nat) (packet : IbcPacket) :
    (packet.besides sequence).sequence ≠ sequence := by
  simp only [besides]
  split <;> omega

theorem besides_injective (sequence : Nat) : Function.Injective (besides sequence) := by
  intro first second same
  rw [← without_besides sequence first, same, without_besides]

end IbcPacket

/-- The world on the left has sent the NFT with the packet, which is not settled yet, and that
on the right has not. -/
structure World.Twins (deployment : Deployment) (shipment : Shipment) (packet : IbcPacket)
    (known : Prop) (left right : World Ledger) : Prop where
  storage : Apart shipment known left.storage right.storage
  ledger : Ledger.Twins deployment.api shipment left.contracts right.contracts
  pending : packet ∈ left.commitments
  commitments : left.commitments.erase packet =
    right.commitments.map (IbcPacket.besides packet.sequence)
  sequence : left.nextSequence = right.nextSequence + 1
  earlier : packet.sequence ≤ right.nextSequence

namespace World.Twins

variable {deployment : Deployment} {shipment : Shipment} {packet : IbcPacket} {known : Prop}
variable {left right : World Ledger} {caller : Addr}

/-- Handlers that only change the storage. -/
theorem withStorage (twins : World.Twins deployment shipment packet known left right)
    {leftAfter rightAfter : Storage} (leftSends rightSends : List SendRecord)
    (storage : Apart shipment known leftAfter rightAfter) :
    World.Twins deployment shipment packet known
      { left with storage := leftAfter, sends := leftSends }
      { right with storage := rightAfter, sends := rightSends } :=
  { twins with storage := storage }

theorem withLedger (twins : World.Twins deployment shipment packet known left right)
    {leftAfter rightAfter : Ledger}
    (ledger : Ledger.Twins deployment.api shipment leftAfter rightAfter) :
    World.Twins deployment shipment packet known { left with contracts := leftAfter }
      { right with contracts := rightAfter } :=
  { twins with ledger := ledger }

/-- The outcomes of a message in both worlds. -/
def Both (deployment : Deployment) (shipment : Shipment) (packet : IbcPacket) (known : Prop)
    (first second : Addr × Reaction (World Ledger) CosmosMsg ReplyData) : Prop :=
  first.1 = second.1 ∧
    World.Twins deployment shipment packet known first.2.world second.2.world ∧
    first.2.messages = second.2.messages ∧ first.2.data = second.2.data ∧
    ∀ sub ∈ first.2.messages, Unconcerned shipment known deployment.bridge first.1 sub

/-- A message to the bridge. -/
theorem executeBridge (twins : World.Twins deployment shipment packet known left right)
    {msg : ExecuteMsg} (avoids : Avoids shipment known deployment.bridge caller
      (.wasm (.execute deployment.bridge (.bridge msg)))) :
    Alike (Both deployment shipment packet known)
      (deployment.executeMsg deployment.contracts left caller
        (.wasm (.execute deployment.bridge (.bridge msg))))
      (deployment.executeMsg deployment.contracts right caller
        (.wasm (.execute deployment.bridge (.bridge msg)))) := by
  have lawful := Deployment.lawful (.refl deployment.contracts) 0
  have valid : ∀ info tokenId uri, (deployment.contracts.querier right.contracts).nftInfo info
      tokenId = .ok uri → '/' ∉ info.addr.toList :=
    fun info tokenId uri queried => deployment.api.valid_no_slash _
      (lawful.contract_valid (lawful.nftInfo_contract queried))
  simp only [Chain.executeMsg, if_true, twins.ledger.querier]
  apply Alike.bind (twins.storage.execute rfl valid avoids).mapError
  rintro first second - - ⟨next, same, permitted⟩
  refine .ok ⟨rfl, twins.withStorage _ _ next, ?_, ?_, permitted⟩
  · simp only [World.react, same]
  · simp only [World.react, same]

/-- A message to a collection. -/
theorem executeCollection (twins : World.Twins deployment shipment packet known left right)
    {contract : Addr} (foreign : contract ≠ deployment.bridge) {msg : ExecMsg}
    (avoids : Avoids shipment known deployment.bridge caller (.wasm (.execute contract msg))) :
    Alike (Both deployment shipment packet known)
      (deployment.executeMsg deployment.contracts left caller (.wasm (.execute contract msg)))
      (deployment.executeMsg deployment.contracts right caller
        (.wasm (.execute contract msg))) := by
  simp only [Chain.executeMsg, foreign, if_false]
  cases msg with
  | cw721 msg =>
      have other : contract = shipment.contract → msg.names ≠ some shipment.tokenId := by
        cases avoids with
        | cw721 other => exact other
      have ran : Alike (fun first second : Reaction Ledger CosmosMsg ReplyData =>
            Ledger.Twins deployment.api shipment first.world second.world ∧
              first.messages = msg.callbacks caller ∧ second.messages = msg.callbacks caller ∧
              first.data = second.data)
          (deployment.contracts.execute left.storage left.contracts caller contract (.cw721 msg))
          (deployment.contracts.execute right.storage right.contracts caller contract
            (.cw721 msg)) := by
        apply Alike.bind (twins.ledger.call other)
        intro first second _ _ next
        exact .ok ⟨next, rfl, rfl, rfl⟩
      apply Alike.bind ran.mapError
      rintro first second - - ⟨next, messages, again, data⟩
      refine .ok ⟨rfl, twins.withLedger next, messages.trans again.symm, data, ?_⟩
      intro sub member
      simp only [World.reactContract, messages] at member
      cases msg with
      | sendNft target tokenId request =>
          rw [List.mem_singleton.mp member]
          exact .plain (.receive _ _)
      | _ => cases member
  | bridge msg => exact .error _
  | other msg => exact .error _

/-- An instantiation. -/
theorem executeInstantiate (twins : World.Twins deployment shipment packet known left right)
    (admin : Option String) (code : Nat) (msg : InitMsg) (label : String) :
    Alike (Both deployment shipment packet known)
      (deployment.executeMsg deployment.contracts left caller
        (.wasm (.instantiate admin code msg label)))
      (deployment.executeMsg deployment.contracts right caller
        (.wasm (.instantiate admin code msg label))) := by
  simp only [Chain.executeMsg]
  cases msg with
  | other msg => exact .error _
  | cw721 msg =>
      have ran : Alike (fun first second : Addr × Reaction Ledger CosmosMsg ReplyData =>
            first.1 = second.1 ∧
              Ledger.Twins deployment.api shipment first.2.world second.2.world ∧
              first.2.messages = [] ∧ second.2.messages = [])
          (deployment.contracts.instantiate left.storage left.contracts caller code (.cw721 msg))
          (deployment.contracts.instantiate right.storage right.contracts caller code
            (.cw721 msg)) := by
        apply Alike.bind (twins.ledger.instantiate msg)
        rintro first second - - ⟨same, next⟩
        exact .ok ⟨same, next, rfl, rfl⟩
      apply Alike.bind ran.mapError
      rintro first second - - ⟨same, next, messages, again⟩
      refine .ok ⟨same, twins.withLedger next, messages.trans again.symm, ?_, ?_⟩
      · simp only [same]
      · intro sub member
        simp only [World.reactContract, messages] at member
        cases member

/-- The bridge sends another packet. -/
theorem executeSend (twins : World.Twins deployment shipment packet known left right)
    (msg : IbcMsg) :
    Alike (Both deployment shipment packet known)
      (deployment.executeMsg deployment.contracts left caller (.ibc msg))
      (deployment.executeMsg deployment.contracts right caller (.ibc msg)) := by
  cases msg with
  | sendPacket channelId data timeout =>
      simp only [Chain.executeMsg, Chain.sendPacket]
      split
      next =>
        cases deployment.counterparty channelId with
        | none => exact .error _
        | some dest =>
            refine .ok ⟨rfl, ⟨twins.storage, twins.ledger, ?_, ?_, ?_, ?_⟩, rfl, rfl, by simp⟩
            · exact List.mem_append_left _ twins.pending
            · rw [List.erase_append_left _ twins.pending, twins.commitments, List.map_append]
              have later : ¬right.nextSequence < packet.sequence := by
                have earlier := twins.earlier
                omega
              simp only [List.map_cons, List.map_nil, IbcPacket.besides, later, if_false,
                twins.sequence]
            · simp only [twins.sequence]
            · have earlier := twins.earlier
              simp only
              omega
      next => exact .ok ⟨rfl, twins, rfl, rfl, by simp⟩

theorem execute (twins : World.Twins deployment shipment packet known left right)
    {msg : CosmosMsg} (avoids : Avoids shipment known deployment.bridge caller msg) :
    Alike (Both deployment shipment packet known)
      (deployment.executeMsg deployment.contracts left caller msg)
      (deployment.executeMsg deployment.contracts right caller msg) := by
  cases msg with
  | ibc msg => exact twins.executeSend msg
  | wasm msg =>
      cases msg with
      | instantiate admin code msg label => exact twins.executeInstantiate admin code msg label
      | execute contract msg =>
          by_cases isBridge : contract = deployment.bridge
          · subst isBridge
            cases msg with
            | bridge msg => exact twins.executeBridge avoids
            | cw721 msg =>
                simp only [Chain.executeMsg, if_true]
                exact .error _
            | other msg =>
                simp only [Chain.executeMsg, if_true]
                exact .error _
          · exact twins.executeCollection isBridge avoids

/-- The outcomes of a reply in both worlds. -/
def Replied (deployment : Deployment) (shipment : Shipment) (packet : IbcPacket) (known : Prop)
    (caller : Addr) (first second : Reaction (World Ledger) CosmosMsg ReplyData) : Prop :=
  World.Twins deployment shipment packet known first.world second.world ∧
    first.messages = second.messages ∧ first.data = second.data ∧
    ∀ sub ∈ first.messages, Unconcerned shipment known deployment.bridge caller sub

/-- The submessage of a received packet becomes its acknowledgement. -/
theorem replyAck (twins : World.Twins deployment shipment packet known left right)
    (result : Except ChainError (Option ReplyData)) :
    Alike (Replied deployment shipment packet known deployment.bridge)
      (deployment.replyMsg deployment.contracts left deployment.bridge ackAndDoNothing result)
      (deployment.replyMsg deployment.contracts right deployment.bridge ackAndDoNothing
        result) := by
  simp only [Chain.replyMsg, if_true]
  cases result with
  | ok data => exact .ok ⟨twins, rfl, rfl, by simp [World.react]⟩
  | error err => exact .ok ⟨twins, rfl, rfl, by simp [World.react]⟩

/-- The reply of a collection that has just been instantiated. -/
theorem replyInstantiate {before other : World Ledger}
    (earlier : World.Twins deployment shipment packet known before other) {code : Nat}
    {name symbol : String} (label : String) {callee : Addr}
    {reaction : Reaction (World Ledger) CosmosMsg ReplyData}
    (different : name ≠ shipment.classId.id)
    (executed : deployment.executeMsg deployment.contracts before deployment.bridge
      (.wasm (.instantiate none code (.cw721 ⟨name, symbol, deployment.bridge.addr⟩) label)) =
        .ok (callee, reaction))
    (twins : World.Twins deployment shipment packet known left right)
    {data : Option ReplyData}
    (silent : reaction.messages = [] → left = reaction.world ∧ data = reaction.data) :
    Alike (Replied deployment shipment packet known deployment.bridge)
      (deployment.replyMsg deployment.contracts left deployment.bridge instantiateCw721ReplyId
        (.ok data))
      (deployment.replyMsg deployment.contracts right deployment.bridge instantiateCw721ReplyId
        (.ok data)) := by
  have lawful := Deployment.lawful (.refl deployment.contracts) code
  simp only [Chain.executeMsg, bind_eq_ok, mapError_eq_ok, pure_eq_ok, Prod.mk.injEq] at executed
  rcases executed with ⟨⟨contract, outcome⟩, ran, rfl, rfl⟩
  rcases lawful.instantiate_cw721 ran with ⟨quiet, named⟩
  rcases lawful.instantiate_fresh ran with ⟨fresh, -, -⟩
  rcases silent quiet with ⟨rfl, rfl⟩
  have unused : contract ≠ shipment.contract := by
    intro same
    rcases earlier.ledger.here with ⟨collection, twin, found, -⟩
    change (before.contracts.contractAt deployment.api contract).isSome = false at fresh
    rw [same, found] at fresh
    cases fresh
  simp only [Chain.replyMsg, if_true, reply_instantiateCw721]
  apply Alike.bind (twins.storage.replyInstantiateCw721 ?_ ?_).mapError
  · rintro first second - - ⟨next, same, messages⟩
    refine .ok ⟨{ twins with storage := next }, ?_, ?_, ?_⟩
    · simp only [World.react, same]
    · simp only [World.react, same]
    · intro sub member
      simp only [World.react, messages] at member
      cases member
  · rw [twins.ledger.querier]
  · intro address text parsed queried
    rw [← twins.ledger.querier] at queried
    cases parsed
    refine ⟨?_, unused⟩
    rw [named text queried]
    exact different

/-- Running the messages of one transaction. -/
def lockstep (deployment : Deployment) (shipment : Shipment) (packet : IbcPacket)
    (known : Prop) : (deployment.machine deployment.contracts).Lockstep where
  related := World.Twins deployment shipment packet known
  allowed := Unconcerned shipment known deployment.bridge
  execute twins unconcerned := twins.execute unconcerned.avoids
  replySuccess := by
    intro before other caller sub callee reaction left right data earlier unconcerned executed
      twins silent called
    cases unconcerned with
    | plain avoids => cases called
    | acked avoids => exact twins.replyAck _
    | collection code symbol label different =>
        exact earlier.replyInstantiate label different executed twins silent
  replyError := by
    intro left right caller sub err twins unconcerned called
    cases unconcerned with
    | plain avoids => cases called
    | acked avoids => exact twins.replyAck _
    | collection code symbol label different => cases called

end World.Twins

end Ics721
