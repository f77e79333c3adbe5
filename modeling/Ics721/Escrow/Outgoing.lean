import Ics721.Escrow.Isolation
import Ics721.Network.Sample

/-!
# Outgoing entries and what is in escrow

An outgoing entry says that the bridge holds an NFT.  Redemptions and refunds remove the
entry of what they give away.  Burning a voucher that went back to its source does not, so
the entries are right in every run without such a burn.
-/

namespace Ics721

open Library

namespace Deployment

variable {deployment : Deployment} {codeId : Nat} {world after : World Ledger}
variable {classId : ClassId} {tokenId : TokenId} {channelId : String} {contract : Addr}
variable {token : TokenInfo} {label : Chain.Label}

/-- Whatever has an outgoing entry is in escrow. -/
def OutgoingEscrowed (deployment : Deployment) (world : World Ledger) : Prop :=
  ∀ classId tokenId channelId,
    world.storage.outgoingClassTokenToChannel (classId, tokenId) = some channelId →
    ∃ contract token, deployment.InEscrow world classId tokenId channelId contract token

/-- No voucher that has an outgoing entry is burned: a packet whose success is acknowledged
carries none that came in on the packet's channel. -/
def BurnsNoRecorded (deployment : Deployment) (world : World Ledger) (event : deployment.Event) :
    Prop :=
  ∀ packet acknowledgement, event.label = .ack packet acknowledgement →
    tryGetAckError deployment.api acknowledgement = none →
    (∃ after, deployment.ackTx event.contracts world packet acknowledgement = .ok after) →
    ∀ classId tokenId, Carries deployment.api packet classId tokenId →
      world.storage.incomingClassTokenToChannel (classId, tokenId) =
        some packet.src.channelId →
      world.storage.outgoingClassTokenToChannel (classId, tokenId) = none

/-- Others can not touch what is in escrow. -/
theorem InEscrow.outside
    (escrow : deployment.InEscrow world classId tokenId channelId contract token)
    (extended : Extends world.storage after.storage)
    (outside : Ledger.Outside deployment.api deployment.bridge world.contracts after.contracts)
    (outgoing : after.storage.outgoingClassTokenToChannel (classId, tokenId) = some channelId) :
    deployment.InEscrow after classId tokenId channelId contract token where
  registered := extended.contract_kept escrow.registered
  present := outside.kept escrow.present escrow.owned
  owned := escrow.owned
  outgoing := outgoing

/-- What is sent is in escrow. -/
theorem OutgoingEscrowed.sends {sender : Addr} {request : Binary} {ledger : Ledger}
    (escrowed : deployment.OutgoingEscrowed world) (held : deployment.Held codeId world)
    (extended : Extends world.storage after.storage) (account : sender ≠ deployment.bridge)
    (call : world.contracts.call deployment.api sender contract
      (.sendNft deployment.bridge.addr tokenId request) = .ok ledger)
    (sends : deployment.Sends ⟨contract, tokenId, sender.addr, request⟩
      { world with contracts := ledger } after) :
    deployment.OutgoingEscrowed after := by
  have outside := (held.custody.call account call).2
  rcases sends with ⟨outgoing, storage, cls, token, dest, -, -, selected, present, -, rfl⟩
  have found := held.sound.registry.classFound selected
  rw [Ledger.call_sendNft] at call
  rcases Ledger.call_transferNft call with ⟨info, before, -, -, -, -, became⟩
  rw [became.nfts, StoreMap.save_self] at present
  intro classId other channelId sent
  by_cases same : (classId, other) = (cls.id, tokenId)
  · cases same
    refine ⟨contract, token, found.registered, ?_, ?_, sent⟩
    · simp only [became.nfts, StoreMap.save_self]
      exact present
    · cases present
      rfl
  · have earlier := sent
    simp only [StoreMap.save_of_ne same, found.outgoing] at earlier
    rcases escrowed classId other channelId earlier with ⟨source, held, escrow⟩
    exact ⟨source, held, escrow.outside extended outside sent⟩

/-- What is not redeemed keeps its outgoing entry, and only that. -/
theorem not_redeemed_of_outgoing {packet : IbcPacket} {data : NonFungibleTokenPacketData}
    {storage : Storage}
    (sent : (selectActions packet data storage).1.outgoingClassTokenToChannel
      (classId, tokenId) = some channelId) :
    storage.outgoingClassTokenToChannel (classId, tokenId) = some channelId ∧
      Action.redemption classId tokenId ∉ (selectActions packet data storage).2 := by
  rw [selectActions_eq] at sent ⊢
  constructor
  · exact of_outgoing_selectFrom sent
  · intro redeemed
    rw [(redemption_selectFrom redeemed).2.2] at sent
    cases sent

/-- What a refund leaves in the outgoing map is not carried by the packet. -/
theorem not_carried_of_outgoing {packet : IbcPacket}
    (refunds : deployment.Refunds packet world after)
    (sent : after.storage.outgoingClassTokenToChannel (classId, tokenId) = some channelId) :
    world.storage.outgoingClassTokenToChannel (classId, tokenId) = some channelId ∧
      ¬Carries deployment.api packet classId tokenId := by
  rcases refunds with ⟨data, source, ledger, decoded, -, -, -, rfl⟩
  constructor
  · exact StoreMap.of_foldl_remove sent
  · intro carried
    rcases carried with ⟨found, decodedAgain, named, member⟩
    rw [decoded] at decodedAgain
    cases decodedAgain
    have gone : (world.storage.clearOutgoing data.classId
        data.tokenIds).outgoingClassTokenToChannel (classId, tokenId) = none :=
      StoreMap.foldl_remove_of_mem ⟨tokenId, member, by rw [named]⟩
    rw [gone] at sent
    cases sent

theorem OutgoingEscrowed.executed {sender : Addr} {msg : WasmMsg}
    (escrowed : deployment.OutgoingEscrowed world) (held : deployment.Held codeId world)
    (extended : Extends world.storage after.storage) (noProxy : world.storage.proxy = none)
    (account : sender ≠ deployment.bridge)
    (noContract : world.contracts.infoAt deployment.api sender = none)
    (executed : deployment.Executed sender world msg after) :
    deployment.OutgoingEscrowed after := by
  have outside := (executed.custody account held.custody).2
  have keeps : after.storage.outgoingClassTokenToChannel =
      world.storage.outgoingClassTokenToChannel → deployment.OutgoingEscrowed after := by
    intro same classId tokenId channelId sent
    have earlier := sent
    rw [same] at earlier
    rcases escrowed classId tokenId channelId earlier with ⟨contract, token, escrow⟩
    exact ⟨contract, token, escrow.outside extended outside sent⟩
  cases executed with
  | called => exact keeps rfl
  | instantiated => exact keeps rfl
  | sent _ call _ _ sends => exact escrowed.sends held extended account call sends
  | forwarded named _ allowed sends =>
      exact absurd sends (Executed.no_forward noContract noProxy named allowed)
  | paused pause =>
      simp only [Storage.pause, bind_eq_ok, ite_error_eq_ok, pure_eq_ok] at pause
      rcases pause with ⟨-, -, -, rfl⟩
      exact keeps rfl

/-- What the chain does when a packet is acknowledged. -/
theorem happen_ack {event : deployment.Event} {packet : IbcPacket} {acknowledgement : Binary}
    (labelled : event.label = .ack packet acknowledgement) :
    (∃ done, deployment.ackTx event.contracts world packet acknowledgement = .ok done ∧
        deployment.happen world event = done) ∨
      ((∀ done, deployment.ackTx event.contracts world packet acknowledgement ≠ .ok done) ∧
        deployment.happen world event = world) := by
  unfold happen Chain.step
  rw [labelled]
  simp only [Chain.transaction]
  cases deployment.ackTx event.contracts world packet acknowledgement with
  | ok done => exact .inl ⟨done, rfl, rfl⟩
  | error failure => exact .inr ⟨by simp, rfl⟩

theorem OutgoingEscrowed.step (escrowed : deployment.OutgoingEscrowed world)
    (held : deployment.Held codeId world) (noProxy : world.storage.proxy = none)
    {event : deployment.Event} (allowed : deployment.BurnsNoRecorded world event) :
    deployment.OutgoingEscrowed (deployment.happen world event) := by
  have extended := held.extends event
  have stepped := held.stepped event
  have acks := fun packet ack => @happen_ack deployment world event packet ack
  unfold BurnsNoRecorded at allowed
  generalize deployment.happen world event = after at stepped extended acks
  generalize event.label = label at stepped acks allowed
  cases stepped with
  | stayed => exact escrowed
  | executed account noContract executed =>
      exact escrowed.executed held extended noProxy account noContract executed
  | received _ _ received =>
      intro classId tokenId channelId sent
      rw [received.outgoing] at sent
      rcases not_redeemed_of_outgoing sent with ⟨earlier, staying⟩
      rcases escrowed classId tokenId channelId earlier with ⟨contract, token, escrow⟩
      exact ⟨contract, token, escrow.received held received staying⟩
  | failed =>
      intro classId tokenId channelId sent
      rcases not_redeemed_of_outgoing sent with ⟨earlier, staying⟩
      rcases escrowed classId tokenId channelId earlier with ⟨contract, token, escrow⟩
      exact ⟨contract, token, escrow.noted staying⟩
  | refunded _ _ refunds =>
      intro classId tokenId channelId sent
      rcases not_carried_of_outgoing refunds sent with ⟨earlier, notCarried⟩
      rcases escrowed classId tokenId channelId earlier with ⟨contract, token, escrow⟩
      exact ⟨contract, token, escrow.refunded held refunds notCarried⟩
  | @burned packet acknowledgement _ pending success burns =>
      intro classId tokenId channelId sent
      have earlier : world.storage.outgoingClassTokenToChannel (classId, tokenId) =
          some channelId := by
        rcases burns with ⟨_, _, _, _, -, -, -, -, rfl⟩
        exact sent
      rcases escrowed classId tokenId channelId earlier with ⟨contract, token, escrow⟩
      rcases acks packet acknowledgement rfl with ⟨done, succeeded, -⟩ | ⟨-, rfl⟩
      · refine ⟨contract, token, escrow.burned held burns ?_⟩
        intro burned
        rw [allowed packet acknowledgement rfl success ⟨done, succeeded⟩ classId tokenId
          burned.1 burned.2] at earlier
        cases earlier
      · exact ⟨contract, token, escrow⟩
  | migrated migrated =>
      simp only [migrate, Storage.setPauser, bind_eq_ok, mapError_eq_ok, pure_eq_ok,
        Prod.mk.injEq] at migrated
      rcases migrated with ⟨_, -, _, ⟨_, -, rfl⟩, rfl, -⟩
      intro classId tokenId channelId sent
      rcases escrowed classId tokenId channelId sent with ⟨contract, token, escrow⟩
      exact ⟨contract, token, escrow.registered, escrow.present, escrow.owned, sent⟩

/-- What holds along runs in which no recorded voucher is burned. -/
structure Recorded (deployment : Deployment) (codeId : Nat) (world : World Ledger) : Prop
    extends deployment.Held codeId world where
  noProxy : world.storage.proxy = none
  escrowed : deployment.OutgoingEscrowed world

theorem Recorded.step (recorded : deployment.Recorded codeId world) (event : deployment.Event)
    (allowed : event.label.Direct ∧ deployment.BurnsNoRecorded world event) :
    deployment.Recorded codeId (deployment.happen world event) := by
  have held := recorded.toHeld
  have stepped := held.stepped event
  exact ⟨held.step event, stepped.noProxy held allowed.1 recorded.noProxy,
    recorded.escrowed.step held recorded.noProxy allowed.2⟩

/-- A voucher that has an outgoing entry keeps it when it is burned. -/
theorem OutgoingEscrowed.burnsNoRecorded (held : deployment.Held codeId world)
    {event : deployment.Event}
    (escrowed : deployment.OutgoingEscrowed (deployment.happen world event)) :
    deployment.BurnsNoRecorded world event := by
  intro packet acknowledgement labelled success settled classId tokenId carried came
  rcases settled with ⟨final, acked⟩
  have happened : deployment.happen world event = final := by
    rcases happen_ack labelled with ⟨done, again, same⟩ | ⟨failed, -⟩
    · rw [acked] at again
      cases again
      exact same
    · exact absurd acked (failed final)
  rw [happened] at escrowed
  rcases ackTx_cases event.conforms held.foreign acked with
    ⟨-, ⟨failure, -⟩ | ⟨-, data, contract, burned, ledger, decoded, known, arrived, called, rfl⟩⟩
  · exact absurd success failure
  · rcases carried with ⟨read, decodedAgain, rfl, member⟩
    rw [decoded] at decodedAgain
    cases decodedAgain
    cases sent : world.storage.outgoingClassTokenToChannel (data.classId, tokenId) with
    | none => rfl
    | some channelId =>
        rcases escrowed _ _ channelId sent with ⟨other, token, escrow⟩
        have same : other = contract := Option.some.inj (escrow.registered.symm.trans known)
        rw [same] at escrow
        rcases (Ledger.burned_of_callAll called).burned tokenId
            ((arrived.2 tokenId).mpr ⟨member, came⟩) with ⟨_, _, -, -, -, gone⟩
        have present := escrow.present
        rw [gone] at present
        cases present

end Deployment

/-- Whatever has an outgoing entry is in escrow in every state of a run if and only if no
voucher that has an outgoing entry is burned in it. -/
theorem outgoing_escrowed_of_run {deployment : Deployment} {msg : InstantiateMsg}
    {ledger : Ledger} {genesis : World Ledger} (unused : deployment.Unused ledger)
    (instantiated : deployment.instantiateTx deployment.contracts msg ledger = .ok genesis)
    {events : List deployment.Event} (direct : ∀ event ∈ events, event.label.Direct) :
    Along deployment.happen deployment.OutgoingEscrowed genesis events ↔
      Follows deployment.happen deployment.BurnsNoRecorded genesis events := by
  have held := Deployment.Held.instantiateTx (.refl _) unused instantiated
  constructor
  · intro along
    exact along.follows (fun world event held => held.step event)
      (fun world event held escrowed => escrowed.burnsNoRecorded held) held
  · intro follows
    rcases Deployment.instantiateTx_eq_ok (.refl _) instantiated with ⟨-, pauser, rfl⟩
    have start : deployment.Recorded msg.cw721BaseCodeId _ := ⟨held, rfl, by
      intro classId tokenId channelId sent
      cases sent⟩
    have along := (follows.and direct).along
      (fun world event recorded allowed => recorded.step event allowed) start
    exact along.mono fun world recorded => recorded.escrowed

theorem outgoing_escrowed_of_sample :
    (Sample.run Sample.sent).storage.outgoingClassTokenToChannel (⟨"contract0"⟩, ⟨"gem"⟩) =
        some "channel-0" ∧
      Sample.chain.OutgoingEscrowed (Sample.run Sample.sent) := by
  have follows : Follows Sample.chain.happen Sample.chain.BurnsNoRecorded Sample.genesis
      (Sample.sent.map (.of Sample.chain)) := by
    refine ⟨?_, ?_, ?_, trivial⟩
    all_goals
      intro packet acknowledgement labelled
      cases labelled
  have direct : ∀ event ∈ Sample.sent.map (Deployment.Event.of Sample.chain),
      event.label.Direct := by
    simp [Sample.sent, Sample.minted, Sample.sendGem, Deployment.Event.of, Chain.Label.Direct]
  have along := (outgoing_escrowed_of_run (Sample.chain.unused_empty)
    Sample.instantiateTx_genesis direct).mpr follows
  constructor
  · decide +kernel
  · rw [← List.append_nil (Sample.sent.map _)] at along
    have final := along.of_prefix
    rw [Deployment.foldl_happen] at final
    exact final

/-- Bob's voucher went back and was burned, and still has its outgoing entry. -/
theorem outgoing_stale_of_sample :
    ¬∀ place, (Sample.bridgeAt place).OutgoingEscrowed
      ((Sample.networkRun Sample.returned).worlds place) := by
  have observed :
      ((Sample.networkRun Sample.returned).worlds .away).storage.outgoingClassTokenToChannel
          (⟨"wasm.bridge/channel-5/contract0"⟩, ⟨"gem"⟩) = some "channel-5" ∧
        ((Sample.networkRun Sample.returned).worlds .away).storage.classIdToNftContract
          ⟨"wasm.bridge/channel-5/contract0"⟩ = some ⟨"contract0"⟩ ∧
        ((Sample.networkRun Sample.returned).worlds .away).contracts.nfts Sample.api
          (⟨"contract0"⟩, ⟨"gem"⟩) = none := by
    decide +kernel
  rcases observed with ⟨sent, registered, burned⟩
  intro escrowed
  rcases escrowed .away _ _ _ sent with ⟨contract, token, escrow⟩
  have same : contract = ⟨"contract0"⟩ :=
    Option.some.inj (escrow.registered.symm.trans registered)
  have present := escrow.present
  rw [same] at present
  have gone := burned.symm.trans present
  cases gone

end Ics721
