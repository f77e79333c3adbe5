import Ics721.Bridge.Pending
import Ics721.Settlement.Emitted

/-!
# A virus can not be cured by sending it back

When an NFT of a virus is refunded, the virus hands new NFTs to the bridge.  So each refund
that goes through leaves more of its packets than there were before, and only acceptance by
the other chains ever makes them fewer.
-/

namespace Ics721

open Library

/-! ## What the virus emits -/

/-- The bridge is told that it received an NFT of the contract. -/
def HandsOver (bridge contract : Addr) (sub : SubMsg CosmosMsg) : Prop :=
  ∃ tokenId payload, sub = (WasmMsg.execute bridge
    (.bridge (.receiveNft ⟨contract.addr, tokenId, payload⟩))).sub

/-- The accomplice is told to send an NFT to the bridge. -/
def SendsOn (accomplice : Option Addr) (bridge : Addr) (sub : SubMsg CosmosMsg) : Prop :=
  ∃ contract ∈ accomplice, ∃ tokenId payload, sub = (WasmMsg.execute contract
    (.cw721 (.sendNft bridge.addr tokenId payload))).sub

/-- Whether a message tells the bridge about an NFT. -/
def handed (bridge : Addr) (sub : SubMsg CosmosMsg) : Bool :=
  match sub.msg with
  | .wasm (.execute contract (.bridge (.receiveNft _))) => contract = bridge
  | _ => false

theorem HandsOver.handed {bridge contract : Addr} {sub : SubMsg CosmosMsg}
    (hands : HandsOver bridge contract sub) : handed bridge sub = true := by
  rcases hands with ⟨tokenId, payload, rfl⟩
  exact decide_eq_true rfl

section Transfer

variable {api : Api} {env : Env} {sender contract bridge : Addr}

theorem hands_of_mintAndSend {ibcMsg : IbcOutgoingMsg} {index : Nat}
    {state after : Collection × Nat} {sub : SubMsg CosmosMsg}
    (done : mintAndSend api env sender contract bridge ibcMsg index state = .ok (after, sub)) :
    HandsOver bridge contract sub := by
  simp only [mintAndSend, bind_eq_ok, pure_eq_ok, Prod.mk.injEq] at done
  rcases done with ⟨_, -, -, rfl⟩
  exact ⟨_, _, rfl⟩

/-- Every message gets an NFT in front of it. -/
theorem interleaved {ibcMsg : IbcOutgoingMsg} {index : Nat} {state after : Collection × Nat}
    {msgs all : List (SubMsg CosmosMsg)}
    (done : interleave api env sender contract bridge ibcMsg index state msgs =
      .ok (after, all)) :
    (∀ sub ∈ all, sub ∈ msgs ∨ HandsOver bridge contract sub) ∧
      all.length = 2 * msgs.length ∧ msgs.length ≤ all.countP (handed bridge) := by
  induction msgs generalizing index state after all with
  | nil =>
      simp only [interleave, Except.ok.injEq, Prod.mk.injEq] at done
      rcases done with ⟨-, rfl⟩
      exact ⟨by simp, rfl, Nat.le_refl 0⟩
  | cons msg msgs ih =>
      simp only [interleave, bind_eq_ok, pure_eq_ok, Prod.mk.injEq, Prod.exists] at done
      rcases done with ⟨_, _, send, minted, _, _, rest, remaining, -, rfl⟩
      have hands := hands_of_mintAndSend minted
      rcases ih remaining with ⟨each, long, counted⟩
      refine ⟨?_, ?_, ?_⟩
      · intro sub member
        rcases List.mem_cons.mp member with rfl | member
        · exact .inr hands
        rcases List.mem_cons.mp member with rfl | member
        · exact .inl List.mem_cons_self
        rcases each sub member with earlier | hands
        · exact .inl (List.mem_cons_of_mem _ earlier)
        · exact .inr hands
      · simp only [List.length_cons, long]
        omega
      · rw [List.countP_cons_of_pos hands.handed, List.countP_cons, List.length_cons]
        omega

/-- What is missing is made up for by new NFTs. -/
theorem padded {ibcMsg : IbcOutgoingMsg} {missing : Nat} {state after : Collection × Nat}
    {msgs all : List (SubMsg CosmosMsg)}
    (done : pad api env sender contract bridge ibcMsg missing state msgs = .ok (after, all)) :
    (∀ sub ∈ all, sub ∈ msgs ∨ HandsOver bridge contract sub) ∧
      all.countP (handed bridge) = msgs.countP (handed bridge) + missing := by
  induction missing generalizing ibcMsg state msgs with
  | zero =>
      simp only [pad, Except.ok.injEq, Prod.mk.injEq] at done
      rcases done with ⟨-, rfl⟩
      exact ⟨fun _ => .inl, rfl⟩
  | succ missing ih =>
      simp only [pad, bind_eq_ok] at done
      rcases done with ⟨⟨middle, send⟩, minted, remaining⟩
      have hands := hands_of_mintAndSend minted
      rcases ih remaining with ⟨each, counted⟩
      refine ⟨?_, ?_⟩
      · intro sub member
        rcases each sub member with earlier | hands
        · rcases List.mem_append.mp earlier with earlier | new
          · exact .inl earlier
          · rw [List.mem_singleton.mp new]
            exact .inr hands
        · exact .inr hands
      · rw [counted, List.countP_append, List.countP_singleton, if_pos hands.handed]
        omega

/-- How many NFTs a virus hands to the bridge at least when one of its NFTs is transferred. -/
def SpikeProteins.burst (proteins : SpikeProteins) : Nat :=
  if proteins.accompliceDst = none then 10 else 5

theorem accompliceMessages_sends {tokens : Addr → Except String (List TokenId)}
    {ibcMsg : IbcOutgoingMsg} {accomplice : Option Addr} {msgs : List (SubMsg CosmosMsg)}
    (done : accompliceMessages api tokens bridge ibcMsg accomplice = .ok msgs) :
    (∀ sub ∈ msgs, SendsOn accomplice bridge sub) ∧ (accomplice = none → msgs = []) := by
  cases accomplice with
  | none =>
      cases done
      exact ⟨by simp, fun _ => rfl⟩
  | some accomplice =>
      simp only [accompliceMessages, bind_eq_ok, pure_eq_ok] at done
      rcases done with ⟨owned, -, rfl⟩
      refine ⟨?_, by simp⟩
      intro sub member
      rcases List.mem_map.mp member with ⟨tokenId, -, rfl⟩
      exact ⟨accomplice, rfl, _, _, rfl⟩

/-- A transfer of an NFT of a virus.  The virus has to know a bridge, and still does. -/
theorem bursts_of_executeTransferNft {tokens : Addr → Except String (List TokenId)}
    {collection : Collection} {proteins : SpikeProteins}
    {after : Collection × SpikeProteins × List (SubMsg CosmosMsg)}
    (done : executeTransferNft api env sender contract tokens collection proteins = .ok after) :
    ∃ bridge, proteins.bridgeContract = some bridge ∧ after.2.1.bridgeContract = some bridge ∧
      (∀ sub ∈ after.2.2, SendsOn proteins.accompliceDst bridge sub ∨
        HandsOver bridge contract sub) ∧
      proteins.burst ≤ after.2.2.countP (handed bridge) := by
  simp only [executeTransferNft, bind_eq_ok, pure_eq_ok, Prod.exists] at done
  rcases done with ⟨receiver, -, channelId, -, bridge, loaded, msgs, sends, _, _, woven, inserted,
    _, _, all, filled, rfl⟩
  have known : proteins.bridgeContract = some bridge := by
    unfold loadItem at loaded
    split at loaded
    next value known =>
      rw [known]
      exact congrArg some (Except.ok.inj loaded)
    next => cases loaded
  rcases accompliceMessages_sends sends with ⟨sendsOn, alone⟩
  rcases interleaved inserted with ⟨each, long, counted⟩
  rcases padded filled with ⟨every, total⟩
  refine ⟨bridge, known, known, ?_, ?_⟩
  · intro sub member
    rcases every sub member with earlier | hands
    · rcases each sub earlier with own | hands
      · exact .inl (sendsOn sub own)
      · exact .inr hands
    · exact .inr hands
  · change proteins.burst ≤ all.countP (handed bridge)
    rw [total, SpikeProteins.burst]
    split
    next single =>
      rw [alone single] at long
      simp only [long, List.length_nil]
      omega
    next => omega

end Transfer

/-! ## What it makes the bridge take -/

section Calls

variable {σ : Type} {chain : Chain} {contracts : Contracts σ}

theorem Numbered.handedBy_le {before after : World σ} (numbered : Numbered before after)
    (contract : Addr) : handedBy contract before.sends ≤ handedBy contract after.sends := by
  rcases numbered with ⟨records, -, sent, -⟩
  rw [sent, handedBy_append]
  exact Nat.le_add_right _ _

/-- A message that tells the bridge about an NFT is a reception if it goes through. -/
theorem handed_of_executeMsg {world : World σ} {contract callee : Addr}
    {sub : SubMsg CosmosMsg} {reaction : Reaction (World σ) CosmosMsg ReplyData}
    (executed : chain.executeMsg contracts world contract sub.msg = .ok (callee, reaction)) :
    handedBy contract world.sends + (handed chain.bridge sub).toNat ≤
      handedBy contract reaction.world.sends := by
  cases hands : handed chain.bridge sub with
  | false => exact (Numbered.executeMsg executed).handedBy_le contract
  | true =>
      unfold handed at hands
      split at hands
      next callee msg content =>
        rw [of_decide_eq_true hands] at content
        rw [content] at executed
        cases executed_of_executeMsg executed with
        | called different => exact absurd rfl different
        | @sent _ record _ _ _ sends =>
            simp only [ExecuteMsg.sendRecord, Option.some.injEq] at sends
            rw [← sends, handedBy_append]
            simp [handedBy]
      next => cases hands

/-- Messages of a contract that have to go through are counted. -/
theorem handed_of_dispatch {depth : Nat} {world : World σ} {contract : Addr}
    {subs : List (SubMsg CosmosMsg)} {data : Option ReplyData}
    {result : World σ × Option ReplyData} (needed : ∀ sub ∈ subs, sub.replyOn = .never)
    (ran : (chain.machine contracts).dispatch depth world contract subs data = .ok result) :
    handedBy contract world.sends + subs.countP (handed chain.bridge) ≤
      handedBy contract result.1.sends := by
  induction subs generalizing world data with
  | nil =>
      rw [Machine.dispatch_nil, Except.ok.injEq] at ran
      subst ran
      exact Nat.le_refl _
  | cons sub subs ih =>
      cases depth with
      | zero => cases ran
      | succ depth =>
          rw [Machine.dispatch_succ_cons, bind_eq_ok] at ran
          rcases ran with ⟨middle, first, rest⟩
          rw [Machine.runOne_never (needed sub List.mem_cons_self)] at first
          simp only [bind_eq_ok, pure_eq_ok, Prod.exists] at first
          rcases first with ⟨callee, reaction, executed, inner, _, called, rfl⟩
          have here : handedBy contract world.sends + (handed chain.bridge sub).toNat ≤
              handedBy contract reaction.world.sends :=
            handed_of_executeMsg executed
          have grown : handedBy contract reaction.world.sends ≤ handedBy contract inner.sends :=
            ((Numbered.follower chain contracts).dispatch called).handedBy_le contract
          have later : handedBy contract inner.sends + subs.countP (handed chain.bridge) ≤
              handedBy contract result.1.sends :=
            ih (fun other member => needed other (List.mem_cons_of_mem _ member)) rest
          rw [List.countP_cons]
          cases hands : handed chain.bridge sub with
          | false =>
              simp only [hands, Bool.toNat_false] at here
              simp only [Bool.false_eq_true, if_false]
              omega
          | true =>
              simp only [hands, Bool.toNat_true] at here
              simp only [if_true]
              omega

end Calls

/-- The settlement of a packet that failed starts with one refund. -/
theorem Fails.refunds {σ : Type} {chain : Chain} {contracts : Contracts σ} {codeId : Nat}
    {world start : World σ} {packet : IbcPacket} {label : Chain.Label} {caller : Addr}
    {subs : List (SubMsg CosmosMsg)} (lawful : Lawful chain contracts codeId)
    (sound : Sound chain contracts codeId world) (fails : Fails chain.api packet label)
    (started : Started chain contracts world label start caller subs) :
    ∃ record, world.sends[packet.sequence]? = some record ∧ subs = [Emitted.refund record] ∧
      start.contracts = world.contracts ∧ start.sends = world.sends := by
  have pending := (fails.started started).1
  rcases sound.emitted lawful pending [] with ⟨record, data, recorded, emitted⟩
  have settleable := emitted.settleable
  refine ⟨record, recorded, ?_⟩
  cases fails with
  | timeout =>
      cases started with
      | timedOut _ handled =>
          rcases settleable.timeout with ⟨_, _, same, refund⟩
          change ibcPacketTimeout chain.api world.storage packet = _ at same
          rw [handled] at same
          cases same
          exact ⟨refund, rfl, rfl⟩
  | refused read =>
      cases started with
      | acked _ handled =>
          rcases settleable.ack _ with ⟨_, _, same, refund⟩
          change ibcPacketAck chain.api world.storage packet _ = _ at same
          rw [handled] at same
          cases same
          exact ⟨refund (by rw [read]; simp), rfl, rfl⟩

/-! ## Infected chains -/

namespace Deployment

variable {deployment : Deployment} {env : Env} {virusCode codeId : Nat} {contract : Addr}
variable {tokens : Ledger → (contract owner : Addr) → Except String (List TokenId)}

/-- The contract is a virus that knows where the bridge is. -/
structure Armed (deployment : Deployment) (contract : Addr) (state : Infected) : Prop where
  present : ∃ collection, state.ledger.contractAt deployment.api contract = some collection
  configured : ∃ proteins, state.viruses contract = some proteins ∧
    proteins.bridgeContract = some deployment.bridge

/-- How many NFTs a contract hands over at least when one of its NFTs is refunded. -/
def burstOf (state : Infected) (contract : Addr) : Nat :=
  ((state.viruses contract).map SpikeProteins.burst).getD 0

theorem Armed.burstOf_ge {state : Infected} (armed : deployment.Armed contract state) :
    5 ≤ burstOf state contract := by
  rcases armed.configured with ⟨proteins, configured, -⟩
  simp only [burstOf, configured, Option.map_some, Option.getD_some, SpikeProteins.burst]
  split
  next => decide
  next => decide

/-- A refund of an NFT of a virus. -/
theorem Armed.refunded {state : Infected} (armed : deployment.Armed contract state)
    {storage : Storage} {sender : Addr} {recipient : String} {tokenId : TokenId}
    {reaction : Reaction Infected CosmosMsg ReplyData}
    (executed : (deployment.infectedContracts env tokens virusCode).execute storage state sender
      contract (.cw721 (.transferNft recipient tokenId)) = .ok reaction) :
    (∀ sub ∈ reaction.messages, sub.replyOn = .never) ∧
      burstOf state contract ≤ reaction.messages.countP (handed deployment.bridge) := by
  rcases armed.present with ⟨collection, present⟩
  rcases armed.configured with ⟨proteins, configured, bridge⟩
  simp only [infectedContracts, present, configured, executeVirus, bind_eq_ok,
    pure_eq_ok] at executed
  rcases executed with ⟨after, done, rfl⟩
  rcases bursts_of_executeTransferNft done with ⟨_, known, -, each, counted⟩
  rw [bridge, Option.some.injEq] at known
  subst known
  refine ⟨?_, ?_⟩
  · intro sub member
    rcases each sub member with ⟨_, _, _, _, rfl⟩ | ⟨_, _, rfl⟩
    · rfl
    · rfl
  · simp only [burstOf, configured, Option.map_some, Option.getD_some]
    exact counted

/-- The refund of an NFT of a virus, if it goes through, hands new ones to the bridge. -/
theorem Armed.spreads {world after : World Infected}
    (armed : deployment.Armed contract world.contracts)
    (sound : Sound deployment.toChain (deployment.infectedContracts env tokens virusCode) codeId
      world)
    {packet : IbcPacket} {label : Chain.Label} (fails : Fails deployment.api packet label)
    (own : sentFor world.sends contract packet = true)
    (done : deployment.transaction (deployment.infectedContracts env tokens virusCode) world
      label = .ok after) :
    handedBy contract world.sends + burstOf world.contracts contract ≤
      handedBy contract after.sends := by
  have lawful := infected_lawful deployment env tokens virusCode codeId
  rcases fails.dispatched done with ⟨start, subs, result, begun, ran, rfl⟩
  rcases fails.refunds lawful sound (started_of_begins begun) with
    ⟨record, recorded, rfl, state, sends⟩
  have same : record.contract = contract := by
    simp only [sentFor, recorded, Option.any_some, decide_eq_true_eq] at own
    exact own
  rw [Machine.dispatch_succ_cons, Machine.runOne_never rfl, bind_eq_ok] at ran
  simp only [bind_eq_ok, pure_eq_ok, Prod.exists, Machine.dispatch_nil, Except.ok.injEq] at ran
  rcases ran with ⟨_, _, ⟨callee, reaction, executed, inner, _, called, same'⟩, rfl⟩
  cases same'
  have transfer : deployment.executeMsg (deployment.infectedContracts env tokens virusCode) start
      deployment.bridge (.wasm (.execute contract
        (.cw721 (.transferNft record.sender record.tokenId)))) = .ok (callee, reaction) := by
    rw [← same]
    exact executed
  cases executed_of_executeMsg transfer with
  | @called _ _ outcome different ran =>
      rw [state] at ran
      rcases armed.refunded ran with ⟨needed, counted⟩
      have handed := handed_of_dispatch needed called
      rw [← sends]
      exact Nat.le_trans (Nat.add_le_add_left counted _) handed

/-! ### Nothing but a new configuration disarms a virus -/

/-- The message configures the contract. -/
def Configures (contract : Addr) (msg : CosmosMsg) : Prop :=
  ∃ text, msg = .wasm (.execute contract (.other text))

theorem not_configures_callbacks {sender : Addr} {msg : Cw721ExecuteMsg}
    {sub : SubMsg CosmosMsg} (member : sub ∈ msg.callbacks sender) :
    ¬Configures contract sub.msg := by
  cases msg with
  | sendNft =>
      rw [List.mem_singleton.mp member]
      rintro ⟨text, ⟨⟩⟩
  | transferNft => cases member
  | mint => cases member
  | burn => cases member
  | approve => cases member
  | revoke => cases member
  | approveAll => cases member
  | revokeAll => cases member

/-- The virus stays armed when contracts are called, unless it is configured. -/
theorem Armed.execute {state : Infected} (armed : deployment.Armed contract state)
    {storage : Storage} {sender callee : Addr} {msg : ExecMsg}
    {reaction : Reaction Infected CosmosMsg ReplyData}
    (spared : ¬Configures contract (.wasm (.execute callee msg)))
    (executed : (deployment.infectedContracts env tokens virusCode).execute storage state sender
      callee msg = .ok reaction) :
    deployment.Armed contract reaction.world ∧
      ∀ sub ∈ reaction.messages, ¬Configures contract sub.msg := by
  have lawful := infected_lawful deployment env tokens virusCode 0
  have present : ∃ collection,
      reaction.world.ledger.contractAt deployment.api contract = some collection := by
    apply Option.isSome_iff_exists.mp
    exact lawful.execute_kept executed (Option.isSome_iff_exists.mpr armed.present)
  rcases armed.configured with ⟨own, configured, bridge⟩
  have saved : ∀ proteins, (callee = contract → proteins.bridgeContract = some deployment.bridge) →
      ∃ after, state.viruses.save callee proteins contract = some after ∧
        after.bridgeContract = some deployment.bridge := by
    intro proteins kept
    rw [StoreMap.save_apply]
    split
    next same => exact ⟨proteins, rfl, kept same.symm⟩
    next => exact ⟨own, configured, bridge⟩
  have knows : ∀ {proteins}, state.viruses callee = some proteins → callee = contract →
      proteins.bridgeContract = some deployment.bridge := by
    intro proteins infected same
    rw [same, configured, Option.some.injEq] at infected
    rw [← infected]
    exact bridge
  simp only [infectedContracts] at executed
  split at executed
  next collection proteins there infected =>
    unfold executeVirus at executed
    split at executed
    next =>
      simp only [bind_eq_ok, pure_eq_ok] at executed
      rcases executed with ⟨after, done, rfl⟩
      rcases bursts_of_executeTransferNft done with ⟨other, known, still, each, -⟩
      refine ⟨⟨present, saved _ ?_⟩, ?_⟩
      · intro same
        rw [still, ← known]
        exact knows infected same
      · intro sub member
        rcases each sub member with ⟨_, _, _, _, rfl⟩ | ⟨_, _, rfl⟩
        · rintro ⟨text, ⟨⟩⟩
        · rintro ⟨text, ⟨⟩⟩
    next msg _ =>
      simp only [bind_eq_ok, pure_eq_ok] at executed
      rcases executed with ⟨_, -, rfl⟩
      refine ⟨⟨present, saved _ ?_⟩, fun sub => not_configures_callbacks⟩
      intro same
      rw [← knows infected same]
      cases msg <;> rfl
    next text =>
      simp only [bind_eq_ok, pure_eq_ok] at executed
      rcases executed with ⟨_, -, proteins', -, rfl⟩
      refine ⟨⟨present, saved _ ?_⟩, by simp⟩
      intro same
      exact absurd ⟨text, by rw [same]⟩ spared
    next => cases executed
  next =>
    simp only [bind_eq_ok, pure_eq_ok] at executed
    rcases executed with ⟨inner, ran, rfl⟩
    refine ⟨⟨present, own, configured, bridge⟩, ?_⟩
    simp only [contracts] at ran
    split at ran
    next =>
      simp only [bind_eq_ok, pure_eq_ok] at ran
      rcases ran with ⟨_, -, rfl⟩
      exact fun sub => not_configures_callbacks
    next => cases ran

theorem Armed.instantiate {state : Infected} (armed : deployment.Armed contract state)
    {storage : Storage} {sender callee : Addr} {code : Nat} {msg : InitMsg}
    {reaction : Reaction Infected CosmosMsg ReplyData}
    (instantiated : (deployment.infectedContracts env tokens virusCode).instantiate storage state
      sender code msg = .ok (callee, reaction)) :
    deployment.Armed contract reaction.world ∧ reaction.messages = [] := by
  have lawful := infected_lawful deployment env tokens virusCode 0
  have present : ∃ collection,
      reaction.world.ledger.contractAt deployment.api contract = some collection := by
    apply Option.isSome_iff_exists.mp
    exact lawful.instantiate_kept instantiated (Option.isSome_iff_exists.mpr armed.present)
  have fresh : contract ≠ callee := by
    intro same
    have free := (lawful.instantiate_fresh instantiated).1
    rw [← same] at free
    change (state.ledger.contractAt deployment.api contract).isSome = false at free
    rw [Option.isSome_iff_exists.mpr armed.present] at free
    cases free
  rcases armed.configured with ⟨own, configured, bridge⟩
  simp only [infectedContracts, bind_eq_ok, pure_eq_ok, Prod.mk.injEq] at instantiated
  rcases instantiated with ⟨⟨_, inner⟩, ran, rfl, rfl⟩
  refine ⟨⟨present, own, ?_, bridge⟩, ?_⟩
  · change (if code = virusCode then state.viruses.save _ .initial else state.viruses) contract = _
    split
    next => rw [StoreMap.save_of_ne fresh, configured]
    next => exact configured
  · change inner.messages = []
    simp only [contracts] at ran
    split at ran
    next =>
      simp only [bind_eq_ok, pure_eq_ok, Prod.mk.injEq] at ran
      rcases ran with ⟨_, -, -, rfl⟩
      rfl
    next => cases ran

/-- What may be run without configuring a virus. -/
structure Spares (deployment : Deployment) (contract : Addr) (built : CallbackMsg → Prop)
    (caller : Addr) (sub : SubMsg CosmosMsg) : Prop where
  own : caller = deployment.bridge →
    Own deployment.bridge built sub ∨ ∃ msg, sub.msg = .ibc msg
  silent : ¬Configures contract sub.msg

theorem Spares.of_own {built : CallbackMsg → Prop} {caller : Addr} {sub : SubMsg CosmosMsg}
    (own : Own deployment.bridge built sub) : deployment.Spares contract built caller sub := by
  refine ⟨fun _ => .inl own, ?_⟩
  cases own with
  | cw721 => rintro ⟨text, ⟨⟩⟩
  | callback => rintro ⟨text, ⟨⟩⟩
  | acked => rintro ⟨text, ⟨⟩⟩
  | collection => rintro ⟨text, ⟨⟩⟩
  | proxy => rintro ⟨text, ⟨⟩⟩

/-- A virus is armed, and what is to be run leaves it so. -/
structure KeepsArmed (deployment : Deployment) (contract : Addr) (built : CallbackMsg → Prop)
    (caller : Addr) (world : World Infected) (subs : List (SubMsg CosmosMsg)) : Prop where
  armed : deployment.Armed contract world.contracts
  spares : ∀ sub ∈ subs, deployment.Spares contract built caller sub

namespace KeepsArmed

variable {built : CallbackMsg → Prop} {caller callee : Addr} {world after : World Infected}
variable {sub : SubMsg CosmosMsg} {subs : List (SubMsg CosmosMsg)}
variable {reaction : Reaction (World Infected) CosmosMsg ReplyData}

theorem execute (closed : Closed deployment.api deployment.bridge built)
    (keeps : deployment.KeepsArmed contract built caller world (sub :: subs))
    (executed : deployment.executeMsg (deployment.infectedContracts env tokens virusCode) world
      caller sub.msg = .ok (callee, reaction)) :
    deployment.KeepsArmed contract built callee reaction.world reaction.messages := by
  have spares := keeps.spares sub List.mem_cons_self
  have kind := executed_of_executeMsg executed
  generalize content : sub.msg = msg at kind
  cases kind with
  | called different ran =>
      have silent := spares.silent
      rw [content] at silent
      rcases keeps.armed.execute silent ran with ⟨armed, each⟩
      exact ⟨armed, fun other member => ⟨fun self => absurd self different, each other member⟩⟩
  | instantiated ran =>
      rcases keeps.armed.instantiate ran with ⟨armed, none⟩
      refine ⟨armed, ?_⟩
      intro other member
      rw [none] at member
      cases member
  | sent _ _ _ received =>
      rcases receiveNft_messages received with ⟨channelId, data, timeout, messages⟩
      refine ⟨keeps.armed, ?_⟩
      intro other member
      rw [messages] at member
      rw [List.mem_singleton.mp member]
      exact ⟨fun _ => .inr ⟨.sendPacket channelId data timeout, rfl⟩, by rintro ⟨text, ⟨⟩⟩⟩
  | paused => exact ⟨keeps.armed, by simp⟩
  | @callback msg _ _ _ self handled =>
      have permitted : built msg := by
        rcases spares.own self with own | ⟨_, other⟩
        · exact own.of_callback content
        · rw [content] at other
          cases other
      exact ⟨keeps.armed, fun other member =>
        .of_own (closed _ _ _ _ permitted handled other member)⟩
  | packet _ accepted =>
      simp only [Chain.sendPacket] at accepted
      split at accepted
      next => cases accepted
      next =>
        cases accepted
        exact ⟨keeps.armed, by simp⟩
  | foreign => exact ⟨keeps.armed, by simp⟩

theorem reply {id : Nat} {result : Except ChainError (Option ReplyData)}
    (armed : deployment.Armed contract after.contracts)
    (replied : deployment.replyMsg (deployment.infectedContracts env tokens virusCode) after
      caller id result = .ok reaction) :
    deployment.KeepsArmed contract built caller reaction.world reaction.messages := by
  simp only [Chain.replyMsg] at replied
  split at replied
  next =>
    simp only [bind_eq_ok, mapError_eq_ok, pure_eq_ok] at replied
    rcases replied with ⟨outcome, ran, rfl⟩
    have none := reply_messages ran
    refine ⟨armed, ?_⟩
    intro other member
    simp only [World.react, none] at member
    cases member
  next =>
    simp only [bind_eq_ok, mapError_eq_ok] at replied
    rcases replied with ⟨_, ran, -⟩
    cases ran

/-- Whatever runs and spares a virus leaves it armed. -/
def assertions (deployment : Deployment) (env : Env)
    (tokens : Ledger → (contract owner : Addr) → Except String (List TokenId))
    (virusCode : Nat) (contract : Addr) {built : CallbackMsg → Prop}
    (closed : Closed deployment.api deployment.bridge built) :
    (deployment.machine (deployment.infectedContracts env tokens virusCode)).Assertions where
  invariant world := deployment.Armed contract world.contracts
  ready := deployment.KeepsArmed contract built
  done ready := ready.armed
  execute ready executed := ready.execute closed executed
  next ready armed := ⟨armed, fun other member =>
    ready.spares other (List.mem_cons_of_mem _ member)⟩
  replySuccess _ _ armed _ _ replied := reply armed replied
  replyError ready _ replied := reply ready.armed replied

end KeepsArmed

/-- The transaction does not begin with a new configuration of the contract. -/
def Unconfigured (contract : Addr) : Chain.Label → Prop
  | .execute _ msg => ¬Configures contract (.wasm msg)
  | .receive _ | .ack _ _ | .timeout _ | .migrate _ => True

/-- A virus stays armed in every step that does not configure it. -/
theorem Armed.step {world : World Infected} (armed : deployment.Armed contract world.contracts)
    {label : Chain.Label} (unconfigured : Unconfigured contract label) :
    deployment.Armed contract (deployment.step
      (deployment.infectedContracts env tokens virusCode) world label).contracts := by
  have ordinary : (∀ msg, label ≠ .migrate msg) → deployment.Armed contract (deployment.step
      (deployment.infectedContracts env tokens virusCode) world label).contracts := by
    intro ordinary
    rw [step_eq_begins _ _ _ ordinary]
    split
    next => exact armed
    next start caller subs data begun =>
      split
      next result ran =>
        have dispatched : ∀ built, Closed deployment.api deployment.bridge built →
            deployment.KeepsArmed contract built caller start subs →
            deployment.Armed contract result.1.contracts := fun _ closed keeps =>
          (KeepsArmed.assertions deployment env tokens virusCode contract closed).dispatch keeps ran
        cases started_of_begins begun with
        | executed account =>
            refine dispatched Never closed_never ⟨armed, ?_⟩
            intro sub member
            rw [List.mem_singleton.mp member]
            exact ⟨fun self => absurd self account, unconfigured⟩
        | @received packet data receiver =>
            refine dispatched (Built deployment.bridge receiver
              (data.aggregate (selectActions packet data world.storage).2)) Own.closed_built
              ⟨armed, ?_⟩
            intro sub member
            rw [List.mem_singleton.mp member]
            exact .of_own (Own.intoSubmessage _ _ _)
        | acked _ handled =>
            refine dispatched Never closed_never ⟨armed, ?_⟩
            intro sub member
            rcases ibcPacketAck_cases deployment.api world.storage _ _ with
              ⟨_, -, same⟩ | ⟨-, same⟩
            · rw [same] at handled
              exact .of_own (Own.handlePacketFail handled sub member)
            · rw [same] at handled
              exact .of_own (Own.handlePacketSuccess handled sub member)
        | timedOut _ handled =>
            exact dispatched Never closed_never
              ⟨armed, fun sub member => .of_own (Own.handlePacketFail handled sub member)⟩
      next => exact armed
  cases label with
  | execute sender msg => exact ordinary (by simp)
  | receive packet => exact ordinary (by simp)
  | ack packet acknowledgement => exact ordinary (by simp)
  | timeout packet => exact ordinary (by simp)
  | migrate msg =>
      unfold Chain.step
      split
      next after done =>
        simp only [Chain.transaction, Chain.migrateTx, bind_eq_ok, mapError_eq_ok,
          pure_eq_ok] at done
        rcases done with ⟨_, -, rfl⟩
        exact armed
      next => exact armed

/-! ### Runs -/

/-- A step of an infected chain, in the environment of its block. -/
def infectedStep (deployment : Deployment)
    (tokens : Ledger → (contract owner : Addr) → Except String (List TokenId))
    (virusCode : Nat) (world : World Infected) (entry : Env × Chain.Label) : World Infected :=
  deployment.step (deployment.infectedContracts entry.1 tokens virusCode) world entry.2

/-- How many packets more there are after a refund of an NFT of the virus. -/
def spread (deployment : Deployment)
    (tokens : Ledger → (contract owner : Addr) → Except String (List TokenId))
    (virusCode : Nat) (contract : Addr) (world : World Infected) (entry : Env × Chain.Label) :
    Nat :=
  if deployment.settlesFor (deployment.infectedContracts entry.1 tokens virusCode) world entry.2
      contract && entry.2.refuses deployment.api then
    burstOf world.contracts contract - 1
  else 0

/-- A packet with an NFT of the virus was accepted. -/
def cured (deployment : Deployment)
    (tokens : Ledger → (contract owner : Addr) → Except String (List TokenId))
    (virusCode : Nat) (contract : Addr) (world : World Infected) (entry : Env × Chain.Label) :
    Nat :=
  if deployment.settlesFor (deployment.infectedContracts entry.1 tokens virusCode) world entry.2
      contract && !entry.2.refuses deployment.api then 1
  else 0

theorem fails_of_refuses {api : Api} {label : Chain.Label} {packet : IbcPacket}
    (settles : label.settled = some packet) (refuses : label.refuses api = true) :
    Fails api packet label := by
  cases label with
  | execute => cases settles
  | receive => cases settles
  | ack packet acknowledgement =>
      cases settles
      rcases Option.isSome_iff_exists.mp refuses with ⟨error, read⟩
      exact .refused read
  | timeout packet =>
      cases settles
      exact .timeout
  | migrate => cases settles

/-- The books of one step. -/
theorem Armed.booked {world : World Infected} {entry : Env × Chain.Label}
    (armed : deployment.Armed contract world.contracts)
    (sound : Sound deployment.toChain (deployment.infectedContracts entry.1 tokens virusCode)
      codeId world) :
    world.pendingOf contract + deployment.spread tokens virusCode contract world entry ≤
      (deployment.infectedStep tokens virusCode world entry).pendingOf contract +
        deployment.cured tokens virusCode contract world entry := by
  rcases sound.accounted (infected_lawful deployment entry.1 tokens virusCode codeId) entry.2
    contract with ⟨records, sent, books⟩
  simp only [spread, cured, infectedStep]
  cases settles : deployment.settlesFor
      (deployment.infectedContracts entry.1 tokens virusCode) world entry.2 contract with
  | false =>
      simp only [settles, Bool.toNat_false] at books
      simp only [Bool.false_and, Bool.false_eq_true, if_false]
      omega
  | true =>
      simp only [settles, Bool.toNat_true] at books
      cases refuses : entry.2.refuses deployment.api with
      | false =>
          simp only [Bool.and_false, Bool.not_false, Bool.and_true, Bool.false_eq_true, if_false,
            if_true]
          omega
      | true =>
          simp only [Chain.settlesFor, Bool.and_eq_true, Option.any_eq_true] at settles
          rcases settles with ⟨⟨packet, settled, own⟩, accepted⟩
          rcases isOk_eq_true.mp accepted with ⟨after, done⟩
          have grown := armed.spreads sound (fails_of_refuses settled refuses) own done
          have many := armed.burstOf_ge
          have same : deployment.step
              (deployment.infectedContracts entry.1 tokens virusCode) world entry.2 = after := by
            simp only [Chain.step, done]
          rw [same] at sent books
          rw [sent, handedBy_append] at grown
          simp only [same, Bool.and_true, Bool.not_true, Bool.and_false, Bool.false_eq_true,
            if_true, if_false]
          omega

end Deployment

/-! ## Every run -/

section Runs

variable {deployment : Deployment} {env other : Env} {virusCode codeId : Nat}
variable {tokens : Ledger → (contract owner : Addr) → Except String (List TokenId)}
variable {world : World Infected}

/-- What is sound in one environment is sound in every one. -/
theorem Sound.anywhere
    (sound : Sound deployment.toChain (deployment.infectedContracts env tokens virusCode) codeId
      world) :
    Sound deployment.toChain (deployment.infectedContracts other tokens virusCode) codeId world :=
  ⟨sound.registry, sound.sequence, sound.origin⟩

theorem Sound.infectedStep
    (sound : Sound deployment.toChain (deployment.infectedContracts env tokens virusCode) codeId
      world) (entry : Env × Chain.Label) :
    Sound deployment.toChain (deployment.infectedContracts env tokens virusCode) codeId
      (deployment.infectedStep tokens virusCode world entry) :=
  (sound.anywhere.step (Deployment.infected_lawful deployment entry.1 tokens virusCode codeId)
    entry.2).1.anywhere

theorem sound_of_infectedRun
    (sound : Sound deployment.toChain (deployment.infectedContracts env tokens virusCode) codeId
      world) (entries : List (Env × Chain.Label)) :
    Sound deployment.toChain (deployment.infectedContracts env tokens virusCode) codeId
      (entries.foldl (deployment.infectedStep tokens virusCode) world) :=
  run_invariant (fun _ entry sound => sound.infectedStep entry) entries sound

end Runs

/-- Among any contracts and in any order of transactions: as long as nobody configures a virus
that knows the bridge, its unsettled packets are only made fewer by acceptance.  Each refund
that goes through adds four packets at least, and nine if the virus has no accomplice. -/
theorem infection_spreads_of_run {deployment : Deployment} {virusCode : Nat}
    {tokens : Ledger → (contract owner : Addr) → Except String (List TokenId)}
    {msg : InstantiateMsg} {env : Env} {state : Infected} {genesis : World Infected}
    (instantiated : deployment.instantiateTx (deployment.infectedContracts env tokens virusCode)
      msg state = .ok genesis)
    (earlier : List (Env × Chain.Label)) {world : World Infected}
    (reached : earlier.foldl (deployment.infectedStep tokens virusCode) genesis = world)
    {contract : Addr} (armed : deployment.Armed contract world.contracts)
    (later : List (Env × Chain.Label))
    (unconfigured : ∀ entry ∈ later, Deployment.Unconfigured contract entry.2) :
    world.pendingOf contract + tally (deployment.infectedStep tokens virusCode)
        (deployment.spread tokens virusCode contract) world later ≤
      (later.foldl (deployment.infectedStep tokens virusCode) world).pendingOf contract +
        tally (deployment.infectedStep tokens virusCode)
          (deployment.cured tokens virusCode contract) world later := by
  have lawful := Deployment.infected_lawful deployment env tokens virusCode msg.cw721BaseCodeId
  have sound := sound_of_infectedRun (Sound.instantiateTx lawful rfl instantiated) earlier
  rw [reached] at sound
  have kept : ∀ (middle : World Infected) (entry : Env × Chain.Label),
      Sound deployment.toChain (deployment.infectedContracts env tokens virusCode)
          msg.cw721BaseCodeId middle ∧ deployment.Armed contract middle.contracts →
      Deployment.Unconfigured contract entry.2 →
      Sound deployment.toChain (deployment.infectedContracts env tokens virusCode)
          msg.cw721BaseCodeId (deployment.infectedStep tokens virusCode middle entry) ∧
        deployment.Armed contract
          (deployment.infectedStep tokens virusCode middle entry).contracts := by
    intro middle entry held allowed
    exact ⟨held.1.infectedStep entry, held.2.step allowed⟩
  exact (follows_of_mem unconfigured).tally_le kept
    (fun _ _ held _ => held.2.booked held.1.anywhere) ⟨sound, armed⟩

namespace Sample

/-- The virus of `carrier`. -/
def virus : Addr := ⟨"contract0"⟩

/-- No contract knows which NFTs the virus owns. -/
def noTokens : Ledger → (contract owner : Addr) → Except String (List TokenId) :=
  fun _ _ _ => .ok []

/-- The packet of `carrier` times out two blocks later. -/
def relapse : List (Env × Chain.Label) :=
  carrier.commitments.map fun packet => (⟨102, 0, 0⟩, .timeout packet)

theorem virus_armed : chain.Armed virus carrier.contracts := by
  have observed : (carrier.contracts.ledger.contractAt chain.api virus).isSome = true ∧
      (carrier.contracts.viruses virus).map SpikeProteins.bridgeContract =
        some (some chain.bridge) := by
    decide +kernel
  rcases Option.map_eq_some_iff.mp observed.2 with ⟨proteins, configured, bridge⟩
  exact ⟨Option.isSome_iff_exists.mp observed.1, proteins, configured, bridge⟩

end Sample

/-- Alice's virus is refunded once. -/
theorem infection_spreads_of_sample :
    Sample.carrier.pendingOf Sample.virus +
        tally (Sample.chain.infectedStep Sample.noTokens 2)
          (Sample.chain.spread Sample.noTokens 2 Sample.virus) Sample.carrier Sample.relapse ≤
      (Sample.relapse.foldl (Sample.chain.infectedStep Sample.noTokens 2)
          Sample.carrier).pendingOf Sample.virus +
        tally (Sample.chain.infectedStep Sample.noTokens 2)
          (Sample.chain.cured Sample.noTokens 2 Sample.virus) Sample.carrier Sample.relapse := by
  have instantiated : Sample.chain.instantiateTx
      (Sample.chain.infectedContracts ⟨100, 0, 0⟩ Sample.noTokens 2) Sample.instantiateMsg
      ⟨⟨.empty, 0⟩, .empty⟩ = .ok Sample.healthy := rfl
  have reached : (Sample.outbreak.map fun label => ((⟨100, 0, 0⟩ : Env), label)).foldl
      (Sample.chain.infectedStep Sample.noTokens 2) Sample.healthy = Sample.carrier := rfl
  have unconfigured : ∀ entry ∈ Sample.relapse,
      Deployment.Unconfigured Sample.virus entry.2 := by
    intro entry member
    rcases List.mem_map.mp member with ⟨packet, -, rfl⟩
    trivial
  exact infection_spreads_of_run instantiated _ reached Sample.virus_armed Sample.relapse
    unconfigured

end Ics721
