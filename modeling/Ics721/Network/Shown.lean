import Ics721.Bridge.Forwarding
import Ics721.Model.Queries
import Ics721.Network.Scene

/-!
# What an NFT shows

An NFT shows its URI, which its collection keeps, and its data, which the bridge keeps.  As long
as the NFT is there it shows the same, whatever the chain does, and the packet that carries it
away says what it shows.
-/

namespace Ics721

open Library

/-- No call changes the URI of an NFT that stays. -/
theorem Ledger.call_tokenUri {api : Api} {ledger after : Ledger} {sender contract : Addr}
    {msg : Cw721ExecuteMsg} {key : Addr × TokenId} {old new : TokenInfo}
    (called : ledger.call api sender contract msg = .ok after)
    (before : ledger.nfts api key = some old) (later : after.nfts api key = some new) :
    new.tokenUri = old.tokenUri := by
  rcases Ledger.call_eq_ok.mp called with ⟨collection, next, found, executed, rfl⟩
  rcases key with ⟨other, tokenId⟩
  rw [Ledger.nfts_eq_some] at before later
  rcases before with ⟨earlier, known, present⟩
  rcases later with ⟨reached, knownLater, still⟩
  rw [Ledger.contractAt_put (Ledger.contractAt_eq_some.mp found).1] at knownLater
  split at knownLater
  next same =>
    cases knownLater
    rw [same, found] at known
    cases known
    exact Collection.execute_tokenUri executed present still
  next =>
    rw [known] at knownLater
    cases knownLater
    rw [present] at still
    cases still
    rfl

/-! ## Scenes -/

namespace Scene

variable {scene : Scene}

/-- The URI and the data of an NFT. -/
def shown (scene : Scene) (key : ClassId × TokenId) : Option (Option String × Option Binary) :=
  (scene.tokens key).map fun token => (token.tokenUri, (scene.metadata key).join)

theorem shown_eq_none {key : ClassId × TokenId} :
    scene.shown key = none ↔ scene.tokens key = none :=
  Option.map_eq_none_iff

theorem shown_congr {other : Scene} {key : ClassId × TokenId}
    (tokens : other.tokens key = scene.tokens key)
    (metadata : other.metadata key = scene.metadata key) : other.shown key = scene.shown key := by
  simp only [shown, tokens, metadata]

/-- Books of vouchers: what a voucher shows is on record. -/
def OnRecord (scene : Scene) (key : ClassId × TokenId) : Prop :=
  scene.tokens key ≠ none → scene.metadata key ≠ none

/-- A delivery changes what is shown by creating a voucher, which shows what the parcel says. -/
theorem shown_deliver (scene : Scene) (bridge : Addr) (valid : String → Bool) (parcel : Parcel)
    (key : ClassId × TokenId) :
    let after := scene.apply bridge (scene.judge valid parcel).1
    (after.shown key = scene.shown key ∧ (scene.OnRecord key → after.OnRecord key)) ∨
      key = (parcel.cls, parcel.tokenId) ∧ scene.tokens key = none ∧
        after.shown key = some (parcel.uri, parcel.data) ∧ after.OnRecord key := by
  intro after
  have unchanged : after.tokens key = scene.tokens key →
      after.metadata key = scene.metadata key →
      after.shown key = scene.shown key ∧ (scene.OnRecord key → after.OnRecord key) := by
    intro tokens metadata
    refine ⟨shown_congr tokens metadata, ?_⟩
    rw [OnRecord, OnRecord, tokens, metadata]
    exact id
  cases accepted : scene.paused || !valid parcel.receiver with
  | true =>
      left
      apply unchanged
      · simp only [after, judge_refused accepted, apply, Edits.nothing, StoreMap.edit]
      · simp only [after, judge_refused accepted, apply, Edits.nothing, StoreMap.edit]
  | false =>
      cases returning : scene.returning parcel with
      | some source =>
          left
          have tokens : after.tokens = scene.tokens.edit (some ((source, parcel.tokenId),
              (scene.tokens (source, parcel.tokenId)).map fun token =>
                ⟨⟨parcel.receiver⟩, [], token.tokenUri⟩)) := by
            simp [after, judge, accepted, returning, apply]
          have metadata : after.metadata = scene.metadata := by
            simp [after, judge, accepted, returning, apply, Edits.nothing, StoreMap.edit]
          by_cases same : key = (source, parcel.tokenId)
          · subst same
            simp only [shown, OnRecord, tokens, metadata, StoreMap.edit, Function.update_self,
              Option.map_map, ne_eq, Option.map_eq_none_iff]
            exact ⟨rfl, id⟩
          · exact unchanged (by rw [tokens, StoreMap.edit, Function.update_of_ne same])
              (by rw [metadata])
      | none =>
          cases present : scene.tokens (parcel.cls, parcel.tokenId) with
          | some token =>
              left
              apply unchanged
              · simp only [after, judge_existing accepted returning present, apply,
                  Edits.nothing, StoreMap.edit]
              · simp only [after, judge_existing accepted returning present, apply,
                  Edits.nothing, StoreMap.edit]
          | none =>
              have created := judge_creating accepted returning present
              by_cases same : key = (parcel.cls, parcel.tokenId)
              · right
                subst same
                refine ⟨rfl, present, ?_, ?_⟩
                · simp only [after, created, apply, shown, StoreMap.edit, Function.update_self,
                    Option.map_some, Option.join_some]
                · simp [after, created, apply, OnRecord, StoreMap.edit]
              · left
                apply unchanged
                · simp only [after, created, apply, StoreMap.edit, Function.update_of_ne same]
                · simp only [after, created, apply, StoreMap.edit, Function.update_of_ne same]

end Scene

/-! ## Packets -/

/-- What a packet with one token says about it. -/
def copyOf (data : NonFungibleTokenPacketData) : Option (Option String × Option Binary) :=
  data.incoming.head?.map fun item => (item.1.2, item.2)

theorem copyOf_outgoingPacketData (storage : Storage) (cls : Class) (tokenId : TokenId)
    (uri : Option String) (sender : Addr) (wish : IbcOutgoingMsg) :
    copyOf (outgoingPacketData storage cls tokenId uri sender wish) =
      some (uri, (storage.tokenMetadata (cls.id, tokenId)).join) := by
  unfold copyOf outgoingPacketData NonFungibleTokenPacketData.incoming
  cases (storage.tokenMetadata (cls.id, tokenId)).join with
  | none => cases uri <;> rfl
  | some bytes => cases uri <;> rfl

namespace Deployment

variable {deployment : Deployment} {codeId : Nat} {world after : World Ledger}
variable {label : Chain.Label}

/-! ## Queries -/

/-- What the collections answer, also about owners. -/
def ownerQuerier (deployment : Deployment) (ledger : Ledger) : OwnerQuerier where
  toQuerier := deployment.contracts.querier ledger
  ownerOf contract tokenId :=
    match ledger.nfts deployment.api (contract, tokenId) with
    | some token => .ok ⟨token.owner.addr, token.approvals⟩
    | none => .error (.genericErr "Querier contract error")

/-- A query of the bridge. -/
def query (deployment : Deployment) (world : World Ledger) (msg : QueryMsg) :
    Except StdError QueryResponse :=
  Ics721.query deployment.api (deployment.ownerQuerier world.contracts) world.storage msg

theorem scene_tokens_eq_some {key : ClassId × TokenId} {token : TokenInfo} :
    (deployment.scene world).tokens key = some token ↔
      ∃ contract, world.storage.classIdToNftContract key.1 = some contract ∧
        world.contracts.nfts deployment.api (contract, key.2) = some token :=
  Option.bind_eq_some_iff

/-- What the bridge tells about an NFT on record is what the NFT shows. -/
theorem query_tokenMetadata {classId : ClassId} {tokenId : TokenId} {uri : Option String}
    {bytes : Option Binary} (recorded : (deployment.scene world).OnRecord (classId, tokenId))
    (shows : (deployment.scene world).shown (classId, tokenId) = some (uri, bytes)) :
    deployment.query world (.tokenMetadata classId.id tokenId.id) =
      .ok (.tokenMetadata (some ⟨tokenId, uri, bytes⟩)) := by
  rcases Option.map_eq_some_iff.mp shows with ⟨token, present, same⟩
  cases same
  rcases scene_tokens_eq_some.mp present with ⟨contract, registered, found⟩
  rcases Option.ne_none_iff_exists'.mp (recorded (by simp [present])) with ⟨entry, onRecord⟩
  have metadata : world.storage.tokenMetadata (classId, tokenId) = some entry := onRecord
  have answered : (deployment.ownerQuerier world.contracts).nftInfo contract tokenId =
      .ok token.tokenUri := by
    simp only [ownerQuerier, Contracts.querier, contracts, found]
  simp [query, Ics721.query, queryTokenMetadata, metadata, registered, answered, onRecord]

theorem query_owner {classId : ClassId} {tokenId : TokenId} {token : TokenInfo}
    (present : (deployment.scene world).tokens (classId, tokenId) = some token) :
    deployment.query world (.owner classId.id tokenId.id) =
      .ok (.owner ⟨token.owner.addr, token.approvals⟩) := by
  rcases scene_tokens_eq_some.mp present with ⟨contract, registered, found⟩
  have loaded : world.storage.loadNftContract classId = .ok contract :=
    Storage.loadNftContract_eq_ok.mpr registered
  simp [query, Ics721.query, queryOwner, loaded, ownerQuerier, found]

/-! ## What lasts -/

/-- NFTs that are there show what they showed. -/
structure Lasting (deployment : Deployment) (world after : World Ledger) : Prop where
  uris : ∀ {key old new}, (deployment.scene world).tokens key = some old →
    (deployment.scene after).tokens key = some new → new.tokenUri = old.tokenUri
  metadata : ∀ {key}, (deployment.scene after).tokens key ≠ none →
    (deployment.scene after).metadata key = (deployment.scene world).metadata key

theorem Lasting.shown (lasting : deployment.Lasting world after) {key : ClassId × TokenId}
    {old new : Option String × Option Binary}
    (before : (deployment.scene world).shown key = some old)
    (later : (deployment.scene after).shown key = some new) : new = old := by
  rcases Option.map_eq_some_iff.mp before with ⟨token, present, rfl⟩
  rcases Option.map_eq_some_iff.mp later with ⟨still, presentLater, rfl⟩
  rw [lasting.uris present presentLater, lasting.metadata (by simp [presentLater])]

theorem Lasting.onRecord (lasting : deployment.Lasting world after) {key : ClassId × TokenId}
    (present : (deployment.scene world).tokens key ≠ none)
    (recorded : (deployment.scene world).OnRecord key) :
    (deployment.scene after).OnRecord key := by
  intro still
  rw [lasting.metadata still]
  exact recorded present

/-- Classes keep their collections, so it is enough to look at these. -/
theorem lasting_of_nfts (extended : Extends world.storage after.storage)
    (uris : ∀ {key old new}, world.contracts.nfts deployment.api key = some old →
      after.contracts.nfts deployment.api key = some new → new.tokenUri = old.tokenUri)
    (metadata : ∀ {key}, (deployment.scene after).tokens key ≠ none →
      after.storage.tokenMetadata key = world.storage.tokenMetadata key) :
    deployment.Lasting world after where
  uris := by
    intro key old new present still
    rcases scene_tokens_eq_some.mp present with ⟨contract, registered, found⟩
    rcases scene_tokens_eq_some.mp still with ⟨later, registeredLater, foundLater⟩
    rw [extended.contract_kept registered] at registeredLater
    cases registeredLater
    exact uris found foundLater
  metadata := metadata

theorem Executed.lasting {sender : Addr} {msg : WasmMsg} (held : deployment.Held codeId world)
    (extended : Extends world.storage after.storage)
    (executed : deployment.Executed sender world msg after) : deployment.Lasting world after := by
  have same : ∀ {ledger : Ledger} {key old new},
      ledger.nfts deployment.api = world.contracts.nfts deployment.api →
      world.contracts.nfts deployment.api key = some old →
      ledger.nfts deployment.api key = some new → new.tokenUri = old.tokenUri := by
    intro ledger key old new unchanged present still
    rw [unchanged, present] at still
    cases still
    rfl
  cases executed with
  | called _ call =>
      exact lasting_of_nfts extended (Ledger.call_tokenUri call) fun _ => rfl
  | instantiated instantiation =>
      rcases instantiate_eq_ok instantiation with ⟨-, -, -, nfts, -⟩
      exact lasting_of_nfts extended (same nfts) fun _ => rfl
  | sent _ call _ _ sends =>
      rcases sends with ⟨_, storage, cls, _, _, -, -, selected, -, -, rfl⟩
      have found := held.sound.registry.classFound selected
      exact lasting_of_nfts extended (Ledger.call_tokenUri call)
        fun _ => congrFun found.metadata _
  | forwarded _ _ _ sends =>
      rcases sends with ⟨_, storage, cls, _, _, -, -, selected, -, -, rfl⟩
      have found := held.sound.registry.classFound selected
      exact lasting_of_nfts extended (same rfl) fun _ => congrFun found.metadata _
  | paused pause =>
      simp only [Storage.pause, bind_eq_ok, ite_error_eq_ok, pure_eq_ok] at pause
      rcases pause with ⟨-, -, -, rfl⟩
      exact lasting_of_nfts extended (same rfl) fun _ => rfl

theorem Refunds.lasting {packet : IbcPacket} (extended : Extends world.storage after.storage)
    (refunds : deployment.Refunds packet world after) : deployment.Lasting world after := by
  rcases refunds with ⟨data, source, ledger, -, -, -, called, rfl⟩
  have moves := Ledger.moved_of_callAll called
  apply lasting_of_nfts extended
  · intro key old new present still
    by_cases touched : key.1 = source ∧ key.2 ∈ data.tokenIds
    · rcases key with ⟨contract, tokenId⟩
      rcases touched with ⟨rfl, member⟩
      rcases moves.moved tokenId member with ⟨_, token, -, found, -, final⟩
      simp only [present, still, Option.some.injEq] at found final
      rw [final, found]
    · have kept := moves.kept key fun atSource member => touched ⟨atSource, member⟩
      rw [kept, present] at still
      cases still
      rfl
  · exact fun _ => rfl

theorem Burns.lasting {packet : IbcPacket} (extended : Extends world.storage after.storage)
    (burns : deployment.Burns packet world after) : deployment.Lasting world after := by
  rcases burns with ⟨data, source, tokens, ledger, -, known, -, called, rfl⟩
  have burning := Ledger.burned_of_callAll called
  apply lasting_of_nfts extended
  · intro key old new present still
    by_cases touched : key.1 = source ∧ key.2 ∈ tokens
    · rcases key with ⟨contract, tokenId⟩
      rcases touched with ⟨rfl, member⟩
      rcases burning.burned tokenId member with ⟨_, _, -, -, -, gone⟩
      rw [gone] at still
      cases still
    · have kept := burning.kept key fun atSource member => touched ⟨atSource, member⟩
      rw [kept, present] at still
      cases still
      rfl
  · -- What the bridge forgets is gone from the collection as well.
    intro key present
    apply StoreMap.foldl_remove_of_not_mem
    rintro tokenId member rfl
    apply present
    rcases burning.burned tokenId member with ⟨_, _, -, -, -, gone⟩
    have registered : (world.storage.clearIncoming data.classId tokens).classIdToNftContract
        data.classId = some source := known
    simp only [scene, tokensOf, registered, Option.bind_some]
    exact gone

/-- Whatever happens but a delivery. -/
theorem Held.lasting (held : deployment.Held codeId world)
    (extended : Extends world.storage after.storage)
    (notReceived : ∀ packet, label ≠ .receive packet)
    (stepped : deployment.Stepped world label after) : deployment.Lasting world after := by
  have quiet : after.storage.tokenMetadata = world.storage.tokenMetadata →
      after.contracts = world.contracts → deployment.Lasting world after := by
    intro metadata contracts
    apply lasting_of_nfts extended
    · intro key old new present still
      rw [contracts, present] at still
      cases still
      rfl
    · exact fun _ => congrFun metadata _
  cases stepped with
  | stayed => exact quiet rfl rfl
  | executed _ _ executed => exact executed.lasting held extended
  | received => exact absurd rfl (notReceived _)
  | failed => exact absurd rfl (notReceived _)
  | refunded _ _ refunds => exact refunds.lasting extended
  | burned _ _ burns => exact burns.lasting extended
  | migrated migrated =>
      simp only [migrate, Storage.setPauser, bind_eq_ok, mapError_eq_ok, pure_eq_ok,
        Prod.mk.injEq] at migrated
      rcases migrated with ⟨_, -, _, ⟨_, -, rfl⟩, rfl, -⟩
      exact quiet rfl rfl

/-! ## What is sent -/

/-- What is sent away says what it shows. -/
theorem Orderly.shown_of_sent {packet : IbcPacket} (orderly : deployment.Orderly codeId world)
    (extended : Extends world.storage after.storage)
    (stepped : deployment.Stepped world label after) (sent : packet ∈ after.commitments)
    (new : packet ∉ world.commitments) :
    ∃ data tokenId, deployment.Posted packet data tokenId ∧
      (deployment.scene after).shown (data.classId, tokenId) = copyOf data := by
  cases stepped with
  | stayed => exact absurd sent new
  | executed account noContract executed =>
      have registry : ∀ classId : ClassId, '/' ∈ classId.id.toList →
          after.storage.classIdToNftContract classId =
            world.storage.classIdToNftContract classId :=
        fun _ voucher => executed.registry orderly.toHeld orderly.noProxy noContract voucher
      cases executed with
      | called => exact absurd sent new
      | instantiated => exact absurd sent new
      | sent _ call _ _ sends =>
          rcases sends with ⟨wish, storage, cls, token, dest, -, -, selected, present, opened, same⟩
          have found := orderly.sound.registry.classFound selected
          rw [same] at registry extended
          have unregistered : ∀ classId : ClassId, '/' ∈ classId.id.toList →
              storage.classIdToNftContract classId = world.storage.classIdToNftContract classId :=
            registry
          have kept : Extends world.storage storage := ⟨extended.contract_kept, extended.class_kept⟩
          have departs := orderly.sent_packet unregistered kept account call selected opened same
          rw [departs.commitments, List.mem_append, List.mem_singleton] at sent
          rcases sent with old | rfl
          · exact absurd old new
          · refine ⟨_, _, departs.toPosted, ?_⟩
            rw [copyOf_outgoingPacketData, same]
            simp only [Scene.shown, scene, tokensOf, outgoingPacketData, found.registered,
              Option.bind_some, present, Option.map_some]
      | forwarded named _ allowed sends =>
          exact absurd sends (Executed.no_forward noContract orderly.noProxy named allowed)
      | paused => exact absurd sent new
  | received _ _ received =>
      rw [received.same] at sent
      exact absurd sent new
  | failed => exact absurd sent new
  | refunded _ _ refunds =>
      rcases refunds with ⟨_, _, _, -, -, -, -, rfl⟩
      exact absurd (List.mem_of_mem_erase sent) new
  | burned _ _ burns =>
      rcases burns with ⟨_, _, _, _, -, -, -, -, rfl⟩
      exact absurd (List.mem_of_mem_erase sent) new
  | migrated => exact absurd sent new

/-! ## Plain bridges -/

/-- The packet has nothing to say about its class. -/
def Untitled (deployment : Deployment) (packet : IbcPacket) : Prop :=
  ∀ data, deployment.api.packetData.fromBinary packet.data = .ok data →
    data.classUri = none ∧ data.classData = none

/-- cw721-base has no metadata of collections, so among bridges nobody ever hears of any; and
only vouchers have data. -/
structure Plain (deployment : Deployment) (world : World Ledger) : Prop where
  records : ∀ {classId cls}, world.storage.classIdToClass classId = some cls →
    cls.uri = none ∧ cls.data = none
  metadata : ∀ {classId : ClassId} {tokenId bytes},
    world.storage.tokenMetadata (classId, tokenId) = some bytes → '/' ∈ classId.id.toList
  packets : ∀ packet ∈ world.commitments, deployment.Untitled packet

/-- Steps that write no record. -/
theorem Plain.of_same (plain : deployment.Plain world)
    (records : after.storage.classIdToClass = world.storage.classIdToClass)
    (metadata : after.storage.tokenMetadata = world.storage.tokenMetadata)
    (commitments : after.commitments ⊆ world.commitments) : deployment.Plain after where
  records := by
    rw [records]
    exact plain.records
  metadata := by
    rw [metadata]
    exact plain.metadata
  packets packet member := plain.packets packet (commitments member)

theorem Plain.sends {record : SendRecord} (plain : deployment.Plain world)
    (held : deployment.Held codeId world) {ledger : Ledger}
    (sends : deployment.Sends record { world with contracts := ledger } after) :
    deployment.Plain after := by
  rcases sends with ⟨wish, storage, cls, token, dest, -, -, selected, -, -, rfl⟩
  have found := held.sound.registry.classFound selected
  have written : (∀ {classId other}, storage.classIdToClass classId = some other →
      other.uri = none ∧ other.data = none) ∧ cls.uri = none ∧ cls.data = none := by
    unfold classForContract at selected
    split at selected
    next =>
      simp only [bind_eq_ok, Storage.loadClass_eq_ok, pure_eq_ok, Prod.mk.injEq] at selected
      rcases selected with ⟨_, recorded, rfl, rfl⟩
      exact ⟨plain.records, plain.records recorded⟩
    next =>
      simp only [Except.ok.injEq, Prod.mk.injEq] at selected
      rcases selected with ⟨rfl, rfl⟩
      refine ⟨?_, rfl, rfl⟩
      intro classId other recorded
      simp only [StoreMap.save_apply] at recorded
      split at recorded
      next =>
        cases recorded
        exact ⟨rfl, rfl⟩
      next => exact plain.records recorded
  constructor
  · exact written.1
  · intro classId tokenId bytes present
    exact plain.metadata ((congrFun found.metadata _).symm.trans present)
  · intro packet member
    rcases List.mem_append.mp member with old | new
    · exact plain.packets packet old
    · intro data decoded
      rw [List.mem_singleton.mp new, outgoingPacket, Codec.from_to] at decoded
      cases decoded
      exact written.2

theorem Plain.stepped (plain : deployment.Plain world) (orderly : deployment.Orderly codeId world)
    (arriving : ∀ packet, label = .receive packet → deployment.Untitled packet)
    (stepped : deployment.Stepped world label after) : deployment.Plain after := by
  cases stepped with
  | stayed => exact plain
  | executed account noContract executed =>
      cases executed with
      | called => exact plain.of_same rfl rfl (List.Subset.refl _)
      | instantiated => exact plain.of_same rfl rfl (List.Subset.refl _)
      | sent _ _ _ _ sends => exact plain.sends orderly.toHeld sends
      | forwarded named _ allowed sends =>
          exact absurd sends (Executed.no_forward noContract orderly.noProxy named allowed)
      | paused pause =>
          simp only [Storage.pause, bind_eq_ok, ite_error_eq_ok, pure_eq_ok] at pause
          rcases pause with ⟨-, -, -, rfl⟩
          exact plain.of_same rfl rfl (List.Subset.refl _)
  | @received packet data receiver _ _ checked received =>
      rcases checkIbcPacket_eq_ok.mp checked with ⟨-, decoded, -, -, -⟩
      constructor
      · intro classId cls recorded
        by_cases same : classId = voucherClassId packet.dest data.classId
        · rw [same] at recorded
          rcases received.record with kept | new
          · rw [kept] at recorded
            exact plain.records recorded
          · rw [new] at recorded
            cases recorded
            exact arriving packet rfl data decoded
        · rw [received.storage.records classId same] at recorded
          exact plain.records recorded
      · intro classId tokenId bytes present
        by_cases same : classId = voucherClassId packet.dest data.classId
        · rw [same]
          exact slash_mem_voucherClassId _ _
        · rw [received.storage.metadata (classId, tokenId) same] at present
          exact plain.metadata present
      · rw [received.same]
        exact plain.packets
  | @failed packet data _ _ _ =>
      have folded := sameButTransit_selectFrom packet.dest data.classId
        (tryPopSourcePrefix packet.src data.classId.id) world.storage data.incoming
      rw [← selectActions_eq] at folded
      exact plain.of_same folded.records folded.metadata (List.Subset.refl _)
  | refunded _ _ refunds =>
      rcases refunds with ⟨_, _, _, -, -, -, -, rfl⟩
      exact plain.of_same rfl rfl (List.erase_subset)
  | burned _ _ burns =>
      rcases burns with ⟨_, _, _, _, -, -, -, -, rfl⟩
      constructor
      · exact plain.records
      · intro classId tokenId bytes present
        exact plain.metadata (StoreMap.of_foldl_remove present)
      · exact fun packet member => plain.packets packet (List.mem_of_mem_erase member)
  | migrated migrated =>
      simp only [migrate, Storage.setPauser, bind_eq_ok, mapError_eq_ok, pure_eq_ok,
        Prod.mk.injEq] at migrated
      rcases migrated with ⟨_, -, _, ⟨_, -, rfl⟩, rfl, -⟩
      exact plain.of_same rfl rfl (List.Subset.refl _)

end Deployment

end Ics721
