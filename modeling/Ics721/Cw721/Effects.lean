import Ics721.Cw721.Transactions

/-!
# What transactions do to the NFTs

The calls of a transaction, one after another, as a single change of the ledger: which NFTs
are moved, burned or minted, and that all others stay.  `Received` says the same of a whole
packet that went through.
-/

namespace Ics721

open Library

namespace Ledger

variable {api : Api} {sender contract holder : Addr} {before after : Ledger}
variable {tokenIds : List TokenId}

/-- At most the given NFTs of one collection change. -/
structure Edits (api : Api) (contract : Addr) (tokenIds : List TokenId)
    (before after : Ledger) : Prop where
  infos : after.infoAt api = before.infoAt api
  instances : after.instances = before.instances
  kept : ∀ key, (key.1 = contract → key.2 ∉ tokenIds) →
    after.nfts api key = before.nfts api key

theorem Edits.nil (api : Api) (contract : Addr) (ledger : Ledger) :
    Edits api contract [] ledger ledger where
  infos := rfl
  instances := rfl
  kept := fun _ _ => rfl

theorem Edits.cons {middle : Ledger} {tokenId : TokenId}
    {nfts : StoreMap (Addr × TokenId) TokenInfo} (became : Becomes api before middle nfts)
    (same : ∀ key, key ≠ (contract, tokenId) → nfts key = before.nfts api key)
    (edits : Edits api contract tokenIds middle after) :
    Edits api contract (tokenId :: tokenIds) before after where
  infos := edits.infos.trans became.infos
  instances := edits.instances.trans became.instances
  kept := by
    intro key untouched
    have different : key ≠ (contract, tokenId) := by
      intro equal
      subst equal
      exact untouched rfl List.mem_cons_self
    rw [edits.kept key, became.nfts, same key different]
    intro atContract member
    exact untouched atContract (List.mem_cons_of_mem _ member)

/-- The holder still has approved nobody. -/
theorem Custody.edits (custody : before.Custody api holder)
    (edits : Edits api contract tokenIds before after)
    (approvals : ∀ tokenId ∈ tokenIds, ∀ token,
      after.nfts api (contract, tokenId) = some token → token.approvals = []) :
    after.Custody api holder where
  approvals := by
    intro key token present owned
    by_cases touched : key.1 = contract ∧ key.2 ∈ tokenIds
    · apply approvals key.2 touched.2
      rw [← touched.1]
      exact present
    · rw [edits.kept key fun atContract member => touched ⟨atContract, member⟩] at present
      exact custody.approvals present owned
  operators := by
    rw [edits.infos]
    exact custody.operators

/-! ## Transfers -/

/-- The sender moves NFTs of a collection to the recipient. -/
structure Moved (api : Api) (sender contract : Addr) (recipient : String)
    (tokenIds : List TokenId) (before after : Ledger) : Prop
    extends Edits api contract tokenIds before after where
  moved : ∀ tokenId ∈ tokenIds, ∃ info token, before.infoAt api contract = some info ∧
    before.nfts api (contract, tokenId) = some token ∧ info.canSend sender token = true ∧
    after.nfts api (contract, tokenId) = some ⟨⟨recipient⟩, [], token.tokenUri⟩

theorem moved_of_callAll {recipient : String}
    (called : before.callAll api sender contract
      (tokenIds.map fun tokenId => .transferNft recipient tokenId) = .ok after) :
    Moved api sender contract recipient tokenIds before after := by
  induction tokenIds generalizing before with
  | nil =>
      simp only [callAll, List.map_nil, List.foldlM_nil, pure_eq_ok] at called
      subst called
      exact ⟨.nil _ _ _, by simp⟩
  | cons tokenId tokenIds ih =>
      simp only [callAll, List.map_cons, List.foldlM_cons, bind_eq_ok] at called
      rcases called with ⟨middle, first, rest⟩
      have later := ih rest
      rcases call_transferNft first with ⟨info, token, known, present, allowed, -, became⟩
      constructor
      · exact later.toEdits.cons became fun key different => StoreMap.save_of_ne different
      · intro other member
        by_cases same : other = tokenId
        · subst same
          refine ⟨info, token, known, present, allowed, ?_⟩
          by_cases again : other ∈ tokenIds
          · rcases later.moved other again with ⟨info, found, -, held, -, final⟩
            rw [became.nfts, StoreMap.save_self] at held
            cases held
            exact final
          · rw [later.kept (contract, other) fun _ => again, became.nfts, StoreMap.save_self]
        · have remaining : other ∈ tokenIds := (List.mem_cons.mp member).resolve_left same
          rcases later.moved other remaining with ⟨found, moved, atMiddle, held, may, final⟩
          have different : (contract, other) ≠ (contract, tokenId) := by
            intro equal
            exact same (congrArg Prod.snd equal)
          rw [became.infos] at atMiddle
          rw [became.nfts, StoreMap.save_of_ne different] at held
          exact ⟨found, moved, atMiddle, held, may, final⟩

theorem Moved.custody {recipient : String}
    (moves : Moved api sender contract recipient tokenIds before after)
    (custody : before.Custody api holder) : after.Custody api holder := by
  apply custody.edits moves.toEdits
  intro tokenId member token present
  rcases moves.moved tokenId member with ⟨info, found, -, -, -, final⟩
  rw [final] at present
  cases present
  rfl

/-! ## Burns -/

/-- The sender burns NFTs of a collection. -/
structure Burned (api : Api) (sender contract : Addr) (tokenIds : List TokenId)
    (before after : Ledger) : Prop extends Edits api contract tokenIds before after where
  burned : ∀ tokenId ∈ tokenIds, ∃ info token, before.infoAt api contract = some info ∧
    before.nfts api (contract, tokenId) = some token ∧ info.canSend sender token = true ∧
    after.nfts api (contract, tokenId) = none

theorem burned_of_callAll
    (called : before.callAll api sender contract (tokenIds.map fun tokenId => .burn tokenId) =
      .ok after) :
    Burned api sender contract tokenIds before after := by
  induction tokenIds generalizing before with
  | nil =>
      simp only [callAll, List.map_nil, List.foldlM_nil, pure_eq_ok] at called
      subst called
      exact ⟨.nil _ _ _, by simp⟩
  | cons tokenId tokenIds ih =>
      simp only [callAll, List.map_cons, List.foldlM_cons, bind_eq_ok] at called
      rcases called with ⟨middle, first, rest⟩
      have later := ih rest
      rcases call_burn first with ⟨info, token, known, present, allowed, became⟩
      constructor
      · exact later.toEdits.cons became fun key different => StoreMap.remove_of_ne different
      · intro other member
        by_cases same : other = tokenId
        · subst same
          refine ⟨info, token, known, present, allowed, ?_⟩
          by_cases again : other ∈ tokenIds
          · rcases later.burned other again with ⟨info, found, -, -, -, final⟩
            exact final
          · rw [later.kept (contract, other) fun _ => again, became.nfts, StoreMap.remove_self]
        · have remaining : other ∈ tokenIds := (List.mem_cons.mp member).resolve_left same
          rcases later.burned other remaining with ⟨found, burned, atMiddle, held, may, final⟩
          have different : (contract, other) ≠ (contract, tokenId) := by
            intro equal
            exact same (congrArg Prod.snd equal)
          rw [became.infos] at atMiddle
          rw [became.nfts, StoreMap.remove_of_ne different] at held
          exact ⟨found, burned, atMiddle, held, may, final⟩

theorem Burned.custody (burns : Burned api sender contract tokenIds before after)
    (custody : before.Custody api holder) : after.Custody api holder := by
  apply custody.edits burns.toEdits
  intro tokenId member token present
  rcases burns.burned tokenId member with ⟨info, found, -, -, -, final⟩
  rw [final] at present
  cases present

/-! ## Mints -/

/-- The sender mints NFTs of a collection for an owner. -/
structure Minted (api : Api) (sender contract : Addr) (owner : String) (tokens : List Token)
    (before after : Ledger) : Prop
    extends Edits api contract (tokens.map Token.id) before after where
  minted : ∀ token ∈ tokens, before.nfts api (contract, token.id) = none ∧
    after.nfts api (contract, token.id) = some ⟨⟨owner⟩, [], token.uri⟩
  minter : tokens ≠ [] → ∃ info, before.infoAt api contract = some info ∧ info.minter = sender

theorem minted_of_callAll {owner : String} {tokens : List Token}
    (called : before.callAll api sender contract
      (tokens.map fun token => .mint token.id owner token.uri) = .ok after) :
    Minted api sender contract owner tokens before after := by
  induction tokens generalizing before with
  | nil =>
      simp only [callAll, List.map_nil, List.foldlM_nil, pure_eq_ok] at called
      subst called
      exact ⟨.nil _ _ _, by simp, fun nonempty => absurd rfl nonempty⟩
  | cons token tokens ih =>
      simp only [callAll, List.map_cons, List.foldlM_cons, bind_eq_ok] at called
      rcases called with ⟨middle, first, rest⟩
      have later := ih rest
      rcases call_mint first with ⟨info, known, isMinter, unused, -, became⟩
      have once : ∀ other ∈ tokens, other.id ≠ token.id := by
        intro other member same
        have free := (later.minted other member).1
        rw [same, became.nfts, StoreMap.save_self] at free
        cases free
      constructor
      · exact later.toEdits.cons became fun key different => StoreMap.save_of_ne different
      · intro other member
        rcases List.mem_cons.mp member with same | remaining
        · subst same
          have untouched : other.id ∉ tokens.map Token.id := by
            intro again
            rcases List.mem_map.mp again with ⟨copy, present, equal⟩
            exact once copy present equal
          constructor
          · exact unused
          · rw [later.kept (contract, other.id) fun _ => untouched, became.nfts,
              StoreMap.save_self]
        · have different : (contract, other.id) ≠ (contract, token.id) := by
            intro equal
            exact once other remaining (congrArg Prod.snd equal)
          rcases later.minted other remaining with ⟨free, final⟩
          rw [became.nfts, StoreMap.save_of_ne different] at free
          exact ⟨free, final⟩
      · intro _
        exact ⟨info, known, isMinter⟩

theorem Minted.custody {owner : String} {tokens : List Token}
    (mints : Minted api sender contract owner tokens before after)
    (custody : before.Custody api holder) : after.Custody api holder := by
  apply custody.edits mints.toEdits
  intro tokenId member found present
  rcases List.mem_map.mp member with ⟨token, inList, rfl⟩
  rw [(mints.minted token inList).2] at present
  cases present
  rfl

end Ledger

/-! ## Received packets -/

namespace Deployment

variable {deployment : Deployment} {world middle after : World Ledger} {receiver : Addr}

/-- The two parts of a packet that goes through. -/
theorem applies_iff {data : NonFungibleTokenPacketData} {actions : List Action}
    {localClass voucherClass : ClassId} (uniform : Uniform localClass voucherClass actions) :
    deployment.Applies receiver (data.aggregate actions) world after ↔
      ∃ middle,
        ((redeemedIds actions = [] ∧ middle = world) ∨
          (redeemedIds actions ≠ [] ∧ deployment.Redeems receiver
            ⟨⟨localClass, data.classUri, data.classData⟩, redeemedIds actions⟩ world middle)) ∧
        ((createdTokens actions = [] ∧ after = middle) ∨
          (createdTokens actions ≠ [] ∧ deployment.Creates receiver
            ⟨⟨voucherClass, data.classUri, data.classData⟩, createdTokens actions⟩
            middle after)) := by
  simp only [Applies, data.aggregate_redemption uniform, data.aggregate_creation uniform]
  apply exists_congr
  intro middle
  apply and_congr
  · by_cases none : redeemedIds actions = []
    · simp [none]
    · simp [none]
  · by_cases none : createdTokens actions = []
    · simp [none]
    · simp [none]

/-- NFTs of a class are redeemed for the receiver. -/
structure Redeemed (deployment : Deployment) (receiver : Addr) (localClass : ClassId)
    (tokenIds : List TokenId) (world after : World Ledger) : Prop where
  same : after = { world with contracts := after.contracts }
  infos : after.contracts.infoAt deployment.api = world.contracts.infoAt deployment.api
  instances : after.contracts.instances = world.contracts.instances
  custody : ∀ {holder}, world.contracts.Custody deployment.api holder →
    after.contracts.Custody deployment.api holder
  moved : ∀ tokenId ∈ tokenIds, ∃ contract info token,
    world.storage.classIdToNftContract localClass = some contract ∧
    world.contracts.infoAt deployment.api contract = some info ∧
    world.contracts.nfts deployment.api (contract, tokenId) = some token ∧
    info.canSend deployment.bridge token = true ∧
    after.contracts.nfts deployment.api (contract, tokenId) =
      some ⟨receiver, [], token.tokenUri⟩
  kept : ∀ key, after.contracts.nfts deployment.api key =
      world.contracts.nfts deployment.api key ∨
    (key.2 ∈ tokenIds ∧ world.storage.classIdToNftContract localClass = some key.1)

theorem Redeemed.refl (deployment : Deployment) (receiver : Addr) (localClass : ClassId)
    (world : World Ledger) : deployment.Redeemed receiver localClass [] world world where
  same := rfl
  infos := rfl
  instances := rfl
  custody := id
  moved := by simp
  kept := fun _ => .inl rfl

theorem redeemed_of_redeems {redeem : VoucherRedemption}
    (redeems : deployment.Redeems receiver redeem world after) :
    deployment.Redeemed receiver redeem.cls.id redeem.tokenIds world after := by
  rcases redeems with ⟨contract, ledger, known, called, rfl⟩
  have moves := Ledger.moved_of_callAll called
  constructor
  · rfl
  · exact moves.infos
  · exact moves.instances
  · exact moves.custody
  · intro tokenId member
    rcases moves.moved tokenId member with ⟨info, token, atContract, present, allowed, final⟩
    exact ⟨contract, info, token, known, atContract, present, allowed, final⟩
  · intro key
    by_cases touched : key.1 = contract ∧ key.2 ∈ redeem.tokenIds
    · right
      rw [touched.1]
      exact ⟨touched.2, known⟩
    · left
      exact moves.kept key fun atContract member => touched ⟨atContract, member⟩

/-- The registry and the collections after the collection of a class was opened. -/
structure Opened (deployment : Deployment) (classId : ClassId) (contract : Addr)
    (world after : World Ledger) : Prop where
  registered : after.storage.classIdToNftContract classId = some contract
  contracts : ∀ other, other ≠ classId →
    after.storage.classIdToNftContract other = world.storage.classIdToNftContract other
  nfts : after.contracts.nfts deployment.api = world.contracts.nfts deployment.api
  /-- Either the collection was known, or it is a new one. -/
  known_or_new :
    (world.storage.classIdToNftContract classId = some contract ∧ after = world) ∨
    (world.storage.classIdToNftContract classId = none ∧
      world.contracts.infoAt deployment.api contract = none ∧
      contract = deployment.newAddress world.contracts.instances ∧
      after.contracts.instances = world.contracts.instances + 1 ∧
      after.contracts.infoAt deployment.api = StoreMap.save
        (world.contracts.infoAt deployment.api) contract
        ⟨classId.id, deployment.bridge, .empty⟩ ∧
      after = { world with
        storage := world.storage.register classId contract, contracts := after.contracts })

theorem opened_of_opens {classId : ClassId} {contract : Addr}
    (opens : deployment.Opens classId contract world after) :
    deployment.Opened classId contract world after := by
  rcases opens with ⟨known, rfl⟩ | ⟨missing, ledger, instantiated, rfl⟩
  · constructor
    · exact known
    · exact fun _ _ => rfl
    · rfl
    · exact .inl ⟨known, rfl⟩
  · rcases instantiate_eq_ok instantiated with ⟨address, free, infos, nfts, count⟩
    constructor
    · exact StoreMap.save_self _ _ _
    · intro other different
      exact StoreMap.save_of_ne different
    · exact nfts
    · exact .inr ⟨missing, free, address, count, infos, rfl⟩

/-- Storages that differ only in the transit maps and in what they know about one class. -/
structure SameButClass (classId : ClassId) (before after : Storage) : Prop where
  code : after.cw721CodeId = before.cw721CodeId
  proxy : after.proxy = before.proxy
  pauser : after.pauser = before.pauser
  paused : after.paused = before.paused
  contracts : ∀ other, other ≠ classId →
    after.classIdToNftContract other = before.classIdToNftContract other
  records : ∀ other, other ≠ classId → after.classIdToClass other = before.classIdToClass other
  metadata : ∀ key, key.1 ≠ classId → after.tokenMetadata key = before.tokenMetadata key

/-- New NFTs of a class are minted for the receiver. -/
structure Created (deployment : Deployment) (receiver : Addr) (cls : Class)
    (tokens : List Token) (world after : World Ledger) : Prop where
  storage : SameButClass cls.id world.storage after.storage
  record : after.storage.classIdToClass cls.id = world.storage.classIdToClass cls.id ∨
    after.storage.classIdToClass cls.id = some cls
  outgoing : after.storage.outgoingClassTokenToChannel =
    world.storage.outgoingClassTokenToChannel
  incoming : after.storage.incomingClassTokenToChannel =
    world.storage.incomingClassTokenToChannel
  same : after = { world with storage := after.storage, contracts := after.contracts }
  custody : ∀ {holder}, world.contracts.Custody deployment.api holder →
    after.contracts.Custody deployment.api holder
  minted : ∀ token ∈ tokens, ∃ contract info,
    after.storage.classIdToNftContract cls.id = some contract ∧
    after.contracts.infoAt deployment.api contract = some info ∧
    info.minter = deployment.bridge ∧
    world.contracts.nfts deployment.api (contract, token.id) = none ∧
    after.contracts.nfts deployment.api (contract, token.id) = some ⟨receiver, [], token.uri⟩
  kept : ∀ key, after.contracts.nfts deployment.api key =
      world.contracts.nfts deployment.api key ∨
    (∃ token ∈ tokens, token.id = key.2 ∧
      after.storage.classIdToNftContract cls.id = some key.1 ∧
      world.contracts.nfts deployment.api key = none)
  /-- Either nothing was registered, or a new collection. -/
  known_or_new :
    (after.storage.classIdToNftContract = world.storage.classIdToNftContract ∧
      after.storage.nftContractToClassId = world.storage.nftContractToClassId ∧
      after.contracts.infoAt deployment.api = world.contracts.infoAt deployment.api ∧
      after.contracts.instances = world.contracts.instances) ∨
    ∃ contract, world.storage.classIdToNftContract cls.id = none ∧
      world.contracts.infoAt deployment.api contract = none ∧
      contract = deployment.newAddress world.contracts.instances ∧
      after.storage.classIdToNftContract =
        world.storage.classIdToNftContract.save cls.id contract ∧
      after.storage.nftContractToClassId =
        world.storage.nftContractToClassId.save contract cls.id ∧
      after.contracts.infoAt deployment.api = StoreMap.save
        (world.contracts.infoAt deployment.api) contract
        ⟨cls.id.id, deployment.bridge, .empty⟩ ∧
      after.contracts.instances = world.contracts.instances + 1

theorem Created.refl (deployment : Deployment) (receiver : Addr) (cls : Class)
    (world : World Ledger) : deployment.Created receiver cls [] world world where
  storage := ⟨rfl, rfl, rfl, rfl, fun _ _ => rfl, fun _ _ => rfl, fun _ _ => rfl⟩
  record := .inl rfl
  outgoing := rfl
  incoming := rfl
  same := rfl
  custody := id
  minted := by simp
  kept := fun _ => .inl rfl
  known_or_new := .inl ⟨rfl, rfl, rfl, rfl⟩

/-- Saving metadata of tokens of a class leaves that of other classes alone. -/
theorem saveMetadata_of_ne {storage : Storage} {classId : ClassId} {tokens : List Token}
    {key : ClassId × TokenId} (different : key.1 ≠ classId) :
    (storage.saveMetadata classId tokens).tokenMetadata key = storage.tokenMetadata key := by
  apply StoreMap.foldl_save_of_not_mem
  intro token _ same
  exact different (congrArg Prod.fst same).symm

theorem created_of_creates {create : VoucherCreation} (nonempty : create.tokens ≠ [])
    (creates : deployment.Creates receiver create world after) :
    deployment.Created receiver create.cls create.tokens world after := by
  rcases creates with ⟨contract, opened, ledger, opens, called, rfl⟩
  have mints := Ledger.minted_of_callAll called
  have opening := opened_of_opens opens
  have registered := opening.registered
  have nfts := opening.nfts
  have kept : ∀ key, ledger.nfts deployment.api key =
        world.contracts.nfts deployment.api key ∨
      (∃ token ∈ create.tokens, token.id = key.2 ∧
        opened.storage.classIdToNftContract create.cls.id = some key.1 ∧
        world.contracts.nfts deployment.api key = none) := by
    intro key
    by_cases touched : key.1 = contract ∧ key.2 ∈ create.tokens.map Token.id
    · rcases List.mem_map.mp touched.2 with ⟨token, member, same⟩
      right
      refine ⟨token, member, same, ?_, ?_⟩
      · rw [touched.1]
        exact registered
      · have free := (mints.minted token member).1
        rw [nfts] at free
        rw [same, ← touched.1] at free
        exact free
    · left
      rw [mints.kept key fun atContract member => touched ⟨atContract, member⟩, nfts]
  have minted : ∀ token ∈ create.tokens, ∃ info,
      ledger.infoAt deployment.api contract = some info ∧ info.minter = deployment.bridge ∧
      world.contracts.nfts deployment.api (contract, token.id) = none ∧
      ledger.nfts deployment.api (contract, token.id) = some ⟨receiver, [], token.uri⟩ := by
    intro token member
    rcases mints.minter nonempty with ⟨info, known, isMinter⟩
    rcases mints.minted token member with ⟨free, final⟩
    rw [nfts] at free
    rw [← mints.infos] at known
    exact ⟨info, known, isMinter, free, final⟩
  rcases opening.known_or_new with ⟨known, rfl⟩ | ⟨missing, free, address, count, infos, same⟩
  · constructor
    · constructor
      · rfl
      · rfl
      · rfl
      · rfl
      · exact fun _ _ => rfl
      · exact fun other different => StoreMap.save_of_ne different
      · exact fun key different => saveMetadata_of_ne different
    · exact .inr (StoreMap.save_self _ _ _)
    · rfl
    · rfl
    · rfl
    · exact mints.custody
    · intro token member
      rcases minted token member with ⟨info, facts⟩
      exact ⟨contract, info, registered, facts⟩
    · exact kept
    · exact .inl ⟨rfl, rfl, mints.infos, mints.instances⟩
  · rw [same]
    constructor
    · constructor
      · rfl
      · rfl
      · rfl
      · rfl
      · exact fun other different => StoreMap.save_of_ne different
      · exact fun other different => StoreMap.save_of_ne different
      · exact fun key different => saveMetadata_of_ne different
    · exact .inr (StoreMap.save_self _ _ _)
    · rfl
    · rfl
    · rfl
    · intro holder custody
      apply mints.custody
      constructor
      · rw [nfts]
        exact custody.approvals
      · intro other info atOther
        rw [infos, StoreMap.save_apply] at atOther
        split at atOther
        next =>
          cases atOther
          exact fun _ => rfl
        next => exact custody.operators atOther
    · intro token member
      rcases minted token member with ⟨info, facts⟩
      exact ⟨contract, info, StoreMap.save_self _ _ _, facts⟩
    · rw [same] at kept
      exact kept
    · exact .inr ⟨contract, missing, free, address, rfl, rfl, mints.infos.trans infos,
        mints.instances.trans count⟩

/-- The effect of a packet that went through: some of its tokens are redeemed, then
vouchers are created for the others. -/
theorem applies_effect {packet : IbcPacket} {data : NonFungibleTokenPacketData}
    (applies : deployment.Applies receiver
      (data.aggregate (selectActions packet data world.storage).2)
      (noted world packet data) after) :
    ∃ middle,
      deployment.Redeemed receiver (localClass packet data)
        (redeemedIds (selectActions packet data world.storage).2) (noted world packet data)
        middle ∧
      deployment.Created receiver
        ⟨voucherClassId packet.dest data.classId, data.classUri, data.classData⟩
        (createdTokens (selectActions packet data world.storage).2) middle after := by
  rcases (applies_iff (uniform_selectActions packet data world.storage)).mp applies with
    ⟨middle, redemption, creation⟩
  refine ⟨middle, ?_, ?_⟩
  · rcases redemption with ⟨none, rfl⟩ | ⟨-, redeems⟩
    · rw [none]
      exact .refl _ _ _ _
    · exact redeemed_of_redeems redeems
  · rcases creation with ⟨none, rfl⟩ | ⟨nonempty, creates⟩
    · rw [none]
      exact .refl _ _ _ _
    · exact created_of_creates nonempty creates

/-- What a packet that went through did, compared with the world it arrived in. -/
structure Received (deployment : Deployment) (packet : IbcPacket)
    (data : NonFungibleTokenPacketData) (receiver : Addr) (world after : World Ledger) :
    Prop where
  storage : SameButClass (voucherClassId packet.dest data.classId) world.storage after.storage
  record : after.storage.classIdToClass (voucherClassId packet.dest data.classId) =
      world.storage.classIdToClass (voucherClassId packet.dest data.classId) ∨
    after.storage.classIdToClass (voucherClassId packet.dest data.classId) =
      some ⟨voucherClassId packet.dest data.classId, data.classUri, data.classData⟩
  outgoing : after.storage.outgoingClassTokenToChannel =
    (selectActions packet data world.storage).1.outgoingClassTokenToChannel
  incoming : after.storage.incomingClassTokenToChannel =
    (selectActions packet data world.storage).1.incomingClassTokenToChannel
  same : after = { world with storage := after.storage, contracts := after.contracts }
  custody : ∀ {holder}, world.contracts.Custody deployment.api holder →
    after.contracts.Custody deployment.api holder
  redeemed : ∀ tokenId ∈ redeemedIds (selectActions packet data world.storage).2,
    ∃ contract info token,
      world.storage.classIdToNftContract (localClass packet data) = some contract ∧
      world.contracts.infoAt deployment.api contract = some info ∧
      world.contracts.nfts deployment.api (contract, tokenId) = some token ∧
      info.canSend deployment.bridge token = true ∧
      after.contracts.nfts deployment.api (contract, tokenId) =
        some ⟨receiver, [], token.tokenUri⟩
  created : ∀ token ∈ createdTokens (selectActions packet data world.storage).2,
    ∃ contract info,
      after.storage.classIdToNftContract (voucherClassId packet.dest data.classId) =
        some contract ∧
      after.contracts.infoAt deployment.api contract = some info ∧
      info.minter = deployment.bridge ∧
      world.contracts.nfts deployment.api (contract, token.id) = none ∧
      after.contracts.nfts deployment.api (contract, token.id) = some ⟨receiver, [], token.uri⟩
  kept : ∀ key, after.contracts.nfts deployment.api key =
      world.contracts.nfts deployment.api key ∨
    (key.2 ∈ redeemedIds (selectActions packet data world.storage).2 ∧
      world.storage.classIdToNftContract (localClass packet data) = some key.1) ∨
    (∃ token ∈ createdTokens (selectActions packet data world.storage).2, token.id = key.2 ∧
      after.storage.classIdToNftContract (voucherClassId packet.dest data.classId) =
        some key.1 ∧
      world.contracts.nfts deployment.api key = none)
  known_or_new :
    (after.storage.classIdToNftContract = world.storage.classIdToNftContract ∧
      after.storage.nftContractToClassId = world.storage.nftContractToClassId ∧
      after.contracts.infoAt deployment.api = world.contracts.infoAt deployment.api ∧
      after.contracts.instances = world.contracts.instances) ∨
    ∃ contract,
      world.storage.classIdToNftContract (voucherClassId packet.dest data.classId) = none ∧
      world.contracts.infoAt deployment.api contract = none ∧
      contract = deployment.newAddress world.contracts.instances ∧
      after.storage.classIdToNftContract = world.storage.classIdToNftContract.save
        (voucherClassId packet.dest data.classId) contract ∧
      after.storage.nftContractToClassId = world.storage.nftContractToClassId.save contract
        (voucherClassId packet.dest data.classId) ∧
      after.contracts.infoAt deployment.api = StoreMap.save
        (world.contracts.infoAt deployment.api) contract
        ⟨(voucherClassId packet.dest data.classId).id, deployment.bridge, .empty⟩ ∧
      after.contracts.instances = world.contracts.instances + 1

theorem received_of_applies {packet : IbcPacket} {data : NonFungibleTokenPacketData}
    (applies : deployment.Applies receiver
      (data.aggregate (selectActions packet data world.storage).2)
      (noted world packet data) after) :
    deployment.Received packet data receiver world after := by
  rcases applies_effect applies with ⟨middle, redeemed, created⟩
  have folded : SameButTransit world.storage (selectActions packet data world.storage).1 := by
    rw [selectActions_eq]
    exact sameButTransit_selectFrom _ _ _ _ _
  have storage : middle.storage = (selectActions packet data world.storage).1 :=
    congrArg World.storage redeemed.same
  constructor
  · have changed := created.storage
    rw [storage] at changed
    constructor
    · exact changed.code.trans folded.code
    · exact changed.proxy.trans folded.proxy
    · exact changed.pauser.trans folded.pauser
    · exact changed.paused.trans folded.paused
    · intro other different
      rw [changed.contracts other different, folded.contracts]
    · intro other different
      rw [changed.records other different, folded.records]
    · intro key different
      rw [changed.metadata key different, folded.metadata]
  · have recorded := created.record
    rw [storage, folded.records] at recorded
    exact recorded
  · rw [created.outgoing, storage]
  · rw [created.incoming, storage]
  · rw [created.same, redeemed.same]
    rfl
  · intro holder custody
    exact created.custody (redeemed.custody custody)
  · intro tokenId member
    rcases redeemed.moved tokenId member with
      ⟨contract, info, token, known, atContract, present, allowed, final⟩
    refine ⟨contract, info, token, ?_, atContract, present, allowed, ?_⟩
    · rw [← folded.contracts]
      exact known
    · rcases created.kept (contract, tokenId) with same | ⟨-, -, -, -, free⟩
      · rw [same, final]
      · rw [final] at free
        cases free
  · intro token member
    rcases created.minted token member with
      ⟨contract, info, registered, atContract, minter, free, final⟩
    refine ⟨contract, info, registered, atContract, minter, ?_, final⟩
    rcases redeemed.kept (contract, token.id) with same | ⟨moved, known⟩
    · rw [same] at free
      exact free
    · rcases redeemed.moved token.id moved with
        ⟨other, otherInfo, other_, knownOther, -, -, -, held⟩
      rw [known] at knownOther
      cases knownOther
      rw [free] at held
      cases held
  · intro key
    rcases created.kept key with same | ⟨token, member, named, registered, free⟩
    · rcases redeemed.kept key with before | ⟨moved, known⟩
      · exact .inl (same.trans before)
      · right
        left
        rw [← folded.contracts]
        exact ⟨moved, known⟩
    · rcases redeemed.kept key with before | ⟨moved, known⟩
      · rw [before] at free
        exact .inr (.inr ⟨token, member, named, registered, free⟩)
      · right
        left
        rw [← folded.contracts]
        exact ⟨moved, known⟩
  · rcases created.known_or_new with ⟨contracts, classes, infos, count⟩ |
      ⟨contract, missing, free, address, contracts, classes, infos, count⟩
    · left
      rw [storage] at contracts classes
      exact ⟨contracts.trans folded.contracts, classes.trans folded.classes,
        infos.trans redeemed.infos, count.trans redeemed.instances⟩
    · right
      rw [storage] at missing contracts classes
      rw [folded.contracts] at missing contracts
      rw [folded.classes] at classes
      rw [redeemed.infos] at free infos
      rw [redeemed.instances] at address count
      exact ⟨contract, missing, free, address, contracts, classes, infos, count⟩

/-- The registry keeps its entries when a packet goes through. -/
theorem Received.contract_kept {packet : IbcPacket} {data : NonFungibleTokenPacketData}
    {classId : ClassId} {contract : Addr}
    (received : deployment.Received packet data receiver world after)
    (registered : world.storage.classIdToNftContract classId = some contract) :
    after.storage.classIdToNftContract classId = some contract := by
  rcases received.known_or_new with ⟨contracts, -⟩ | ⟨fresh, missing, -, -, contracts, -⟩
  · rw [contracts]
    exact registered
  · have different : classId ≠ voucherClassId packet.dest data.classId := by
      intro same
      rw [same, missing] at registered
      cases registered
    rw [contracts, StoreMap.save_of_ne different]
    exact registered

end Deployment

end Ics721
