import Ics721.Library.Copies
import Ics721.Network.Conserved
import Ics721.Network.Order
import Ics721.Network.Shown

/-!
# Vouchers show the original

Bridges copy the URI and the data of an NFT into the packet that carries it, and from there into
the voucher.  In a network nobody can come between: whatever is under way, a voucher that was not
given back shows what the NFT shows that it stands for, at any distance.
-/

namespace Ics721

open Library

namespace Network

variable {ι : Type} {network : Network ι} {state : State ι}

/-- What the NFTs of a network show. -/
def shown (network : Network ι) (state : State ι) (chain : ι) (classId : ClassId)
    (tokenId : TokenId) : Option (Option String × Option Binary) :=
  ((network.deployment chain).scene (state.worlds chain)).shown (classId, tokenId)

/-- What a packet says about its NFT. -/
def copy (network : Network ι) (packet : IbcPacket) : Option (Option String × Option Binary) :=
  (network.payload packet).bind copyOf

theorem shown_eq_none {chain : ι} {classId : ClassId} {tokenId : TokenId} :
    network.shown state chain classId tokenId = none ↔
      (network.view state).holder chain classId tokenId = none :=
  Scene.shown_eq_none.trans Deployment.scene_tokens_eq_none

theorem copy_of_decoded {here : ι} {packet : IbcPacket} {data : NonFungibleTokenPacketData}
    (decoded : (network.deployment here).api.packetData.fromBinary packet.data = .ok data) :
    network.copy packet = copyOf data := by
  rw [network.speaks] at decoded
  simp [copy, payload, decoded, Except.toOption]

/-- Packets are read alike on all chains. -/
theorem untitled_iff {here there : ι} {packet : IbcPacket} :
    (network.deployment here).Untitled packet ↔ (network.deployment there).Untitled packet := by
  simp only [Deployment.Untitled, network.speaks]

/-- Everything is copied as it should be. -/
structure Faithful (network : Network ι) (state : State ι) : Prop
    extends network.Secured state where
  presentable : ∀ chain, Presentable (network.deployment chain).api (state.worlds chain)
  plain : ∀ chain, (network.deployment chain).Plain (state.worlds chain)
  copied : network.vouchers.Copied network.copy (network.view state) (network.shown state)
  recorded : ∀ {here channelId ends classId tokenId},
    network.peer here channelId = some ends →
    ((network.deployment here).scene (state.worlds here)).OnRecord
      (network.vouchers.voucher here channelId classId, tokenId)

/-- What a voucher in the hands of a user, or a packet on the road, stands for shows the same. -/
theorem Faithful.shown_eq (faithful : network.Faithful state) {tokenId : TokenId}
    {place origin : ι × ClassId} {uri : Option String}
    (located : network.vouchers.Located (network.view state) tokenId place)
    (reaches : Relation.ReflTransGen network.StandsFor place origin)
    (original : '/' ∉ origin.2.id.toList) {token : TokenInfo}
    (present : ((network.deployment origin.1).scene (state.worlds origin.1)).tokens
      (origin.2, tokenId) = some token) (same : token.tokenUri = uri) :
    network.shown state place.1 place.2 tokenId = some (uri, none) := by
  have unrecorded : (state.worlds origin.1).storage.tokenMetadata (origin.2, tokenId) = none := by
    cases recorded : (state.worlds origin.1).storage.tokenMetadata (origin.2, tokenId) with
    | none => rfl
    | some bytes => exact absurd ((faithful.plain origin.1).metadata recorded) original
  rw [faithful.copied.of_reaches faithful.backing located reaches]
  simp only [shown, Scene.shown, present, Option.map_some, same]
  simp only [Deployment.scene, unrecorded, Option.join_none]

/-! ## Originals -/

/-- Whoever has a voucher for the NFT, the bridge there shows what the NFT shows and the bridge of
the NFT keeps it; and the packets on the road say what it shows. -/
structure Authentic (network : Network ι) (state : State ι) (tokenId : TokenId)
    (uri : Option String) (origin : ι × ClassId) : Prop where
  token : ∀ {place}, Relation.TransGen network.StandsFor place origin →
    network.LiveAt state tokenId place →
    (network.deployment place.1).query (state.worlds place.1)
        (.tokenMetadata place.2.id tokenId.id) =
      .ok (.tokenMetadata (some ⟨tokenId, uri, none⟩))
  cls : ∀ {place}, Relation.TransGen network.StandsFor place origin →
    network.LiveAt state tokenId place →
    (network.deployment place.1).query (state.worlds place.1) (.classMetadata place.2.id) =
      .ok (.classMetadata (some ⟨place.2, none, none⟩))
  kept : ∀ {place}, Relation.TransGen network.StandsFor place origin →
    network.LiveAt state tokenId place →
    (network.deployment origin.1).query (state.worlds origin.1)
        (.owner origin.2.id tokenId.id) =
      .ok (.owner ⟨(network.deployment origin.1).bridge.addr, []⟩)
  packets : ∀ {place}, Relation.ReflTransGen network.StandsFor place origin →
    ∀ {packet data}, packet ∈ (state.worlds place.1).commitments →
      (network.deployment place.1).Posted packet data tokenId → data.classId = place.2 →
      (∀ ack, state.acks place.1 packet = some ack →
        tryGetAckError (network.deployment place.1).api ack ≠ none) →
      data.incoming = [((tokenId, uri), none)] ∧ data.classUri = none ∧ data.classData = none

/-- The collection of a local class is the one that the class is named after. -/
theorem Faithful.eq_of_registered (faithful : network.Faithful state) {chain : ι}
    {contract registered : Addr}
    (original : '/' ∉ ((state.worlds chain).storage.classOf contract).id.toList)
    (known : (state.worlds chain).storage.classIdToNftContract
      ((state.worlds chain).storage.classOf contract) = some registered) :
    registered = contract := by
  rcases faithful.orderly chain with ⟨codeId, orderly⟩
  have registry := orderly.sound.registry
  cases entry : (state.worlds chain).storage.nftContractToClassId contract with
  | some classId =>
      simp only [Storage.classOf, entry, Option.getD_some] at known
      rw [(registry.inverse classId contract).mpr entry] at known
      exact (Option.some.inj known).symm
  | none =>
      simp only [Storage.classOf, entry, Option.getD_none] at known original
      rcases registry.shape known with same | slash
      · cases registered
        cases contract
        exact congrArg Addr.mk same.symm
      · exact absurd slash original

theorem Faithful.authentic (faithful : network.Faithful state) {tokenId : TokenId}
    {origin : ι × ClassId} {uri : Option String} (original : '/' ∉ origin.2.id.toList)
    (shows : ∀ token, ((network.deployment origin.1).scene (state.worlds origin.1)).tokens
      (origin.2, tokenId) = some token → token.tokenUri = uri) :
    network.Authentic state tokenId uri origin := by
  -- Whatever stands for the NFT, the bridge knows the NFT.
  have known : ∀ {place}, network.vouchers.Located (network.view state) tokenId place →
      Relation.ReflTransGen network.StandsFor place origin →
      ∃ token, ((network.deployment origin.1).scene (state.worlds origin.1)).tokens
        (origin.2, tokenId) = some token := by
    intro place located reaches
    have present := faithful.toSecured.known_of_located located reaches
    exact Option.ne_none_iff_exists'.mp (mt Deployment.scene_tokens_eq_none.mp present)
  have head : ∀ {place}, Relation.TransGen network.StandsFor place origin →
      ∃ middle, network.StandsFor place middle ∧
        Relation.ReflTransGen network.StandsFor middle origin :=
    fun way => Relation.TransGen.head'_iff.mp way
  have live : ∀ {place}, Relation.TransGen network.StandsFor place origin →
      network.LiveAt state tokenId place →
      VoucherNet.Live (network.view state) tokenId place := by
    intro place way found
    rcases faithful.toSecured.live_cases found with isLive | ⟨local_, -⟩
    · exact isLive
    · rcases head way with ⟨middle, ⟨channelId, far, -, voucher⟩, -⟩
      rw [voucher] at local_
      exact absurd (slash_mem_voucherClassId _ _) local_
  constructor
  · intro place way found
    have isLive := live way found
    rcases known (.inl isLive) way.to_reflTransGen with ⟨token, present⟩
    have shown := faithful.shown_eq (.inl isLive) way.to_reflTransGen original present
      (shows token present)
    rcases head way with ⟨middle, ⟨channelId, far, opened, voucher⟩, -⟩
    apply Deployment.query_tokenMetadata _ shown
    rw [voucher]
    exact faithful.recorded opened
  · intro place way found
    rcases Deployment.holder_eq_user.mp (live way found) with ⟨contract, -, registered, -, -⟩
    rcases faithful.orderly place.1 with ⟨codeId, orderly⟩
    rcases orderly.sound.registry.class_recorded registered with ⟨cls, recorded⟩
    have untitled := (faithful.plain place.1).records recorded
    have named := orderly.sound.registry.class_id recorded
    have same : cls = ⟨place.2, none, none⟩ := by
      cases cls
      cases named
      cases untitled.1
      cases untitled.2
      rfl
    rw [same] at recorded
    simp [Deployment.query, query, queryClassMetadata, recorded]
  · intro place way found
    have isLive := live way found
    rcases Relation.TransGen.tail'_iff.mp way with ⟨last, reaches, channelId, far, opened, voucher⟩
    have secure := VoucherNet.secure_of_passed
      (fun opened voucher => faithful.backing.backs_of_standsFor opened voucher) isLive reaches
    have backs := faithful.backing.backs_of_standsFor opened voucher secure
    rcases Deployment.holder_eq_escrow.mp backs.held with
      ⟨contract, token, registered, present, owned⟩
    rcases faithful.orderly origin.1 with ⟨codeId, orderly⟩
    have approvals := orderly.custody.approvals present owned
    rw [Deployment.query_owner (Deployment.scene_tokens_eq_some.mpr
      ⟨contract, registered, present⟩), owned, approvals]
  · intro place reaches packet data pending posted cls failed
    have located := located_of_inPacket ⟨packet, pending, ⟨data, posted, cls⟩, failed⟩
    rcases known located reaches with ⟨token, present⟩
    have shown := faithful.shown_eq located reaches original present (shows token present)
    have carried := faithful.copied.parcels ⟨pending, .inl (not_arrived failed)⟩
    rw [posted.cls, posted.token, cls, shown, copy_of_decoded posted.decoded] at carried
    have valid := posted.valid (faithful.presentable place.1) pending
    rcases incoming_single valid posted.single with ⟨carriedUri, bytes, incoming⟩
    simp only [copyOf, incoming, List.head?_cons, Option.map_some, Option.some.injEq,
      Prod.mk.injEq] at carried
    rcases carried with ⟨rfl, rfl⟩
    exact ⟨incoming, (faithful.plain place.1).packets packet pending data posted.decoded⟩

/-! ## Steps -/

variable [DecidableEq ι]

theorem Genesis.faithful (genesis : network.Genesis state) : network.Faithful state := by
  have empty : ∀ chain, ∃ codeId pauser ledger, state.worlds chain =
      ⟨⟨codeId, none, pauser, false, .empty, .empty, .empty, .empty, .empty, .empty⟩, ledger, [],
        0, []⟩ := by
    intro chain
    rcases genesis.instantiated chain with ⟨msg, ledger, -, -, instantiated⟩
    rcases Deployment.instantiateTx_eq_ok (.refl _) instantiated with ⟨-, pauser, same⟩
    exact ⟨_, pauser, ledger, same⟩
  have absent : ∀ chain classId tokenId,
      (network.view state).holder chain classId tokenId = none := by
    intro chain classId tokenId
    rcases empty chain with ⟨codeId, pauser, ledger, same⟩
    simp only [view, same]
    rfl
  constructor
  · exact genesis.secured
  · exact genesis.presentable []
  · intro chain
    rcases empty chain with ⟨codeId, pauser, ledger, same⟩
    rw [same]
    constructor
    · intro classId cls recorded
      cases recorded
    · intro classId tokenId bytes present
      cases present
    · intro packet member
      cases member
  · apply VoucherNet.Copied.start
    · intro chain packet member
      rcases empty chain with ⟨codeId, pauser, ledger, same⟩
      simp only [view, same] at member
      cases member
    · exact fun chain classId tokenId => shown_eq_none
    · exact fun chain channelId ends classId tokenId _ => absent chain _ _
  · intro here channelId ends classId tokenId _ present
    exact absurd (Deployment.scene_tokens_eq_none.mpr (absent here _ _)) present

/-- What a chain does by itself. -/
theorem copying_act {here : ι} {codeId : Nat} {label : Chain.Label}
    {after : World Ledger} (orderly : (network.deployment here).Orderly codeId (state.worlds here))
    (extended : Extends (state.worlds here).storage after.storage)
    (notReceived : ∀ packet, label ≠ .receive packet)
    (stepped : (network.deployment here).Stepped (state.worlds here) label after) :
    network.vouchers.Copying network.copy (network.view state)
      (network.view ⟨Function.update state.worlds here after, state.acks⟩)
      (network.shown state)
      (network.shown ⟨Function.update state.worlds here after, state.acks⟩) where
  present := shown_eq_none
  kept := by
    intro chain classId tokenId old new before later
    by_cases same : chain = here
    · subst same
      simp only [shown, Function.update_self] at later
      exact (orderly.toHeld.lasting extended notReceived stepped).shown before later
    · simp only [shown, Function.update_of_ne same] at before later
      exact Option.some.inj (later.symm.trans before)
  sent := by
    intro chain packet sent new
    by_cases same : chain = here
    · subst same
      simp only [view, Function.update_self] at sent new
      rcases orderly.shown_of_sent extended stepped sent new with ⟨data, tokenId, posted, same⟩
      rw [posted.cls, posted.token, copy_of_decoded posted.decoded]
      simp only [shown, Function.update_self]
      exact same
    · simp only [view, Function.update_of_ne same] at sent new
      exact absurd sent new
  issued := by
    intro chain there packet far unreceived arrived
    change (network.view state).receipt chain packet = some true at arrived
    rw [unreceived] at arrived
    cases arrived

/-- What becomes of a packet that is delivered. -/
theorem Secured.copying_deliver (secured : network.Secured state)
    (presentable : ∀ chain, Presentable (network.deployment chain).api (state.worlds chain))
    (mail : Mail ι) :
    network.vouchers.Copying network.copy (network.view state)
        (network.view (network.hand state mail)) (network.shown state)
        (network.shown (network.hand state mail)) ∧
      ∀ {here classId tokenId},
        ((network.deployment here).scene (state.worlds here)).OnRecord (classId, tokenId) →
        ((network.deployment here).scene ((network.hand state mail).worlds here)).OnRecord
          (classId, tokenId) := by
  have seen := secured.outlook_deliver presentable mail
  have scenes : ∀ chain, (network.deployment chain).scene
      ((network.hand state mail).worlds chain) =
        ((network.outlook state).deliver network mail).scenes chain :=
    fun chain => congrFun (congrArg Outlook.scenes seen) chain
  have receipts : ∀ chain packet, (network.view (network.hand state mail)).receipt chain packet =
      ((network.outlook state).deliver network mail).receipts (chain, packet) :=
    fun chain packet => congrFun (congrArg Outlook.receipts seen) (chain, packet)
  have commitments : ∀ chain, ((network.hand state mail).worlds chain).commitments =
      ((network.outlook state).deliver network mail).commitments chain :=
    fun chain => congrFun (congrArg Outlook.commitments seen) chain
  by_cases waiting : (network.outlook state).Waiting mail
  · rcases secured.exists_read (presentable mail.1) waiting.1 with ⟨there, far, data, item, read⟩
    simp only [Outlook.deliver_of_waiting waiting read.parcel] at scenes receipts commitments
    -- Only the voucher of the packet is new, and shows what the packet says.
    have changed : ∀ chain classId tokenId,
        (network.shown (network.hand state mail) chain classId tokenId =
            network.shown state chain classId tokenId ∧
          (((network.deployment chain).scene (state.worlds chain)).OnRecord
              (classId, tokenId) →
            ((network.deployment chain).scene
              ((network.hand state mail).worlds chain)).OnRecord (classId, tokenId))) ∨
        chain = there ∧ (classId, tokenId) = (voucherClassId mail.2.dest data.classId, item.1.1) ∧
          network.shown state chain classId tokenId = none ∧
          network.shown (network.hand state mail) chain classId tokenId =
            some (item.1.2, item.2) ∧
          ((network.deployment chain).scene
            ((network.hand state mail).worlds chain)).OnRecord (classId, tokenId) := by
      intro chain classId tokenId
      unfold shown
      rw [scenes chain]
      by_cases same : chain = there
      · subst same
        rw [Function.update_self]
        rcases ((network.outlook state).scenes chain).shown_deliver
            (network.deployment chain).bridge (network.deployment chain).api.addrValid
            (Deployment.parcelOf mail.2 data item) (classId, tokenId) with
          unchanged | ⟨isVoucher, absent, shows, recorded⟩
        · exact .inl unchanged
        · exact .inr ⟨rfl, isVoucher, Scene.shown_eq_none.mpr absent, shows, recorded⟩
      · simp only [Function.update_of_ne same]
        exact .inl ⟨rfl, id⟩
    constructor
    · constructor
      · exact shown_eq_none
      · intro chain classId tokenId old new before later
        rcases changed chain classId tokenId with ⟨same, -⟩ | ⟨-, -, absent, -, -⟩
        · rw [same, before] at later
          exact (Option.some.inj later).symm
        · rw [absent] at before
          cases before
      · intro chain packet sent new
        simp only [view, commitments] at sent new
        exact absurd sent new
      · intro chain other packet otherFar unreceived arrived opened absent present
        have same : (chain, packet) = mail := by
          by_contra different
          rw [receipts, Function.update_of_ne different] at arrived
          change (network.view state).receipt chain packet = some true at arrived
          rw [unreceived] at arrived
          cases arrived
        subst same
        change network.peer chain packet.src.channelId = some (other, otherFar) at opened
        rw [read.opened] at opened
        cases opened
        have missing := shown_eq_none.mpr absent
        have appears := mt shown_eq_none.mp present
        rcases changed _ _ _ with ⟨same, -⟩ | ⟨-, -, -, shows, -⟩
        · rw [same, missing] at appears
          exact absurd rfl appears
        · rw [shows, copy_of_decoded read.posted.decoded, copyOf, read.single]
          rfl
    · intro here classId tokenId recorded
      rcases changed here classId tokenId with ⟨-, kept⟩ | ⟨-, -, -, -, created⟩
      · exact kept recorded
      · exact created
  · rw [Outlook.deliver_of_not_waiting waiting] at scenes receipts commitments
    have unchanged : ∀ chain classId tokenId,
        network.shown (network.hand state mail) chain classId tokenId =
          network.shown state chain classId tokenId := by
      intro chain classId tokenId
      unfold shown
      rw [scenes]
      rfl
    constructor
    · constructor
      · exact shown_eq_none
      · intro chain classId tokenId old new before later
        rw [unchanged, before] at later
        exact (Option.some.inj later).symm
      · intro chain packet sent new
        simp only [view, commitments] at sent new
        exact absurd sent new
      · intro chain there packet far unreceived arrived
        rw [receipts] at arrived
        change (network.view state).receipt chain packet = some true at arrived
        rw [unreceived] at arrived
        cases arrived
    · intro here classId tokenId recorded
      rw [scenes]
      exact recorded

theorem Secured.step_deliver (secured : network.Secured state) (here : ι) (packet : IbcPacket) :
    network.vouchers.Step (network.view state)
      (network.view (network.deliver state here packet)) := by
  have idle : network.vouchers.Step (network.view state) (network.view state) :=
    .idle (fun _ _ _ => ⟨id, fun _ _ _ _ _ => id⟩) rfl rfl rfl rfl
  unfold Network.deliver
  split
  next permitted =>
    rcases permitted with ⟨pending, unreceived⟩
    rcases secured.posted here packet pending with ⟨data, tokenId, posted⟩
    rcases posted.opened with ⟨there, far, opened, dest⟩
    simp only [opened]
    split
    next after ack received =>
      rcases secured.orderly there with ⟨codeId, orderly⟩
      have heldAfter := orderly.toHeld.step (.of _ (.receive packet))
      simp only [Deployment.happen, Deployment.Event.of,
        step_receive (by rw [dest]) received] at heldAfter
      exact step_delivered secured.backing orderly.toHeld heldAfter posted dest pending
        (by simp [view, unreceived]) opened received
    next => exact idle
  next => exact idle

theorem Secured.plain_deliver (secured : network.Secured state)
    (plain : ∀ chain, (network.deployment chain).Plain (state.worlds chain)) (here : ι)
    (packet : IbcPacket) (chain : ι) :
    (network.deployment chain).Plain ((network.deliver state here packet).worlds chain) := by
  unfold Network.deliver
  split
  next permitted =>
    rcases secured.posted here packet permitted.1 with ⟨data, tokenId, posted⟩
    rcases posted.opened with ⟨there, far, opened, dest⟩
    simp only [opened]
    split
    next after ack received =>
      by_cases same : chain = there
      · subst same
        simp only [Function.update_self]
        rcases secured.orderly chain with ⟨codeId, orderly⟩
        have stepped := orderly.toHeld.stepped (.of _ (.receive packet))
        simp only [Deployment.happen, Deployment.Event.of,
          step_receive (by rw [dest]) received] at stepped
        apply (plain chain).stepped orderly _ stepped
        rintro _ ⟨⟩
        exact untitled_iff.mp ((plain here).packets packet permitted.1)
      · simp only [Function.update_of_ne same]
        exact plain chain
    next => exact plain chain
  next => exact plain chain

theorem Faithful.act (faithful : network.Faithful state) {here : ι} {label : Chain.Label}
    (securedAfter : network.Secured (network.act state here label))
    (presentable : ∀ chain, Presentable (network.deployment chain).api
      ((network.act state here label).worlds chain))
    (notReceived : ∀ packet, label ≠ .receive packet)
    (acked : ∀ packet ack, label = .ack packet ack → state.acks here packet = some ack)
    (undelivered : ∀ packet, label = .timeout packet → state.acks here packet = none) :
    network.Faithful (network.act state here label) := by
  rcases faithful.orderly here with ⟨codeId, orderly⟩
  have stepped := orderly.toHeld.stepped (.of _ label)
  have extended := orderly.toHeld.extends (.of _ label)
  have moved := step_act faithful.toLinked orderly extended notReceived acked undelivered stepped
  have copying := copying_act orderly extended notReceived stepped
  have lasting := orderly.toHeld.lasting extended notReceived stepped
  constructor
  · exact securedAfter
  · exact presentable
  · intro chain
    by_cases same : chain = here
    · subst same
      simp only [Network.act, Function.update_self]
      apply (faithful.plain chain).stepped orderly _ stepped
      intro packet same
      exact absurd same (notReceived packet)
    · simp only [Network.act, Function.update_of_ne same]
      exact faithful.plain chain
  · exact faithful.copied.step faithful.backing securedAfter.backing moved copying
  · intro chain channelId ends classId tokenId opened
    by_cases same : chain = here
    · subst same
      simp only [Network.act, Function.update_self]
      intro still
      have present : (network.view state).holder chain
          (network.vouchers.voucher chain channelId classId) tokenId ≠ none := by
        intro absent
        -- Vouchers do not appear unless a packet is delivered.
        have appears : (network.view ⟨Function.update state.worlds chain
            ((network.deployment chain).happen (state.worlds chain) (.of _ label)),
            state.acks⟩).holder chain
              (network.vouchers.voucher chain channelId classId) tokenId ≠ none := by
          simp only [view, Function.update_self]
          exact mt Deployment.scene_tokens_eq_none.mpr still
        rcases moved.appeared faithful.backing opened absent appears with
          ⟨packet, -, unreceived, arrived, -⟩
        change (network.view state).receipt ends.1 packet = some true at arrived
        rw [unreceived] at arrived
        cases arrived
      exact lasting.onRecord (mt Deployment.scene_tokens_eq_none.mp present)
        (faithful.recorded opened) still
    · simp only [Network.act, Function.update_of_ne same]
      exact faithful.recorded opened

theorem Faithful.step (faithful : network.Faithful state) (label : Label ι) :
    network.Faithful (network.step state label) := by
  have securedAfter := faithful.toSecured.step label
  have presentable : ∀ chain, Presentable (network.deployment chain).api
      ((network.step state label).worlds chain) := by
    intro chain
    rcases faithful.toLinked.own label chain with same | ⟨own, reached⟩
    · rw [same]
      exact faithful.presentable chain
    · rw [← reached]
      exact (faithful.presentable chain).step (Deployment.lawful (.refl _) 0) own
  have done := network.taken state label
  generalize network.step state label = after at done securedAfter presentable
  cases done with
  | stayed => exact faithful
  | acted _ _ notReceived acked undelivered =>
      exact faithful.act securedAfter presentable notReceived acked undelivered
  | @delivered here packet =>
      rcases faithful.toSecured.copying_deliver faithful.presentable (here, packet) with
        ⟨copying, recorded⟩
      constructor
      · exact securedAfter
      · exact presentable
      · exact faithful.toSecured.plain_deliver faithful.plain here packet
      · exact faithful.copied.step faithful.backing securedAfter.backing
          (faithful.toSecured.step_deliver here packet) copying
      · intro chain channelId ends classId tokenId opened
        exact recorded (faithful.recorded opened)

end Network

/-- In every state of every run, all vouchers for an NFT that users have, over any number of
channels, show the URI of the NFT and nothing else, and so do the packets that carry it. -/
theorem originals_shown_of_run {ι : Type} [DecidableEq ι] {network : Network ι}
    {start : Network.State ι} (genesis : network.Genesis start)
    (labels : List (Network.Label ι)) {state : Network.State ι}
    (reached : labels.foldl network.step start = state) {chain : ι} {contract : Addr}
    {tokenId : TokenId} {token : TokenInfo}
    (present : (state.worlds chain).contracts.nfts (network.deployment chain).api
      (contract, tokenId) = some token)
    (original : '/' ∉ ((state.worlds chain).storage.classOf contract).id.toList) :
    network.Authentic state tokenId token.tokenUri
      (chain, (state.worlds chain).storage.classOf contract) := by
  have faithful : network.Faithful state := by
    rw [← reached]
    exact run_invariant (fun _ label held => held.step label) labels genesis.faithful
  apply faithful.authentic original
  intro token' shown
  rcases Deployment.scene_tokens_eq_some.mp shown with ⟨registered, known, found⟩
  have same := faithful.eq_of_registered original known
  rw [same, present] at found
  cases found
  rfl

/-! ## An NFT with a URI -/

namespace Sample

/-- The packet with which Alice sends an NFT that has a URI. -/
def illustrated : IbcPacket where
  data := api.packetData.toBinary
    ⟨⟨"contract0"⟩, none, none, [⟨"gem"⟩], some ["ipfs://gem"], none, "alice", "bob", none⟩
  src := ⟨"wasm.bridge", "channel-0"⟩
  dest := ⟨"wasm.bridge", "channel-5"⟩
  sequence := 0
  timeout := ⟨none, some 5⟩

/-- Alice mints the NFT and sends it to Bob. -/
def shownAbroad : List (Network.Label Place) :=
  [.execute .home ⟨"alice"⟩ (.instantiate none 1 (.cw721 ⟨"art", "ART", "alice"⟩) "art"),
    .execute .home ⟨"alice"⟩ (.execute ⟨"contract0"⟩
      (.cw721 (.mint ⟨"gem"⟩ "alice" (some "ipfs://gem")))),
    .execute .home ⟨"alice"⟩ (.execute ⟨"contract0"⟩
      (.cw721 (.sendNft "bridge" ⟨"gem"⟩ (request "bob" "channel-0")))),
    .deliver .home illustrated,
    .acknowledge .home illustrated]

end Sample

/-- Alice's NFT is at Bob's. -/
theorem originals_shown_of_sample :
    Sample.network.Authentic (Sample.networkRun Sample.shownAbroad) ⟨"gem"⟩ (some "ipfs://gem")
      (.home, ((Sample.networkRun Sample.shownAbroad).worlds .home).storage.classOf
        ⟨"contract0"⟩) := by
  have observed : ((Sample.networkRun Sample.shownAbroad).worlds .home).contracts.nfts Sample.api
        (⟨"contract0"⟩, ⟨"gem"⟩) = some ⟨⟨"bridge"⟩, [], some "ipfs://gem"⟩ ∧
      '/' ∉ (((Sample.networkRun Sample.shownAbroad).worlds .home).storage.classOf
        ⟨"contract0"⟩).id.toList := by
    decide +kernel
  have reached : Sample.shownAbroad.foldl Sample.network.step Sample.fresh =
      Sample.networkRun Sample.shownAbroad := rfl
  exact originals_shown_of_run Sample.genesis_fresh Sample.shownAbroad reached observed.1
    observed.2

end Ics721
