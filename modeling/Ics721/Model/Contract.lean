import Ics721.Model.Receive

/-!
# Execute, migrate and query

The entry points of `contract.rs` that are not part of the IBC interface.  `Querier`
is what the bridge asks other contracts of the chain for.
-/

namespace Ics721

open Library

/-- Smart queries of the bridge: the token URI of an NFT and the name of a
collection. -/
structure Querier where
  nftInfo : Addr → TokenId → Except StdError (Option String)
  contractInfo : Addr → Except StdError String

/-- `ContractInstantiateInfo::into_wasm_msg`. -/
def ContractInstantiateInfo.intoWasmMsg (self : ContractInstantiateInfo)
    (instantiator : Addr) : WasmMsg :=
  .instantiate
    (self.admin.map fun
      | .address addr => addr
      | .instantiator => instantiator.addr)
    self.codeId (.other self.msg) self.label

/-- A freshly instantiated bridge.  The pauser is set before anything can go wrong
with the proxy, whose address arrives in a reply. -/
def instantiate (api : Api) (contract : Addr) (msg : InstantiateMsg) :
    Except ContractError (Storage × Response) := do
  let storage : Storage :=
    { cw721CodeId := msg.cw721BaseCodeId
      proxy := none
      pauser := none
      paused := false
      classIdToNftContract := .empty
      nftContractToClassId := .empty
      classIdToClass := .empty
      outgoingClassTokenToChannel := .empty
      incomingClassTokenToChannel := .empty
      tokenMetadata := .empty }
  let storage ← (storage.setPauser api msg.pauser).mapError .std
  let proxyInstantiate := (msg.proxy.map fun proxy =>
    SubMsg.mk (.wasm (proxy.intoWasmMsg contract)) .success instantiateProxyReplyId).toList
  return (storage,
    { messages := proxyInstantiate
      attributes := [⟨"method", "instantiate"⟩,
        ⟨"cw721_code_id", toString msg.cw721BaseCodeId⟩] })

/-! ## Sending an NFT away -/

/-- The class of an NFT contract.  A contract without class ID is a local one that
has never been sent out: it becomes a class under its own address. -/
def classForContract (storage : Storage) (contract : Addr) :
    Except StdError (Storage × Class) :=
  match storage.nftContractToClassId contract with
  | some classId => do
      let cls ← storage.loadClass classId
      return (storage, cls)
  | none =>
      let cls : Class := ⟨⟨contract.addr⟩, none, none⟩
      .ok ({ storage with
              nftContractToClassId := storage.nftContractToClassId.save contract cls.id
              classIdToNftContract := storage.classIdToNftContract.save cls.id contract
              classIdToClass := storage.classIdToClass.save cls.id cls }, cls)

/-- The packet that sends one token of a class. -/
def outgoingPacketData (storage : Storage) (cls : Class) (tokenId : TokenId)
    (tokenUri : Option String) (sender : Addr) (msg : IbcOutgoingMsg) :
    NonFungibleTokenPacketData :=
  let tokenMetadata := (storage.tokenMetadata (cls.id, tokenId)).join
  { classId := cls.id
    classUri := cls.uri
    classData := cls.data
    tokenIds := [tokenId]
    tokenUris := tokenUri.map fun uri => [uri]
    tokenData := tokenMetadata.map fun metadata => [metadata]
    sender := sender.addr
    receiver := msg.receiver
    memo := msg.memo }

/-- Send the NFT `tokenId` of the contract `info` over IBC.  The bridge does not
check that it holds the NFT: `info` is trusted to have transferred it. -/
def receiveNft (api : Api) (querier : Querier) (storage : Storage) (info : Addr)
    (tokenId : TokenId) (sender : String) (msg : Binary) :
    Except ContractError (Storage × Response) := do
  let sender ← (api.addrValidate sender).mapError .std
  let msg ← (api.ibcOutgoing.fromBinary msg).mapError .std
  let (storage, cls) ← (classForContract storage info).mapError .std
  let tokenUri ← (querier.nftInfo info tokenId).mapError .std
  let data := outgoingPacketData storage cls tokenId tokenUri sender msg
  let ibcMessage :=
    IbcMsg.sendPacket msg.channelId (api.packetData.toBinary data) msg.timeout
  return ({ storage with
      outgoingClassTokenToChannel :=
        storage.outgoingClassTokenToChannel.save (cls.id, tokenId) msg.channelId },
    { messages := [(CosmosMsg.ibc ibcMessage).sub]
      attributes := [⟨"method", "execute_receive_nft"⟩, ⟨"token_id", tokenId.id⟩,
        ⟨"class_id", cls.id.id⟩, ⟨"channel_id", msg.channelId⟩] })

/-- NFTs that a collection sends directly: refused once a proxy is configured. -/
def executeReceiveNft (api : Api) (querier : Querier) (storage : Storage) (info : Addr)
    (tokenId sender : String) (msg : Binary) :
    Except ContractError (Storage × Response) :=
  if storage.proxy.isSome then
    .error .unauthorized
  else
    receiveNft api querier storage info ⟨tokenId⟩ sender msg

/-- NFTs that the proxy forwards, on behalf of the contract `eyeball`. -/
def executeReceiveProxyNft (api : Api) (querier : Querier) (storage : Storage)
    (info : Addr) (eyeball : String) (msg : Cw721ReceiveMsg) :
    Except ContractError (Storage × Response) :=
  if storage.proxy ≠ some info then
    .error .unauthorized
  else do
    let info ← (api.addrValidate eyeball).mapError .std
    receiveNft api querier storage info ⟨msg.tokenId⟩ msg.sender msg.msg

def executePause (storage : Storage) (info : Addr) :
    Except ContractError (Storage × Response) := do
  let storage ← (storage.pause info).mapError .pause
  return (storage, { attributes := [⟨"method", "pause"⟩] })

/-! ## Callbacks -/

/-- Mint `tokens` of a class that has a collection. -/
def callbackMint (api : Api) (storage : Storage) (classId : ClassId)
    (tokens : List Token) (receiver : String) :
    Except ContractError (Storage × Response) := do
  let receiver ← (api.addrValidate receiver).mapError .std
  let cw721Addr ← (storage.loadNftContract classId).mapError .std
  -- Metadata is set for every token, regardless of whether there is any.
  let tokenMetadata := tokens.foldl
    (fun metadata token => metadata.save (classId, token.id) token.data) storage.tokenMetadata
  let mint := tokens.map fun token =>
    WasmMsg.execute cw721Addr (.cw721 (.mint token.id receiver.addr token.uri))
  return ({ storage with tokenMetadata := tokenMetadata },
    { messages := mint.map (·.sub)
      attributes := [⟨"method", "callback_mint"⟩] })

/-- Create debt-vouchers.  If their collection does not exist yet, it is
instantiated before they are minted. -/
def callbackCreateVouchers (contract : Addr) (storage : Storage) (receiver : String)
    (create : VoucherCreation) : Except ContractError (Storage × Response) :=
  let cls := create.cls
  let instantiate : List (SubMsg CosmosMsg) :=
    if storage.classIdToNftContract.has cls.id then
      []
    else
      -- The name of the collection is the class ID: the reply reads it back.
      [⟨.wasm (.instantiate none storage.cw721CodeId
          (.cw721 ⟨cls.id.id, cls.id.id, contract.addr⟩) "ics-721 debt-voucher cw-721"),
        .success, instantiateCw721ReplyId⟩]
  let mint := WasmMsg.execute contract
    (.bridge (.callback (.mint cls.id receiver create.tokens)))
  -- An earlier record of the class is overwritten: its metadata may have changed.
  .ok ({ storage with classIdToClass := storage.classIdToClass.save cls.id cls },
    { messages := instantiate ++ [mint.sub]
      attributes := [⟨"method", "callback_create_vouchers"⟩] })

/-- Return the tokens that the redeemed vouchers stand for to the receiver. -/
def callbackRedeemVouchers (api : Api) (storage : Storage) (receiver : String)
    (redeem : VoucherRedemption) : Except ContractError (Storage × Response) := do
  let nftContract ← (storage.loadNftContract redeem.cls.id).mapError .std
  let receiver ← (api.addrValidate receiver).mapError .std
  let transfers := redeem.tokenIds.map fun tokenId =>
    WasmMsg.execute nftContract (.cw721 (.transferNft receiver.addr tokenId))
  return (storage,
    { messages := transfers.map (·.sub)
      attributes := [⟨"method", "callback_redeem_vouchers"⟩] })

def executeCallback (api : Api) (contract : Addr) (storage : Storage) (info : Addr)
    (msg : CallbackMsg) : Except ContractError (Storage × Response) :=
  if info ≠ contract then
    .error .unauthorized
  else
    match msg with
    | .createVouchers receiver create =>
        callbackCreateVouchers contract storage receiver create
    | .redeemVouchers receiver redeem => callbackRedeemVouchers api storage receiver redeem
    | .mint classId receiver tokens => callbackMint api storage classId tokens receiver
    | .conjunction operands => .ok (storage, { messages := operands.map (·.sub) })

def execute (api : Api) (contract : Addr) (querier : Querier) (storage : Storage)
    (info : Addr) (msg : ExecuteMsg) : Except ContractError (Storage × Response) := do
  (storage.errorIfPaused).mapError .pause
  match msg with
  | .receiveNft msg =>
      executeReceiveNft api querier storage info msg.tokenId msg.sender msg.msg
  | .receiveProxyNft eyeball msg =>
      executeReceiveProxyNft api querier storage info eyeball msg
  | .pause => executePause storage info
  | .callback msg => executeCallback api contract storage info msg

/-- Governance sets the proxy and the pauser anew; the bridge is unpaused. -/
def migrate (api : Api) (storage : Storage) : MigrateMsg →
    Except ContractError (Storage × Response)
  | .withUpdate pauser proxy => do
      let proxy ← (proxy.mapM api.addrValidate).mapError .std
      let storage ← ({ storage with proxy := proxy }.setPauser api pauser).mapError .std
      return (storage, { attributes := [⟨"method", "migrate"⟩] })

/-! ## Queries -/

/-- The metadata of a voucher.  The second component says whether the assertion that
a token with metadata has a contract was reached and failed. -/
def queryTokenMetadata (querier : Querier) (storage : Storage) (classId : ClassId)
    (tokenId : TokenId) : Except StdError (Option Token × Bool) :=
  match storage.tokenMetadata (classId, tokenId) with
  | none => .ok (none, false)
  | some tokenMetadata =>
      match storage.classIdToNftContract classId with
      | none => .ok (none, true)
      | some tokenContract => do
          let tokenUri ← querier.nftInfo tokenContract tokenId
          return (some ⟨tokenId, tokenUri, tokenMetadata⟩, false)

end Ics721
