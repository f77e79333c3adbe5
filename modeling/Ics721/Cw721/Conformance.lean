import Ics721.Cw721.Calls
import Ics721.Registry.Dispatch

/-!
# Faults only take successes away

A transaction that goes through with conforming contracts goes through with cw721-base
itself, and leaves the same world behind: the bridge catches no failure of what it calls,
except for the one submessage of a received packet.
-/

namespace Ics721

open Library

/-! ## The bridge asks queries -/

/-- Whatever `small` answers, `large` answers too. -/
structure Querier.Below (small large : Querier) : Prop where
  nftInfo : ∀ {contract tokenId uri}, small.nftInfo contract tokenId = .ok uri →
    large.nftInfo contract tokenId = .ok uri
  contractInfo : ∀ {contract name}, small.contractInfo contract = .ok name →
    large.contractInfo contract = .ok name

namespace Querier.Below

variable {api : Api} {small large : Querier} {storage : Storage}
variable {result : Storage × Response}

theorem receiveNft (below : Below small large) {info : Addr} {tokenId : TokenId}
    {sender : String} {msg : Binary}
    (received : Ics721.receiveNft api small storage info tokenId sender msg = .ok result) :
    Ics721.receiveNft api large storage info tokenId sender msg = .ok result := by
  simp only [Ics721.receiveNft, bind_eq_ok, mapError_eq_ok] at received ⊢
  obtain ⟨from_, valid, outgoing, decoded, selected, registered, uri, queried, done⟩ := received
  exact ⟨from_, valid, outgoing, decoded, selected, registered, uri, below.nftInfo queried, done⟩

theorem execute (below : Below small large) {contract info : Addr} {msg : ExecuteMsg}
    (executed : Ics721.execute api contract small storage info msg = .ok result) :
    Ics721.execute api contract large storage info msg = .ok result := by
  simp only [Ics721.execute, bind_eq_ok] at executed ⊢
  obtain ⟨running, unpaused, executed⟩ := executed
  refine ⟨running, unpaused, ?_⟩
  cases msg with
  | receiveNft msg =>
      simp only [executeReceiveNft] at executed ⊢
      split at executed
      next => cases executed
      next noProxy =>
        rw [if_neg noProxy]
        exact below.receiveNft executed
  | receiveProxyNft eyeball msg =>
      simp only [executeReceiveProxyNft] at executed ⊢
      split at executed
      next => cases executed
      next isProxy =>
        rw [if_neg isProxy]
        simp only [bind_eq_ok] at executed ⊢
        obtain ⟨named, valid, executed⟩ := executed
        exact ⟨named, valid, below.receiveNft executed⟩
  | pause => exact executed
  | callback msg => exact executed

theorem reply (below : Below small large) {answer : Reply}
    (replied : Ics721.reply api small storage answer = .ok result) :
    Ics721.reply api large storage answer = .ok result := by
  unfold Ics721.reply at replied ⊢
  split at replied
  next isCw721 =>
    rw [if_pos isCw721]
    simp only [replyInstantiateCw721, bind_eq_ok, mapError_eq_ok] at replied ⊢
    obtain ⟨text, parsed, contract, valid, name, queried, done⟩ := replied
    exact ⟨text, parsed, contract, valid, name, below.contractInfo queried, done⟩
  next notCw721 =>
    rw [if_neg notCw721]
    exact replied

end Querier.Below

namespace Conforms

variable {σ : Type} {base contracts : Contracts σ}

theorem querier (conforms : Conforms base contracts) (state : σ) :
    Querier.Below (contracts.querier state) (base.querier state) :=
  ⟨conforms.nftInfo, conforms.contractInfo⟩

/-- Contracts with faults succeed less often. -/
theorem refines (conforms : Conforms base contracts) (chain : Chain) :
    (chain.machine contracts).Refines (chain.machine base) where
  execute := by
    intro world caller msg outcome executed
    change chain.executeMsg contracts world caller msg = _ at executed
    change chain.executeMsg base world caller msg = _
    cases msg with
    | wasm msg =>
        cases msg with
        | execute contract msg =>
            simp only [Chain.executeMsg] at executed ⊢
            split at executed
            next isBridge =>
              rw [if_pos isBridge]
              cases msg with
              | bridge msg =>
                  simp only [bind_eq_ok, mapError_eq_ok] at executed ⊢
                  obtain ⟨result, ran, done⟩ := executed
                  exact ⟨result, (conforms.querier _).execute ran, done⟩
              | cw721 msg => cases executed
              | other msg => cases executed
            next notBridge =>
              rw [if_neg notBridge]
              simp only [bind_eq_ok, mapError_eq_ok] at executed ⊢
              obtain ⟨reaction, ran, done⟩ := executed
              exact ⟨reaction, conforms.execute ran, done⟩
        | instantiate admin code msg label =>
            simp only [Chain.executeMsg, bind_eq_ok, mapError_eq_ok] at executed ⊢
            obtain ⟨result, ran, done⟩ := executed
            exact ⟨result, conforms.instantiate ran, done⟩
    | ibc msg => exact executed
  reply := by
    intro world caller id result response replied
    change chain.replyMsg contracts world caller id (.ok result) = _ at replied
    change chain.replyMsg base world caller id (.ok result) = _
    simp only [Chain.replyMsg] at replied ⊢
    split at replied
    next isBridge =>
      rw [if_pos isBridge]
      simp only [bind_eq_ok, mapError_eq_ok] at replied ⊢
      obtain ⟨outcome, ran, done⟩ := replied
      exact ⟨outcome, (conforms.querier _).reply ran, done⟩
    next notBridge =>
      rw [if_neg notBridge]
      simp only [bind_eq_ok, mapError_eq_ok] at replied ⊢
      obtain ⟨outcome, ran, done⟩ := replied
      exact ⟨outcome, conforms.reply ran, done⟩

end Conforms

/-! ## The bridge catches nothing -/

theorem uncaught_map_sub (messages : List WasmMsg) :
    Machine.Uncaught (messages.map (·.sub)) := by
  intro sub member
  obtain ⟨msg, -, rfl⟩ := List.mem_map.mp member
  rfl

theorem uncaught_singleton {μ : Type} {sub : SubMsg μ} (quiet : sub.replyOn.onError = false) :
    Machine.Uncaught [sub] := by
  intro other member
  rw [List.mem_singleton.mp member]
  exact quiet

/-- The messages of the bridge's execute handlers. -/
theorem execute_uncaught {api : Api} {contract info : Addr} {querier : Querier}
    {storage after : Storage} {msg : ExecuteMsg} {response : Response}
    (executed : execute api contract querier storage info msg = .ok (after, response)) :
    Machine.Uncaught response.messages := by
  rcases (execute_cases executed).2 with
    ⟨record, -, -, received⟩ | ⟨-, -, silent⟩ | ⟨callback, -, rfl, called⟩
  · simp only [receiveNft, bind_eq_ok, pure_eq_ok, Prod.mk.injEq] at received
    obtain ⟨_, _, _, _, _, _, _, _, -, rfl⟩ := received
    exact uncaught_singleton rfl
  · simp [silent, Machine.Uncaught]
  · simp only [executeCallback, ne_eq, not_true_eq_false, if_false] at called
    cases callback with
    | createVouchers receiver create =>
        simp only [callbackCreateVouchers, Except.ok.injEq, Prod.mk.injEq] at called
        obtain ⟨-, rfl⟩ := called
        intro sub member
        simp only [List.mem_append, List.mem_singleton] at member
        rcases member with first | rfl
        · split at first
          next => cases first
          next =>
            rw [List.mem_singleton.mp first]
            rfl
        · rfl
    | redeemVouchers receiver redeem =>
        simp only [callbackRedeemVouchers, bind_eq_ok, pure_eq_ok, Prod.mk.injEq] at called
        obtain ⟨_, _, _, _, -, rfl⟩ := called
        exact uncaught_map_sub _
    | mint classId receiver tokens =>
        simp only [callbackMint, bind_eq_ok, pure_eq_ok, Prod.mk.injEq] at called
        obtain ⟨_, _, _, _, -, rfl⟩ := called
        exact uncaught_map_sub _
    | conjunction operands =>
        simp only [Except.ok.injEq, Prod.mk.injEq] at called
        obtain ⟨-, rfl⟩ := called
        exact uncaught_map_sub _

/-- No reply of the bridge makes a call. -/
theorem reply_silent {api : Api} {querier : Querier} {storage after : Storage}
    {answer : Reply} {response : Response}
    (replied : reply api querier storage answer = .ok (after, response)) :
    response.messages = [] := by
  unfold reply at replied
  split at replied
  next =>
    simp only [replyInstantiateCw721, bind_eq_ok, pure_eq_ok, Prod.mk.injEq] at replied
    obtain ⟨_, _, _, _, _, _, -, rfl⟩ := replied
    rfl
  next =>
    split at replied
    next =>
      simp only [replyInstantiateProxy, bind_eq_ok, pure_eq_ok, Prod.mk.injEq] at replied
      obtain ⟨_, _, _, _, -, rfl⟩ := replied
      rfl
    next =>
      split at replied
      next =>
        split at replied
        next =>
          simp only [Except.ok.injEq, Prod.mk.injEq] at replied
          obtain ⟨-, rfl⟩ := replied
          rfl
        next =>
          simp only [Except.ok.injEq, Prod.mk.injEq] at replied
          obtain ⟨-, rfl⟩ := replied
          rfl
      next => cases replied

namespace Deployment

variable (deployment : Deployment)

theorem uncaught_callbacks (sender : Addr) (msg : Cw721ExecuteMsg) :
    Machine.Uncaught (msg.callbacks sender) := by
  cases msg with
  | sendNft contract tokenId msg => exact uncaught_singleton rfl
  | _ => simp [Cw721ExecuteMsg.callbacks, Machine.Uncaught]

/-- Nothing on a chain with cw721-base collections catches a failure. -/
theorem aborting : (deployment.machine deployment.contracts).Aborting where
  execute := by
    intro world caller msg callee reaction executed
    change deployment.executeMsg deployment.contracts world caller msg = _ at executed
    cases msg with
    | wasm msg =>
        cases msg with
        | execute contract msg =>
            simp only [Chain.executeMsg] at executed
            split at executed
            next =>
              cases msg with
              | bridge msg =>
                  simp only [bind_eq_ok, mapError_eq_ok, pure_eq_ok, Prod.mk.injEq] at executed
                  obtain ⟨⟨after, response⟩, ran, -, rfl⟩ := executed
                  exact execute_uncaught ran
              | cw721 msg => cases executed
              | other msg => cases executed
            next =>
              simp only [bind_eq_ok, mapError_eq_ok, pure_eq_ok, Prod.mk.injEq] at executed
              obtain ⟨outcome, ran, -, rfl⟩ := executed
              cases msg with
              | cw721 msg =>
                  simp only [contracts, bind_eq_ok, pure_eq_ok] at ran
                  obtain ⟨after, -, rfl⟩ := ran
                  exact uncaught_callbacks caller msg
              | bridge msg => cases ran
              | other msg => cases ran
        | instantiate admin code msg label =>
            simp only [Chain.executeMsg, bind_eq_ok, mapError_eq_ok, pure_eq_ok,
              Prod.mk.injEq] at executed
            obtain ⟨⟨contract, outcome⟩, ran, -, rfl⟩ := executed
            cases msg with
            | cw721 msg =>
                simp only [contracts, bind_eq_ok, pure_eq_ok, Prod.mk.injEq] at ran
                obtain ⟨_, -, -, rfl⟩ := ran
                simp [World.reactContract, Machine.Uncaught]
            | other msg => cases ran
    | ibc msg =>
        cases msg with
        | sendPacket channelId data timeout =>
            simp only [Chain.executeMsg] at executed
            split at executed
            next =>
              simp only [bind_eq_ok, pure_eq_ok, Prod.mk.injEq] at executed
              obtain ⟨_, -, -, rfl⟩ := executed
              simp [Machine.Uncaught]
            next =>
              simp only [Except.ok.injEq, Prod.mk.injEq] at executed
              obtain ⟨-, rfl⟩ := executed
              simp [Machine.Uncaught]
  reply := by
    intro world caller id result response replied
    change deployment.replyMsg deployment.contracts world caller id (.ok result) = _ at replied
    simp only [Chain.replyMsg] at replied
    split at replied
    next =>
      simp only [bind_eq_ok, mapError_eq_ok, pure_eq_ok] at replied
      obtain ⟨⟨after, answer⟩, ran, rfl⟩ := replied
      simp [World.react, reply_silent ran, Machine.Uncaught]
    next =>
      simp only [bind_eq_ok, mapError_eq_ok] at replied
      obtain ⟨_, ran, -⟩ := replied
      cases ran

/-! ## The registry's assumptions -/

variable {deployment} {contracts : Contracts Ledger}

theorem call_isContract {ledger after : Ledger} {sender contract : Addr}
    {msg : Cw721ExecuteMsg}
    (called : ledger.call deployment.api sender contract msg = .ok after) {other : Addr}
    (known : (ledger.contractAt deployment.api other).isSome = true) :
    (after.contractAt deployment.api other).isSome = true := by
  obtain ⟨collection, next, found, -, rfl⟩ := Ledger.call_eq_ok.mp called
  rw [Ledger.contractAt_put (Ledger.contractAt_eq_some.mp found).1]
  split
  next => rfl
  next => exact known

theorem isSome_contractAt (ledger : Ledger) (contract : Addr) :
    (ledger.contractAt deployment.api contract).isSome =
      (ledger.infoAt deployment.api contract).isSome := by
  simp [Ledger.infoAt]

/-- Conforming contracts are lawful. -/
theorem lawful (conforms : Conforms deployment.contracts contracts) (codeId : Nat) :
    Lawful deployment.toChain contracts codeId where
  contract_valid := by
    intro ledger contract known
    rw [conforms.isContract] at known
    obtain ⟨collection, found⟩ := Option.isSome_iff_exists.mp known
    exact (Ledger.contractAt_eq_some.mp found).1
  execute_kept := by
    intro storage ledger sender contract msg reaction executed other known
    rw [conforms.isContract] at known ⊢
    have ran := conforms.execute executed
    cases msg with
    | cw721 msg =>
        simp only [Deployment.contracts, bind_eq_ok, pure_eq_ok] at ran
        obtain ⟨after, called, rfl⟩ := ran
        exact call_isContract called known
    | bridge msg => cases ran
    | other msg => cases ran
  reply_kept := by
    intro storage ledger contract id result reaction replied
    have ran := conforms.reply replied
    cases ran
  instantiate_kept := by
    intro storage ledger sender code msg contract reaction instantiated other known
    rw [conforms.isContract] at known ⊢
    have ran := conforms.instantiate instantiated
    cases msg with
    | cw721 msg =>
        simp only [Deployment.contracts, bind_eq_ok, pure_eq_ok, Prod.mk.injEq] at ran
        obtain ⟨⟨fresh, after⟩, done, rfl, rfl⟩ := ran
        obtain ⟨-, -, infos, -, -⟩ := instantiate_eq_ok done
        change (ledger.contractAt deployment.api other).isSome = true at known
        change (after.contractAt deployment.api other).isSome = true
        rw [isSome_contractAt] at known ⊢
        rw [infos, StoreMap.save_apply]
        split
        next => rfl
        next => exact known
    | other msg => cases ran
  instantiate_fresh := by
    intro storage ledger sender code msg contract reaction instantiated
    rw [conforms.isContract]
    have ran := conforms.instantiate instantiated
    cases msg with
    | cw721 msg =>
        simp only [Deployment.contracts, bind_eq_ok, pure_eq_ok, Prod.mk.injEq] at ran
        obtain ⟨⟨fresh, after⟩, done, rfl, rfl⟩ := ran
        obtain ⟨address, free, infos, -, -⟩ := instantiate_eq_ok done
        refine ⟨?_, ?_, ?_⟩
        · change (ledger.contractAt deployment.api fresh).isSome = false
          rw [isSome_contractAt, free]
          rfl
        · change (after.contractAt deployment.api fresh).isSome = true
          rw [isSome_contractAt, infos, StoreMap.save_self]
          rfl
        · rw [address]
          exact deployment.newAddress_ne_bridge _
    | other msg => cases ran
  instantiate_cw721 := by
    intro storage ledger msg contract reaction instantiated
    have ran := conforms.instantiate instantiated
    simp only [Deployment.contracts, bind_eq_ok, pure_eq_ok, Prod.mk.injEq] at ran
    obtain ⟨⟨fresh, after⟩, done, rfl, rfl⟩ := ran
    obtain ⟨-, -, infos, -, -⟩ := instantiate_eq_ok done
    refine ⟨rfl, ?_⟩
    intro name queried
    have answered := conforms.contractInfo queried
    have known : after.infoAt deployment.api fresh = some ⟨msg.name, ⟨msg.minter⟩, .empty⟩ := by
      rw [infos, StoreMap.save_self]
    obtain ⟨collection, found, same⟩ := Ledger.infoAt_eq_some.mp known
    simp only [Deployment.contracts, found, Except.ok.injEq] at answered
    rw [← answered, same]
  nftInfo_contract := by
    intro ledger contract tokenId uri queried
    rw [conforms.isContract]
    have answered := conforms.nftInfo queried
    simp only [Deployment.contracts] at answered
    split at answered
    next token present =>
      obtain ⟨collection, found, -⟩ := Ledger.nfts_eq_some.mp present
      simp [Deployment.contracts, found]
    next => cases answered

end Deployment

end Ics721
