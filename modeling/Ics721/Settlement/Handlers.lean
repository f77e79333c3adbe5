import Ics721.Model.Ibc

/-!
# What settling a packet does

A failed packet removes the outgoing entries of its tokens and asks for their return.
A packet that arrived burns those of its tokens that came in on its channel, and
forgets them.
-/

namespace Ics721

open Library

/-- The fold over the tokens of a packet that arrived burns those that came in on the
packet's channel, once each. -/
theorem foldl_burnNotice (classId : ClassId) (channelId : String) (nftContract : Addr)
    (tokenIds : List TokenId) (storage : Storage) (messages : List WasmMsg) :
    ∃ burned : List TokenId, burned.Nodup ∧
      (∀ tokenId, tokenId ∈ burned ↔ tokenId ∈ tokenIds ∧
        storage.incomingClassTokenToChannel (classId, tokenId) = some channelId) ∧
      tokenIds.foldl (burnNotice classId channelId nftContract) (storage, messages) =
        ({ storage with
            incomingClassTokenToChannel := burned.foldl
              (fun incoming tokenId => incoming.remove (classId, tokenId))
              storage.incomingClassTokenToChannel
            tokenMetadata := burned.foldl
              (fun metadata tokenId => metadata.remove (classId, tokenId))
              storage.tokenMetadata },
          messages ++ burned.map fun tokenId => .execute nftContract (.cw721 (.burn tokenId))) := by
  induction tokenIds generalizing storage messages with
  | nil => exact ⟨[], List.nodup_nil, by simp, by simp⟩
  | cons tokenId tokenIds ih =>
      by_cases returning :
        storage.incomingClassTokenToChannel (classId, tokenId) = some channelId
      · obtain ⟨burned, once, came, folded⟩ := ih
          { storage with
            incomingClassTokenToChannel :=
              storage.incomingClassTokenToChannel.remove (classId, tokenId)
            tokenMetadata := storage.tokenMetadata.remove (classId, tokenId) }
          (messages ++ [.execute nftContract (.cw721 (.burn tokenId))])
        have forgotten : tokenId ∉ burned := by
          intro member
          have entry := ((came tokenId).mp member).2
          simp at entry
        refine ⟨tokenId :: burned, List.nodup_cons.mpr ⟨forgotten, once⟩, ?_, ?_⟩
        · intro other
          by_cases same : other = tokenId
          · simp [same, returning]
          · have different : (classId, other) ≠ (classId, tokenId) := by simp [same]
            rw [List.mem_cons, List.mem_cons, came]
            simp [same, StoreMap.remove_of_ne different]
        · rw [List.foldl_cons, burnNotice_returning returning, folded]
          simp
      · obtain ⟨burned, once, came, folded⟩ := ih storage messages
        refine ⟨burned, once, ?_, ?_⟩
        · intro other
          rw [came, List.mem_cons]
          constructor
          · rintro ⟨member, entry⟩
            exact ⟨.inr member, entry⟩
          · rintro ⟨rfl | member, entry⟩
            · exact absurd entry returning
            · exact ⟨member, entry⟩
        · rw [List.foldl_cons, burnNotice_staying returning, folded]

/-- An acknowledgement is handled as a failure or as a success. -/
theorem ibcPacketAck_cases (api : Api) (storage : Storage) (packet : IbcPacket)
    (acknowledgement : Binary) :
    (∃ error, tryGetAckError api acknowledgement = some error ∧
      ibcPacketAck api storage packet acknowledgement =
        handlePacketFail api storage packet error) ∨
    (tryGetAckError api acknowledgement = none ∧
      ibcPacketAck api storage packet acknowledgement =
        handlePacketSuccess api storage packet) := by
  cases read : tryGetAckError api acknowledgement with
  | some error => exact .inl ⟨error, rfl, by simp [ibcPacketAck, read]⟩
  | none => exact .inr ⟨rfl, by simp [ibcPacketAck, read]⟩

end Ics721
