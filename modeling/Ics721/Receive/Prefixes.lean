import Mathlib.Data.List.Induction
import Ics721.Library.Format
import Ics721.Model.Receive

/-!
# Class-ID prefixes

Every hop of an NFT away from its origin adds the prefix of an endpoint to its class ID.
Ports and channels are ICS-24 identifiers, which have no `/`, so the prefixes can be told
apart again: from the outermost one inwards, a class ID spells the path it came by.
-/

namespace Ics721

open Library

/-- Both identifiers of the endpoint are ICS-24 identifiers. -/
def IbcEndpoint.Ics24 (endpoint : IbcEndpoint) : Prop :=
  '/' ∉ endpoint.portId.toList ∧ '/' ∉ endpoint.channelId.toList

instance (endpoint : IbcEndpoint) : Decidable endpoint.Ics24 :=
  inferInstanceAs (Decidable (_ ∧ _))

/-- The class ID after hops to `hops`, the first of them first. -/
def addPrefixes (hops : List IbcEndpoint) (classId : ClassId) : ClassId :=
  hops.foldl (fun classId hop => voucherClassId hop classId) classId

/-- Remove the prefixes of `hops`, the last of them first. -/
def popPrefixes (hops : List IbcEndpoint) (classId : String) : Option String :=
  hops.reverse.foldlM (fun classId hop => tryPopSourcePrefix hop classId) classId

@[simp] theorem addPrefixes_concat (hops : List IbcEndpoint) (hop : IbcEndpoint)
    (classId : ClassId) :
    addPrefixes (hops ++ [hop]) classId = voucherClassId hop (addPrefixes hops classId) := by
  simp [addPrefixes]

@[simp] theorem popPrefixes_concat (hops : List IbcEndpoint) (hop : IbcEndpoint)
    (classId : String) :
    popPrefixes (hops ++ [hop]) classId =
      (tryPopSourcePrefix hop classId).bind (popPrefixes hops) := by
  simp only [popPrefixes, List.reverse_append, List.reverse_cons, List.reverse_nil,
    List.nil_append, List.singleton_append, List.foldlM_cons]
  rfl

theorem toList_getEndpointPrefix_append (endpoint : IbcEndpoint) (text : String) :
    (getEndpointPrefix endpoint ++ text).toList =
      endpoint.portId.toList ++ '/' :: (endpoint.channelId.toList ++ '/' :: text.toList) := by
  have slash : "/".toList = ['/'] := by decide
  simp [getEndpointPrefix, slash]

theorem tryPopSourcePrefix_eq_append {endpoint : IbcEndpoint} {text rest : String} :
    tryPopSourcePrefix endpoint text = some rest ↔ text = getEndpointPrefix endpoint ++ rest :=
  stripPrefix_eq_some

/-- A text starts with the prefix of one endpoint only. -/
theorem getEndpointPrefix_append_inj {endpoint other : IbcEndpoint} {text rest : String}
    (identifiers : endpoint.Ics24) (otherIdentifiers : other.Ics24)
    (same : getEndpointPrefix endpoint ++ text = getEndpointPrefix other ++ rest) :
    endpoint = other ∧ text = rest := by
  have lists := congrArg String.toList same
  rw [toList_getEndpointPrefix_append, toList_getEndpointPrefix_append] at lists
  rcases append_cons_inj identifiers.1 otherIdentifiers.1 lists with ⟨ports, remaining⟩
  rcases append_cons_inj identifiers.2 otherIdentifiers.2 remaining with ⟨channels, rests⟩
  constructor
  · cases endpoint
    cases other
    rw [IbcEndpoint.mk.injEq]
    exact ⟨String.toList_inj.mp ports, String.toList_inj.mp channels⟩
  · exact String.toList_inj.mp rests

theorem tryPopSourcePrefix_voucherClassId (endpoint : IbcEndpoint) (classId : ClassId) :
    tryPopSourcePrefix endpoint (voucherClassId endpoint classId).id = some classId.id :=
  tryPopSourcePrefix_eq_append.mpr rfl

/-- No other prefix can be removed from a voucher. -/
theorem tryPopSourcePrefix_of_ne {endpoint other : IbcEndpoint} {classId : ClassId}
    (identifiers : endpoint.Ics24) (otherIdentifiers : other.Ics24)
    (different : other ≠ endpoint) :
    tryPopSourcePrefix other (voucherClassId endpoint classId).id = none := by
  rw [Option.eq_none_iff_forall_ne_some]
  intro rest popped
  apply different
  exact (getEndpointPrefix_append_inj otherIdentifiers identifiers
    (tryPopSourcePrefix_eq_append.mp popped).symm).1

/-- No prefix can be removed from a text without `/`. -/
theorem tryPopSourcePrefix_of_no_slash {endpoint : IbcEndpoint} {text : String}
    (free : '/' ∉ text.toList) : tryPopSourcePrefix endpoint text = none := by
  rw [Option.eq_none_iff_forall_ne_some]
  intro rest popped
  apply free
  rw [tryPopSourcePrefix_eq_append.mp popped, toList_getEndpointPrefix_append]
  simp

/-- Only the outermost prefix can be removed. -/
theorem tryPopSourcePrefix_addPrefixes {hops : List IbcEndpoint} {classId : ClassId}
    {other : IbcEndpoint} (identifiers : ∀ hop ∈ hops, hop.Ics24)
    (otherIdentifiers : other.Ics24) (different : hops.getLast? ≠ some other)
    (innermost : hops = [] → '/' ∉ classId.id.toList) :
    tryPopSourcePrefix other (addPrefixes hops classId).id = none := by
  rcases List.eq_nil_or_concat hops with rfl | ⟨inner, outermost, rfl⟩
  · exact tryPopSourcePrefix_of_no_slash (innermost rfl)
  · rw [List.concat_eq_append] at identifiers different ⊢
    rw [addPrefixes_concat]
    refine tryPopSourcePrefix_of_ne (identifiers outermost (by simp)) otherIdentifiers ?_
    intro same
    apply different
    rw [same]
    simp

/-- Removing the prefixes from the outermost one inwards recovers the class ID. -/
theorem popPrefixes_addPrefixes (hops : List IbcEndpoint) (classId : ClassId) :
    popPrefixes hops (addPrefixes hops classId).id = some classId.id := by
  induction hops using List.reverseRecOn with
  | nil => rfl
  | append_singleton hops hop ih =>
      rw [addPrefixes_concat, popPrefixes_concat, tryPopSourcePrefix_voucherClassId]
      exact ih

/-- A class ID spells its path, up to an innermost class ID without `/`. -/
theorem addPrefixes_inj {hops others : List IbcEndpoint} {classId otherClass : ClassId}
    (identifiers : ∀ hop ∈ hops, hop.Ics24) (otherIdentifiers : ∀ hop ∈ others, hop.Ics24)
    (innermost : '/' ∉ classId.id.toList) (otherInnermost : '/' ∉ otherClass.id.toList)
    (same : addPrefixes hops classId = addPrefixes others otherClass) :
    hops = others ∧ classId = otherClass := by
  induction hops using List.reverseRecOn generalizing others with
  | nil =>
      rcases List.eq_nil_or_concat others with rfl | ⟨inner, outermost, rfl⟩
      · exact ⟨rfl, same⟩
      · have popped := tryPopSourcePrefix_voucherClassId outermost (addPrefixes inner otherClass)
        rw [← addPrefixes_concat, ← List.concat_eq_append, ← same] at popped
        rw [addPrefixes, List.foldl_nil, tryPopSourcePrefix_of_no_slash innermost] at popped
        cases popped
  | append_singleton hops hop ih =>
      rcases List.eq_nil_or_concat others with rfl | ⟨inner, outermost, rfl⟩
      · have popped := tryPopSourcePrefix_voucherClassId hop (addPrefixes hops classId)
        rw [← addPrefixes_concat, same] at popped
        rw [addPrefixes, List.foldl_nil, tryPopSourcePrefix_of_no_slash otherInnermost] at popped
        cases popped
      · rw [List.concat_eq_append] at same otherIdentifiers ⊢
        rw [addPrefixes_concat, addPrefixes_concat] at same
        rcases getEndpointPrefix_append_inj (identifiers hop (by simp))
          (otherIdentifiers outermost (by simp)) (congrArg ClassId.id same) with
          ⟨outer, remaining⟩
        have below : addPrefixes hops classId = addPrefixes inner otherClass :=
          congrArg ClassId.mk remaining
        rcases ih (fun other member => identifiers other (by simp [member]))
          (fun other member => otherIdentifiers other (by simp [member])) below with
          ⟨inners, classes⟩
        rw [outer, inners]
        exact ⟨rfl, classes⟩

/-- Class-ID prefixes decode uniquely. -/
theorem prefixes_decode {endpoint other : IbcEndpoint} (identifiers : endpoint.Ics24)
    (otherIdentifiers : other.Ics24) {hops others : List IbcEndpoint}
    (hopIdentifiers : ∀ hop ∈ hops, hop.Ics24)
    (otherHopIdentifiers : ∀ hop ∈ others, hop.Ics24) :
    (∀ text rest, tryPopSourcePrefix endpoint text = some rest ↔
      text = getEndpointPrefix endpoint ++ rest) ∧
    (∀ text rest, getEndpointPrefix endpoint ++ text = getEndpointPrefix other ++ rest →
      endpoint = other ∧ text = rest) ∧
    (∀ classId otherClass : ClassId, '/' ∉ classId.id.toList → '/' ∉ otherClass.id.toList →
      addPrefixes hops classId = addPrefixes others otherClass →
      hops = others ∧ classId = otherClass) ∧
    (∀ classId, popPrefixes hops (addPrefixes hops classId).id = some classId.id) ∧
    (∀ classId : ClassId, hops.getLast? ≠ some other → (hops = [] → '/' ∉ classId.id.toList) →
      tryPopSourcePrefix other (addPrefixes hops classId).id = none) := by
  refine ⟨?_, ?_, ?_, ?_, ?_⟩
  · intro text rest
    exact tryPopSourcePrefix_eq_append
  · intro text rest same
    exact getEndpointPrefix_append_inj identifiers otherIdentifiers same
  · intro classId otherClass innermost otherInnermost same
    exact addPrefixes_inj hopIdentifiers otherHopIdentifiers innermost otherInnermost same
  · intro classId
    exact popPrefixes_addPrefixes hops classId
  · intro classId different innermost
    exact tryPopSourcePrefix_addPrefixes hopIdentifiers otherIdentifiers different innermost

/-- One channel ID is the beginning of the other. -/
theorem prefixes_decode_of_channels :
    tryPopSourcePrefix ⟨"wasm.bridge", "channel-1"⟩
        (addPrefixes [⟨"wasm.bridge", "channel-1"⟩, ⟨"wasm.bridge", "channel-10"⟩]
          ⟨"nft"⟩).id = none ∧
      popPrefixes [⟨"wasm.bridge", "channel-1"⟩, ⟨"wasm.bridge", "channel-10"⟩]
        "wasm.bridge/channel-10/wasm.bridge/channel-1/nft" = some "nft" := by
  have decoded := @prefixes_decode ⟨"wasm.bridge", "channel-10"⟩ ⟨"wasm.bridge", "channel-1"⟩
    (by decide) (by decide) [⟨"wasm.bridge", "channel-1"⟩, ⟨"wasm.bridge", "channel-10"⟩] []
    (by decide) (by decide)
  constructor
  · exact decoded.2.2.2.2 ⟨"nft"⟩ (by decide) (by decide)
  · exact decoded.2.2.2.1 ⟨"nft"⟩

end Ics721
