/-
Module: ContractEvents.Proofs.EncodingRoundTrip
Purpose: Types, descriptors and RPC events read back from their JSON.
Main exports: WireType.ofJson_toJson, NativeType.ofJson_toJson, EventField.ofJson_toJson,
  EventDescriptor.ofJson_toJson, RpcEvent.ofJson_toJson, json_round_trip
-/
import ContractEvents.Event.Encoding
import ContractEvents.Event.Record
import ContractEvents.Proofs.RecordReading

namespace ContractEvents

/-!
What a type carries stands under `of` in one of three forms: nothing at all, one value, or an array
that holds two types for a map and any number of them for a tuple.  A type is read with an allowance
for its nesting, the height of its JSON, and every level of the type uses up at least one level of
the allowance.  Descriptors and RPC events are records around such types and texts; a doc, a topic
list or a value that is not there has no member, so that the reader finds the same absence.
-/

namespace Json

theorem one_le_height (value : Json) : 1 ≤ value.height := by
  cases value <;> simp [height]

/-- What a constructor carries is less high than the whole. -/
theorem exists_bound_of_kindOf {kind : String} {carried : Json} {bound : Nat}
    (fits : (kindOf kind carried).height ≤ bound) :
    ∃ inner, bound = inner + 1 ∧ carried.height ≤ inner := by
  have held : carried.height ≤ heightMembers [("kind", .string kind), ("of", carried)] := by
    rw [heightMembers, heightMembers, heightMembers]
    omega
  rw [kindOf, height] at fits
  exact ⟨bound - 1, by omega, by omega⟩

end Json

/-! ### Wire types -/

namespace WireType

theorem read_of_leaf {type : WireType} {bound : Nat} (leaf : type.toJson = bareKind type.kind)
    (fits : type.toJson.height ≤ bound) : read bound type.toJson = .ok type := by
  obtain ⟨inner, rfl⟩ := Nat.exists_eq_add_of_le' (Nat.le_trans (Json.one_le_height _) fits)
  rw [leaf, read, Json.tagged_bareKind]
  -- A type with arguments has a second member, so that it is no leaf.
  cases type with
  | vec _ | tuple _ | map _ _ | option _ | unknown _ => simp [toJson, kindOf, bareKind] at leaf
  | _ => rfl

mutual

/-- Every level of a type takes one from the allowance. -/
theorem read_toJson (type : WireType) (bound : Nat) (fits : type.toJson.height ≤ bound) :
    read bound type.toJson = .ok type := by
  cases type with
  | vec item =>
      obtain ⟨inner, rfl, fitsItem⟩ := Json.exists_bound_of_kindOf fits
      rw [toJson, read, Json.tagged_kindOf]
      change vec <$> read inner item.toJson = _
      rw [read_toJson item inner fitsItem]
      rfl
  | tuple items =>
      obtain ⟨inner, rfl, fitsArray⟩ := Json.exists_bound_of_kindOf fits
      rw [Json.height] at fitsArray
      rw [toJson, read, Json.tagged_kindOf]
      change tuple <$> (itemsToJson items).mapM (read inner) = _
      rw [mapM_read_itemsToJson items inner (by omega)]
      rfl
  | map key value =>
      obtain ⟨inner, rfl, fitsArray⟩ := Json.exists_bound_of_kindOf fits
      simp only [Json.height, Json.heightItems] at fitsArray
      rw [toJson, read, Json.tagged_kindOf]
      change (do
        let pair ← Json.pairOf (read inner) (.array [key.toJson, value.toJson])
        return map pair.1 pair.2) = _
      rw [Json.pairOf, read_toJson key inner (by omega), read_toJson value inner (by omega)]
      rfl
  | option item =>
      obtain ⟨inner, rfl, fitsItem⟩ := Json.exists_bound_of_kindOf fits
      rw [toJson, read, Json.tagged_kindOf]
      change option <$> read inner item.toJson = _
      rw [read_toJson item inner fitsItem]
      rfl
  | unknown name =>
      obtain ⟨inner, rfl, -⟩ := Json.exists_bound_of_kindOf fits
      rw [toJson, read, Json.tagged_kindOf]
      rfl
  | _ => exact read_of_leaf rfl fits

theorem mapM_read_itemsToJson (items : List WireType) (bound : Nat)
    (fits : Json.heightItems (itemsToJson items) ≤ bound) :
    (itemsToJson items).mapM (read bound) = .ok items := by
  cases items with
  | nil => rfl
  | cons item items =>
      rw [itemsToJson, Json.heightItems] at fits
      rw [itemsToJson, List.mapM_cons, read_toJson item bound (by omega),
        mapM_read_itemsToJson items bound (by omega)]
      rfl

end

theorem ofJson_toJson (type : WireType) : ofJson type.toJson = .ok type :=
  read_toJson type _ (Nat.le_refl _)

end WireType

/-! ### Native types -/

namespace NativeType

theorem read_of_leaf {type : NativeType} {bound : Nat} (leaf : type.toJson = bareKind type.kind)
    (fits : type.toJson.height ≤ bound) : read bound type.toJson = .ok type := by
  obtain ⟨inner, rfl⟩ := Nat.exists_eq_add_of_le' (Nat.le_trans (Json.one_le_height _) fits)
  rw [leaf, read, Json.tagged_bareKind]
  cases type with
  | nullable _ | sequence _ | tuple _ | mapping _ _ | any _ =>
      simp [toJson, kindOf, bareKind] at leaf
  | _ => rfl

mutual

/-- Every level of a type takes one from the allowance. -/
theorem read_toJson (type : NativeType) (bound : Nat) (fits : type.toJson.height ≤ bound) :
    read bound type.toJson = .ok type := by
  cases type with
  | nullable item =>
      obtain ⟨inner, rfl, fitsItem⟩ := Json.exists_bound_of_kindOf fits
      rw [toJson, read, Json.tagged_kindOf]
      change nullable <$> read inner item.toJson = _
      rw [read_toJson item inner fitsItem]
      rfl
  | sequence item =>
      obtain ⟨inner, rfl, fitsItem⟩ := Json.exists_bound_of_kindOf fits
      rw [toJson, read, Json.tagged_kindOf]
      change sequence <$> read inner item.toJson = _
      rw [read_toJson item inner fitsItem]
      rfl
  | tuple items =>
      obtain ⟨inner, rfl, fitsArray⟩ := Json.exists_bound_of_kindOf fits
      rw [Json.height] at fitsArray
      rw [toJson, read, Json.tagged_kindOf]
      change tuple <$> (itemsToJson items).mapM (read inner) = _
      rw [mapM_read_itemsToJson items inner (by omega)]
      rfl
  | mapping key value =>
      obtain ⟨inner, rfl, fitsArray⟩ := Json.exists_bound_of_kindOf fits
      simp only [Json.height, Json.heightItems] at fitsArray
      rw [toJson, read, Json.tagged_kindOf]
      change (do
        let pair ← Json.pairOf (read inner) (.array [key.toJson, value.toJson])
        return mapping pair.1 pair.2) = _
      rw [Json.pairOf, read_toJson key inner (by omega), read_toJson value inner (by omega)]
      rfl
  | any name =>
      obtain ⟨inner, rfl, -⟩ := Json.exists_bound_of_kindOf fits
      rw [toJson, read, Json.tagged_kindOf]
      rfl
  | _ => exact read_of_leaf rfl fits

theorem mapM_read_itemsToJson (items : List NativeType) (bound : Nat)
    (fits : Json.heightItems (itemsToJson items) ≤ bound) :
    (itemsToJson items).mapM (read bound) = .ok items := by
  cases items with
  | nil => rfl
  | cons item items =>
      rw [itemsToJson, Json.heightItems] at fits
      rw [itemsToJson, List.mapM_cons, read_toJson item bound (by omega),
        mapM_read_itemsToJson items bound (by omega)]
      rfl

end

theorem ofJson_toJson (type : NativeType) : ofJson type.toJson = .ok type :=
  read_toJson type _ (Nat.le_refl _)

end NativeType

/-! ### Descriptors -/

theorem FieldLocation.ofJson_toJson (location : FieldLocation) :
    FieldLocation.ofJson location.toJson = .ok location := by
  cases location <;> rfl

theorem PayloadShape.ofJson_toJson (shape : PayloadShape) :
    PayloadShape.ofJson shape.toJson = .ok shape := by
  cases shape <;> rfl

namespace EventField

/-- An empty doc has a member like any other, so it is not taken for an absent one. -/
theorem ofJson_toJson (field : EventField) : ofJson field.toJson = .ok field := by
  obtain ⟨name, type, location, doc⟩ := field
  have declared := (Json.map_fst_optional_sublist "doc" .string doc).append_left
    ["name", "type", "location"]
  rw [ofJson, toJson]
  refine Json.record_ofMembers_eq (by decide) declared fun fields lists => ?_
  have readName : fields.required "name" Json.toText = .ok name := lists.required_eq rfl rfl
  have readType : fields.required "type" WireType.ofJson = .ok type :=
    lists.required_eq rfl type.ofJson_toJson
  have readLocation : fields.required "location" FieldLocation.ofJson = .ok location :=
    lists.required_eq rfl location.ofJson_toJson
  have readDoc : fields.optional "doc" Json.toText = .ok doc := by
    cases doc with
    | none => exact lists.optional_eq_of_none rfl
    | some text => exact lists.optional_eq_of_some rfl rfl
  rw [readName, readType, readLocation, readDoc]
  rfl

end EventField

namespace EventDescriptor

theorem ofJson_toJson (descriptor : EventDescriptor) :
    ofJson descriptor.toJson = .ok descriptor := by
  obtain ⟨name, prefixTopics, declaredFields, payloadShape⟩ := descriptor
  rw [ofJson, toJson]
  refine Json.record_ofMembers_eq (by decide) (.refl _) fun fields lists => ?_
  have readName : fields.required "name" Json.toText = .ok name := lists.required_eq rfl rfl
  have readTopics : fields.required "prefix_topics" (Json.listOf Json.toText) = .ok prefixTopics :=
    lists.required_eq rfl (Json.listOf_map fun _ _ => rfl)
  have readFields :
      fields.required "fields" (Json.listOf EventField.ofJson) = .ok declaredFields :=
    lists.required_eq rfl (Json.listOf_map fun field _ => field.ofJson_toJson)
  have readShape : fields.required "payload_shape" PayloadShape.ofJson = .ok payloadShape :=
    lists.required_eq rfl payloadShape.ofJson_toJson
  rw [readName, readTopics, readFields, readShape]
  rfl

end EventDescriptor

/-! ### RPC events -/

theorem Json.toWord_int (word : UInt32) : Json.toWord (.int word.toNat) = .ok word := by
  have bounded := word.toNat_lt
  rw [Json.int, Json.toWord, if_pos (by omega), Int.toNat_natCast, UInt32.ofNat_toNat]

theorem Json.optional_texts (texts : List String) :
    Json.optional (Json.listOf Json.toText) (.array (texts.map .string)) = .ok (some texts) := by
  have fits : Json.listOf Json.toText (.array (texts.map .string)) = .ok texts :=
    Json.listOf_map fun _ _ => rfl
  rw [Json.optional, fits]
  · rfl
  · simp

namespace RpcEvent

/-- The members of an RPC event, in the order of its fields. -/
def members (event : RpcEvent) : List (String × Json) :=
  [("type", .string event.type), ("ledger", .int event.ledger.toNat),
    ("ledgerClosedAt", .string event.ledgerClosedAt), ("contractId", .string event.contractId),
    ("id", .string event.id),
    ("inSuccessfulContractCall", .bool event.inSuccessfulContractCall),
    ("txHash", .string event.txHash)] ++
    (event.topic.map fun topic => ("topic", Json.array (topic.map .string))).toList ++
    (event.value.map fun value => ("value", Json.string value)).toList

theorem toJson_eq_ofMembers (event : RpcEvent) : event.toJson = Json.ofMembers event.members := rfl

theorem map_fst_members_sublist (event : RpcEvent) :
    (event.members.map Prod.fst).Sublist memberNames := by
  rw [members, List.map_append, List.map_append]
  exact ((List.Sublist.refl _).append (Json.map_fst_optional_sublist ..)).append
    (Json.map_fst_optional_sublist ..)

theorem checkMember_of_mem (event : RpcEvent) :
    ∀ member ∈ event.members, checkMember member.1 member.2 = .ok () := by
  have ledgerFits : checkMember "ledger" (.int event.ledger.toNat) = .ok () := by
    change discard (Json.toWord (.int event.ledger.toNat)) = _
    rw [Json.toWord_int]
    rfl
  have topicFits (topic : List String) :
      checkMember "topic" (.array (topic.map .string)) = .ok () := by
    change discard (Json.optional (Json.listOf Json.toText) (.array (topic.map .string))) = _
    rw [Json.optional_texts]
    rfl
  simp only [members, List.forall_mem_append, List.forall_mem_cons]
  refine ⟨⟨⟨rfl, ledgerFits, rfl, rfl, rfl, rfl, rfl, List.forall_mem_nil _⟩, ?topic⟩, ?value⟩
  case topic =>
    intro member held
    obtain ⟨topic, -, rfl⟩ := Option.map_eq_some_iff.mp (Option.mem_toList.mp held)
    exact topicFits topic
  case value =>
    intro member held
    obtain ⟨value, -, rfl⟩ := Option.map_eq_some_iff.mp (Option.mem_toList.mp held)
    rfl

theorem ofJson_toJson (event : RpcEvent) : ofJson event.toJson = .ok event := by
  rw [ofJson, toJson_eq_ofMembers]
  refine Json.record_ofMembers_eq (by decide) event.map_fst_members_sublist fun fields lists => ?_
  have checked := Json.forM_eq_ok fun member held =>
    event.checkMember_of_mem member (lists.members.mem_iff.mp held)
  obtain ⟨type, ledger, closedAt, contractId, id, successful, txHash, topic, value⟩ := event
  have readType : fields.required "type" Json.toText = .ok type := lists.required_eq rfl rfl
  have readLedger : fields.required "ledger" Json.toWord = .ok ledger :=
    lists.required_eq rfl (Json.toWord_int ledger)
  have readClosedAt : fields.required "ledgerClosedAt" Json.toText = .ok closedAt :=
    lists.required_eq rfl rfl
  have readContractId : fields.required "contractId" Json.toText = .ok contractId :=
    lists.required_eq rfl rfl
  have readId : fields.required "id" Json.toText = .ok id := lists.required_eq rfl rfl
  have readTopic : fields.optional "topic" (Json.listOf Json.toText) = .ok topic := by
    cases topic with
    | none => cases value <;> exact lists.optional_eq_of_none rfl
    | some texts => exact lists.optional_eq_of_some rfl (Json.optional_texts texts)
  have readValue : fields.optional "value" Json.toText = .ok value := by
    cases value with
    | none => cases topic <;> exact lists.optional_eq_of_none rfl
    | some text => cases topic <;> exact lists.optional_eq_of_some rfl rfl
  rw [checked, readType, readLedger, readClosedAt, readContractId, readId, readTopic, readValue,
    lists.lookup_eq, lists.lookup_eq]
  rfl

end RpcEvent

/-! ### All models -/

/-- Whatever is written as JSON is read back as it was: types at every nesting, fields with and
without a doc, descriptors, and RPC events with and without a topic list and a value. -/
theorem json_round_trip :
    (∀ type : WireType, WireType.ofJson type.toJson = .ok type) ∧
      (∀ type : NativeType, NativeType.ofJson type.toJson = .ok type) ∧
      (∀ field : EventField, EventField.ofJson field.toJson = .ok field) ∧
      (∀ descriptor : EventDescriptor,
        EventDescriptor.ofJson descriptor.toJson = .ok descriptor) ∧
      ∀ event : RpcEvent, RpcEvent.ofJson event.toJson = .ok event :=
  ⟨WireType.ofJson_toJson, NativeType.ofJson_toJson, EventField.ofJson_toJson,
    EventDescriptor.ofJson_toJson, RpcEvent.ofJson_toJson⟩

end ContractEvents
