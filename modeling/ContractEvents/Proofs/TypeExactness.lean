/-
Module: ContractEvents.Proofs.TypeExactness
Purpose: A value is decoded to what the native type of a wire type accepts only if it fits that type.
Main exports: NativeValue.ComesFrom, Value.comesFrom_of_decode, WireType.fits_of_conforms,
  WireType.conforms_exactly
-/
import ContractEvents.Proofs.FieldReading
import ContractEvents.Proofs.Outcomes
import ContractEvents.Proofs.TypeConformance

namespace ContractEvents

/-!
The native value tells what kind of value it was decoded from, up to the kinds that share a native
form.  With that, the recursion over native types leads back to the recursion over wire types: what
the native type accepts was decoded from a value that fits.
-/

/-- The values that are decoded to a native value of this kind. -/
def NativeValue.ComesFrom : NativeValue → Value → Prop
  | .void, value => value = .void
  | .bool b, value => value = .bool b
  | .number _, value => value.isInt32
  | .bigInt _, value => value.isBigInt
  | .bytes bs, value => value = .bytes bs
  | .string _, value => value.isText
  | .address _, value => value.isAddress
  | .vec natives, value =>
      ∃ items, value = .vec items ∧ Value.decodeItems (items.getD []) = .ok natives
  | .map natives, value =>
      ∃ entries, value = .map entries ∧ Value.decodeEntries (entries.getD []) = .ok natives
  | .raw tag xdr, value => value.tag = tag ∧ value.toText = xdr

namespace Value

theorem isOk_of_textOfBytes {tag text : String} {bs : Bytes}
    (read : textOfBytes tag bs = .ok text) : (Utf8.decode bs).isOk = true := by
  rw [textOfBytes, mapError_eq_ok_iff] at read
  rw [read]
  rfl

theorem isAddress_of_encode {a : Address} {text : String} (encoded : a.encode = .ok text) :
    (address a).isAddress = true := by
  cases a with
  | account key => rfl
  | contract id => rfl
  | muxedAccount id key => rfl
  | claimableBalance id => cases encoded
  | liquidityPool id => cases encoded

/-- A native value comes from the value that was decoded to it. -/
theorem comesFrom_of_decode {value : Value} {native : NativeValue}
    (decoded : value.decode = .ok native) : native.ComesFrom value := by
  cases value with
  | string bs =>
      obtain ⟨text, read, rfl⟩ := map_eq_ok_iff.mp decoded
      exact isOk_of_textOfBytes read
  | symbol bs =>
      obtain ⟨text, read, rfl⟩ := map_eq_ok_iff.mp decoded
      exact isOk_of_textOfBytes read
  | address a =>
      obtain ⟨text, encoded, rfl⟩ := map_eq_ok_iff.mp decoded
      exact isAddress_of_encode encoded
  | vec items =>
      cases items with
      | none =>
          cases decoded
          exact ⟨none, rfl, rfl⟩
      | some items =>
          obtain ⟨natives, decodedItems, rfl⟩ := map_eq_ok_iff.mp decoded
          exact ⟨some items, rfl, decodedItems⟩
  | map entries =>
      cases entries with
      | none =>
          cases decoded
          exact ⟨none, rfl, rfl⟩
      | some entries =>
          obtain ⟨natives, decodedEntries, rfl⟩ := map_eq_ok_iff.mp decoded
          exact ⟨some entries, rfl, decodedEntries⟩
  | error e =>
      cases decoded
      exact ⟨rfl, rfl⟩
  | contractInstance executable storage =>
      cases decoded
      exact ⟨rfl, rfl⟩
  | ledgerKeyInstance =>
      cases decoded
      exact ⟨rfl, rfl⟩
  | ledgerKeyNonce nonce =>
      cases decoded
      exact ⟨rfl, rfl⟩
  | _ =>
      cases decoded
      rfl

/-! ### From decoded items to items -/

/-- Items that are decoded together are decoded each. -/
theorem decodeItems_cons_eq_ok_iff {item : Value} {items : List Value}
    {natives : List NativeValue} :
    decodeItems (item :: items) = .ok natives ↔
      ∃ native others, natives = native :: others ∧ item.decode = .ok native ∧
        decodeItems items = .ok others := by
  simp only [decodeItems, bind_eq_ok_iff]
  constructor
  · rintro ⟨native, decoded, others, decodedOthers, ⟨⟩⟩
    exact ⟨native, others, rfl, decoded, decodedOthers⟩
  · rintro ⟨native, others, rfl, decoded, decodedOthers⟩
    exact ⟨native, decoded, others, decodedOthers, rfl⟩

theorem decodeEntries_cons_eq_ok_iff {key value : Value} {entries : List (Value × Value)}
    {natives : List (NativeValue × NativeValue)} :
    decodeEntries ((key, value) :: entries) = .ok natives ↔
      ∃ k v others, natives = (k, v) :: others ∧ key.decode = .ok k ∧ value.decode = .ok v ∧
        decodeEntries entries = .ok others := by
  simp only [decodeEntries, bind_eq_ok_iff]
  constructor
  · rintro ⟨k, decodedKey, v, decodedValue, others, decodedOthers, ⟨⟩⟩
    exact ⟨k, v, others, rfl, decodedKey, decodedValue, decodedOthers⟩
  · rintro ⟨k, v, others, rfl, decodedKey, decodedValue, decodedOthers⟩
    exact ⟨k, decodedKey, v, decodedValue, others, decodedOthers, rfl⟩

theorem conforms_of_mem_items {item : NativeType} {items : List Value}
    {natives : List NativeValue} (decoded : decodeItems items = .ok natives)
    (accepted : ∀ native ∈ natives, item.accepts native = true) :
    ∀ value ∈ items, value.Conforms item := by
  induction items generalizing natives with
  | nil =>
      intro value member
      cases member
  | cons first items inductionHypothesis =>
      obtain ⟨native, others, rfl, here, tail⟩ := decodeItems_cons_eq_ok_iff.mp decoded
      obtain ⟨acceptedHere, acceptedTail⟩ := List.forall_mem_cons.mp accepted
      intro value member
      rcases List.mem_cons.mp member with rfl | member
      · exact ⟨native, here, acceptedHere⟩
      · exact inductionHypothesis tail acceptedTail value member

theorem conforms_of_mem_entries {key item : NativeType} {entries : List (Value × Value)}
    {natives : List (NativeValue × NativeValue)} (decoded : decodeEntries entries = .ok natives)
    (accepted : ∀ native ∈ natives,
      key.accepts native.1 = true ∧ item.accepts native.2 = true) :
    ∀ entry ∈ entries, entry.1.Conforms key ∧ entry.2.Conforms item := by
  induction entries generalizing natives with
  | nil =>
      intro entry member
      cases member
  | cons first entries inductionHypothesis =>
      obtain ⟨k, v, others, rfl, hereKey, here, tail⟩ := decodeEntries_cons_eq_ok_iff.mp decoded
      obtain ⟨acceptedHere, acceptedTail⟩ := List.forall_mem_cons.mp accepted
      intro entry member
      rcases List.mem_cons.mp member with rfl | member
      · exact ⟨⟨k, hereKey, acceptedHere.1⟩, v, here, acceptedHere.2⟩
      · exact inductionHypothesis tail acceptedTail entry member

end Value

/-! ### From native types to wire types -/

namespace WireType

open Value

theorem fits_int32_of_conforms {value : Value} (conforms : value.Conforms .int32) :
    value.isInt32 = true := by
  obtain ⟨native, decoded, accepted⟩ := conforms
  cases native with
  | number n => exact comesFrom_of_decode decoded
  | _ => cases accepted

theorem fits_bigInt_of_conforms {value : Value} (conforms : value.Conforms .bigInt) :
    value.isBigInt = true := by
  obtain ⟨native, decoded, accepted⟩ := conforms
  cases native with
  | bigInt digits => exact comesFrom_of_decode decoded
  | _ => cases accepted

theorem fits_string_of_conforms {value : Value} (conforms : value.Conforms .string) :
    value.isText = true := by
  obtain ⟨native, decoded, accepted⟩ := conforms
  cases native with
  | string text => exact comesFrom_of_decode decoded
  | _ => cases accepted

theorem fits_address_of_conforms {type : NativeType} {value : Value}
    (only : ∀ native, type.accepts native = true → ∃ text, native = .address text)
    (conforms : value.Conforms type) : value.isAddress = true := by
  obtain ⟨native, decoded, accepted⟩ := conforms
  obtain ⟨text, rfl⟩ := only native accepted
  exact comesFrom_of_decode decoded

mutual

/-- A value that is decoded to what the native type accepts fits the wire type. -/
theorem fits_of_conforms :
    ∀ (type : WireType) {value : Value}, value.Conforms (mapType type) → type.Fits value
  | .bool, _, ⟨native, decoded, accepted⟩ => by
      cases native with
      | bool b => exact ⟨b, comesFrom_of_decode decoded⟩
      | _ => cases accepted
  | .i32, _, conforms => fits_int32_of_conforms conforms
  | .u32, _, conforms => fits_int32_of_conforms conforms
  | .i64, _, conforms => fits_bigInt_of_conforms conforms
  | .u64, _, conforms => fits_bigInt_of_conforms conforms
  | .timepoint, _, conforms => fits_bigInt_of_conforms conforms
  | .duration, _, conforms => fits_bigInt_of_conforms conforms
  | .i128, _, conforms => fits_bigInt_of_conforms conforms
  | .u128, _, conforms => fits_bigInt_of_conforms conforms
  | .i256, _, conforms => fits_bigInt_of_conforms conforms
  | .u256, _, conforms => fits_bigInt_of_conforms conforms
  | .address, _, conforms => by
      refine fits_address_of_conforms ?_ conforms
      intro native accepted
      cases native with
      | address text => exact ⟨text, rfl⟩
      | _ => cases accepted
  | .muxedAddress, _, conforms => by
      refine fits_address_of_conforms ?_ conforms
      intro native accepted
      cases native with
      | address text => exact ⟨text, rfl⟩
      | _ => cases accepted
  | .string, _, conforms => fits_string_of_conforms conforms
  | .symbol, _, conforms => fits_string_of_conforms conforms
  | .option inner, _, ⟨native, decoded, accepted⟩ => by
      cases native with
      | void => exact .inl (comesFrom_of_decode decoded)
      | _ => exact .inr (fits_of_conforms inner ⟨_, decoded, accepted⟩)
  | .vec item, _, ⟨native, decoded, accepted⟩ => by
      cases native with
      | vec natives =>
          obtain ⟨items, rfl, decodedItems⟩ := comesFrom_of_decode decoded
          have each : ∀ native ∈ natives, (mapType item).accepts native = true := by
            simpa [mapType, NativeType.accepts] using accepted
          refine ⟨items, rfl, ?_⟩
          intro held member
          exact fits_of_conforms item (conforms_of_mem_items decodedItems each held member)
      | _ => cases accepted
  | .tuple types, _, ⟨native, decoded, accepted⟩ => by
      cases native with
      | vec natives =>
          obtain ⟨items, rfl, decodedItems⟩ := comesFrom_of_decode decoded
          have each : NativeType.acceptsEach (mapTypes types) natives = true := by
            simpa [mapType, NativeType.accepts] using accepted
          exact ⟨items, rfl, fitsEach_of_acceptsEach types decodedItems each⟩
      | _ => cases accepted
  | .map key value, _, ⟨native, decoded, accepted⟩ => by
      cases native with
      | map natives =>
          obtain ⟨entries, rfl, decodedEntries⟩ := comesFrom_of_decode decoded
          have each : ∀ native ∈ natives, (mapType key).accepts native.1 = true ∧
              (mapType value).accepts native.2 = true := by
            simpa [mapType, NativeType.accepts] using accepted
          refine ⟨entries, rfl, ?_⟩
          intro entry member
          obtain ⟨keyConforms, conforms⟩ :=
            conforms_of_mem_entries decodedEntries each entry member
          exact ⟨fits_of_conforms key keyConforms, fits_of_conforms value conforms⟩
      | _ => cases accepted
  | .unknown _, _, ⟨native, decoded, _⟩ => ⟨native, decoded⟩

/-- Values that are decoded to what the native types accept each fit the wire types. -/
theorem fitsEach_of_acceptsEach :
    ∀ (types : List WireType) {values : List Value} {natives : List NativeValue},
      decodeItems values = .ok natives →
        NativeType.acceptsEach (mapTypes types) natives = true → FitsEach types values
  | [], values, natives, decoded, accepted => by
      cases values with
      | nil => rfl
      | cons value values =>
          obtain ⟨native, others, rfl, -, -⟩ := decodeItems_cons_eq_ok_iff.mp decoded
          cases accepted
  | type :: types, values, natives, decoded, accepted => by
      cases values with
      | nil =>
          cases decoded
          cases accepted
      | cons value values =>
          obtain ⟨native, others, rfl, here, tail⟩ := decodeItems_cons_eq_ok_iff.mp decoded
          obtain ⟨acceptedHere, acceptedTail⟩ : (mapType type).accepts native = true ∧
              NativeType.acceptsEach (mapTypes types) others = true := by
            simpa [mapTypes, NativeType.acceptsEach] using accepted
          exact ⟨value, values, rfl, fits_of_conforms type ⟨native, here, acceptedHere⟩,
            fitsEach_of_acceptsEach types tail acceptedTail⟩

end

/-- A value is decoded to what the native type of a wire type accepts exactly if it fits the wire
type.  The values of a declared type fit the wire type that it is folded to, and a field reads as a
native value, without an error, whenever its raw value fits. -/
theorem conforms_exactly {σ : Type} (type : WireType) (value : Value) :
    (value.Conforms (mapType type) ↔ type.Fits value) ∧
      (∀ declared : SpecType, WireType.ofSpec declared = type → declared.Holds value →
        type.Fits value) ∧
      (type.Fits value →
        ∀ (event : DecodedEvent) (field : String) (slot : Nat) (cached : Option NativeValue)
          (state : σ), event.FieldAt field slot ⟨value, cached⟩ (mapType type) →
            ∃ native after, (DecodedEvent.get .native field).outcome event state =
              ((.ok native, after), state)) := by
  refine ⟨⟨fits_of_conforms type, conforms_of_fits type⟩, ?_, ?_⟩
  · rintro declared rfl held
    exact fits_of_holds declared held
  · intro fits event field slot cached state fieldAt
    obtain ⟨native, decoded, accepted⟩ := conforms_of_fits type fits
    cases cached with
    | some kept => exact ⟨kept, event, DecodedEvent.get_of_cached fieldAt rfl state⟩
    | none =>
        have answered : (ValueDecoder.native value).run state = (.ok native, state) := by
          rw [ValueDecoder.native, ValueDecoder.ofFunction_apply, decoded]
          rfl
        exact ⟨native, event.store slot native,
          DecodedEvent.get_of_fresh fieldAt rfl answered accepted⟩

end WireType

end ContractEvents
