/-
Module: ContractEvents.Proofs.TypeConformance
Purpose: Values that fit a declared type are decoded to what its native type accepts.
Main exports: WireType.Fits, SpecType.Holds, WireType.fits_of_holds, Value.conforms_of_fits
-/
import ContractEvents.Decoding.ValueDecoder
import ContractEvents.Event.Extraction

namespace ContractEvents

/-!
Three recursions meet at every node of a value: the declared type is folded to a wire type, the wire
type is mapped to a native type, and the value is decoded.  `SpecType.Holds` says which values a
contract emits under a declared type, `WireType.Fits` which ones a wire type takes.
-/

namespace Value

/-- A value has a native form. -/
def Decodable (value : Value) : Prop := ∃ native, value.decode = .ok native

/-- An integer of 32 bits. -/
def isInt32 : Value → Bool
  | .u32 _ | .i32 _ => true
  | _ => false

/-- A wider integer, a time or a duration. -/
def isBigInt : Value → Bool
  | .u64 _ | .i64 _ | .timepoint _ | .duration _ | .u128 _ | .i128 _ | .u256 _ | .i256 _ => true
  | _ => false

/-- A string or a symbol that is UTF-8. -/
def isText : Value → Bool
  | .string bs | .symbol bs => (Utf8.decode bs).isOk
  | _ => false

/-- The address of an account, a contract or a muxed account. -/
def isAddress : Value → Bool
  | .address (.account _) | .address (.contract _) | .address (.muxedAccount _ _) => true
  | _ => false

end Value

mutual

/-- The values that a wire type takes, at every nesting.  An absent vector or map has no items. -/
def WireType.Fits : WireType → Value → Prop
  | .bool, value => ∃ b, value = .bool b
  | .i32, value => value.isInt32
  | .u32, value => value.isInt32
  | .i64, value => value.isBigInt
  | .u64, value => value.isBigInt
  | .timepoint, value => value.isBigInt
  | .duration, value => value.isBigInt
  | .i128, value => value.isBigInt
  | .u128, value => value.isBigInt
  | .i256, value => value.isBigInt
  | .u256, value => value.isBigInt
  | .address, value => value.isAddress
  | .muxedAddress, value => value.isAddress
  | .string, value => value.isText
  | .symbol, value => value.isText
  | .vec item, value => ∃ items, value = .vec items ∧ ∀ held ∈ items.getD [], item.Fits held
  | .tuple types, value => ∃ items, value = .vec items ∧ WireType.FitsEach types (items.getD [])
  | .map key value, held =>
      ∃ entries, held = .map entries ∧
        ∀ entry ∈ entries.getD [], key.Fits entry.1 ∧ value.Fits entry.2
  | .option inner, value => value = .void ∨ inner.Fits value
  | .unknown _, value => value.Decodable

/-- There are as many values as types, and each fits the type at its position. -/
def WireType.FitsEach : List WireType → List Value → Prop
  | [], values => values = []
  | type :: types, values =>
      ∃ value others, values = value :: others ∧ type.Fits value ∧ WireType.FitsEach types others

end

mutual

/-- The values of a declared type, at every nesting.  A type that no wire type stands for leaves
open what its values are, except that they have a native form. -/
def SpecType.Holds : SpecType → Value → Prop
  | .bool, value => ∃ b, value = .bool b
  | .u32, value => ∃ n, value = .u32 n
  | .i32, value => ∃ n, value = .i32 n
  | .u64, value => ∃ n, value = .u64 n
  | .i64, value => ∃ n, value = .i64 n
  | .timepoint, value => ∃ t, value = .timepoint t
  | .duration, value => ∃ d, value = .duration d
  | .u128, value => ∃ n, value = .u128 n
  | .i128, value => ∃ n, value = .i128 n
  | .u256, value => ∃ n, value = .u256 n
  | .i256, value => ∃ n, value = .i256 n
  | .string, value => ∃ bs, value = .string bs ∧ (Utf8.decode bs).isOk
  | .symbol, value => ∃ bs, value = .symbol bs ∧ (Utf8.decode bs).isOk
  | .address, value => value.isAddress
  | .muxedAddress, value => value.isAddress
  | .option inner, value => value = .void ∨ inner.Holds value
  | .vec item, value => ∃ items, value = .vec items ∧ ∀ held ∈ items.getD [], item.Holds held
  | .tuple types, value => ∃ items, value = .vec items ∧ SpecType.HoldsEach types (items.getD [])
  | .map key value, held =>
      ∃ entries, held = .map entries ∧
        ∀ entry ∈ entries.getD [], key.Holds entry.1 ∧ value.Holds entry.2
  | .val, value => value.Decodable
  | .void, value => value.Decodable
  | .error, value => value.Decodable
  | .bytes, value => value.Decodable
  | .bytesN _, value => value.Decodable
  | .result _ _, value => value.Decodable
  | .udt _, value => value.Decodable

/-- There are as many values as types, and each is of the type at its position. -/
def SpecType.HoldsEach : List SpecType → List Value → Prop
  | [], values => values = []
  | type :: types, values =>
      ∃ value others, values = value :: others ∧ type.Holds value ∧ SpecType.HoldsEach types others

end

/-! ### From declared types to wire types -/

mutual

/-- A value of a declared type fits the wire type that the declared type is folded to. -/
theorem WireType.fits_of_holds :
    ∀ (type : SpecType) {value : Value}, type.Holds value → (WireType.ofSpec type).Fits value
  | .bool, _, held => held
  | .u32, _, ⟨_, rfl⟩ => rfl
  | .i32, _, ⟨_, rfl⟩ => rfl
  | .u64, _, ⟨_, rfl⟩ => rfl
  | .i64, _, ⟨_, rfl⟩ => rfl
  | .timepoint, _, ⟨_, rfl⟩ => rfl
  | .duration, _, ⟨_, rfl⟩ => rfl
  | .u128, _, ⟨_, rfl⟩ => rfl
  | .i128, _, ⟨_, rfl⟩ => rfl
  | .u256, _, ⟨_, rfl⟩ => rfl
  | .i256, _, ⟨_, rfl⟩ => rfl
  | .string, _, ⟨_, rfl, valid⟩ => valid
  | .symbol, _, ⟨_, rfl, valid⟩ => valid
  | .address, _, held => held
  | .muxedAddress, _, held => held
  | .option _, _, .inl void => .inl void
  | .option inner, _, .inr held => .inr (WireType.fits_of_holds inner held)
  | .vec item, _, ⟨items, rfl, each⟩ =>
      ⟨items, rfl, fun value member => WireType.fits_of_holds item (each value member)⟩
  | .tuple types, _, ⟨items, rfl, each⟩ => ⟨items, rfl, WireType.fitsEach_of_holdsEach types each⟩
  | .map key value, _, ⟨entries, rfl, each⟩ =>
      ⟨entries, rfl, fun entry member =>
        ⟨WireType.fits_of_holds key (each entry member).1,
          WireType.fits_of_holds value (each entry member).2⟩⟩
  | .val, _, decodable => decodable
  | .void, _, decodable => decodable
  | .error, _, decodable => decodable
  | .bytes, _, decodable => decodable
  | .bytesN _, _, decodable => decodable
  | .result _ _, _, decodable => decodable
  | .udt _, _, decodable => decodable

/-- Values of declared types fit the wire types, position by position. -/
theorem WireType.fitsEach_of_holdsEach :
    ∀ (types : List SpecType) {values : List Value},
      SpecType.HoldsEach types values → WireType.FitsEach (WireType.ofSpecs types) values
  | [], _, none_held => none_held
  | type :: types, _, ⟨value, others, split, held, each⟩ =>
      ⟨value, others, split, WireType.fits_of_holds type held,
        WireType.fitsEach_of_holdsEach types each⟩

end

/-! ### From wire types to native types -/

namespace Value

/-- A value is decoded to a native value that a type accepts. -/
def Conforms (value : Value) (type : NativeType) : Prop :=
  ∃ native, value.decode = .ok native ∧ type.accepts native = true

theorem conforms_int32 {value : Value} (int32 : value.isInt32 = true) : value.Conforms .int32 := by
  cases value with
  | u32 n => exact ⟨_, rfl, rfl⟩
  | i32 n => exact ⟨_, rfl, rfl⟩
  | _ => cases int32

theorem conforms_bigInt {value : Value} (bigInt : value.isBigInt = true) :
    value.Conforms .bigInt := by
  cases value with
  | u64 n => exact ⟨_, rfl, rfl⟩
  | i64 n => exact ⟨_, rfl, rfl⟩
  | timepoint t => exact ⟨_, rfl, rfl⟩
  | duration d => exact ⟨_, rfl, rfl⟩
  | u128 n => exact ⟨_, rfl, rfl⟩
  | i128 n => exact ⟨_, rfl, rfl⟩
  | u256 n => exact ⟨_, rfl, rfl⟩
  | i256 n => exact ⟨_, rfl, rfl⟩
  | _ => cases bigInt

/-- Bytes that are UTF-8 have a text, whichever kind of value holds them. -/
theorem exists_textOfBytes {bs : Bytes} (tag : String) (valid : (Utf8.decode bs).isOk = true) :
    ∃ text, textOfBytes tag bs = .ok text := by
  cases decoded : Utf8.decode bs with
  | error fault => simp [decoded, Except.isOk, Except.toBool] at valid
  | ok text => exact ⟨text, by rw [textOfBytes, decoded]; rfl⟩

theorem conforms_string {value : Value} (isText : value.isText = true) :
    value.Conforms .string := by
  cases value with
  | string bs =>
      obtain ⟨text, read⟩ := exists_textOfBytes "String" isText
      exact ⟨.string text, by rw [decode, read]; rfl, rfl⟩
  | symbol bs =>
      obtain ⟨text, read⟩ := exists_textOfBytes "Symbol" isText
      exact ⟨.string text, by rw [decode, read]; rfl, rfl⟩
  | _ => cases isText

/-- Both address types accept the text of every address that has one. -/
theorem exists_address_text {value : Value} (isAddress : value.isAddress = true) :
    ∃ text, value.decode = .ok (.address text) := by
  cases value with
  | address a =>
      cases a with
      | account key => exact ⟨_, rfl⟩
      | contract id => exact ⟨_, rfl⟩
      | muxedAccount id key => exact ⟨_, rfl⟩
      | _ => cases isAddress
  | _ => cases isAddress

/-- Items that are each decoded to something are decoded together. -/
theorem exists_decodeItems {items : List Value} {accepted : NativeValue → Prop}
    (each : ∀ item ∈ items, ∃ native, item.decode = .ok native ∧ accepted native) :
    ∃ natives, decodeItems items = .ok natives ∧ ∀ native ∈ natives, accepted native := by
  induction items with
  | nil => exact ⟨[], rfl, by simp⟩
  | cons item items inductionHypothesis =>
      obtain ⟨native, decoded, here⟩ := each item List.mem_cons_self
      obtain ⟨natives, decodedOthers, others⟩ := inductionHypothesis fun other member =>
        each other (List.mem_cons_of_mem _ member)
      refine ⟨native :: natives, ?_, List.forall_mem_cons.mpr ⟨here, others⟩⟩
      rw [decodeItems, decoded, decodedOthers]
      rfl

theorem exists_decodeEntries {entries : List (Value × Value)}
    {acceptedKey accepted : NativeValue → Prop}
    (each : ∀ entry ∈ entries, (∃ native, entry.1.decode = .ok native ∧ acceptedKey native) ∧
      ∃ native, entry.2.decode = .ok native ∧ accepted native) :
    ∃ natives, decodeEntries entries = .ok natives ∧
      ∀ native ∈ natives, acceptedKey native.1 ∧ accepted native.2 := by
  induction entries with
  | nil => exact ⟨[], rfl, by simp⟩
  | cons entry entries inductionHypothesis =>
      obtain ⟨⟨key, decodedKey, keyHere⟩, native, decoded, here⟩ := each entry List.mem_cons_self
      obtain ⟨natives, decodedOthers, others⟩ := inductionHypothesis fun other member =>
        each other (List.mem_cons_of_mem _ member)
      refine ⟨(key, native) :: natives, ?_, List.forall_mem_cons.mpr ⟨⟨keyHere, here⟩, others⟩⟩
      rw [decodeEntries, decodedKey, decoded, decodedOthers]
      rfl

/-- An absent vector is decoded like an empty one. -/
theorem decode_vec {items : Option (List Value)} {natives : List NativeValue}
    (decoded : decodeItems (items.getD []) = .ok natives) :
    (vec items).decode = .ok (.vec natives) := by
  cases items with
  | none =>
      cases decoded
      rfl
  | some items =>
      rw [decode, show decodeItems items = .ok natives from decoded]
      rfl

/-- An absent map is decoded like an empty one. -/
theorem decode_map {entries : Option (List (Value × Value))}
    {natives : List (NativeValue × NativeValue)}
    (decoded : decodeEntries (entries.getD []) = .ok natives) :
    (map entries).decode = .ok (.map natives) := by
  cases entries with
  | none =>
      cases decoded
      rfl
  | some entries =>
      rw [decode, show decodeEntries entries = .ok natives from decoded]
      rfl

mutual

/-- A value that fits a wire type is decoded to a value that the native type accepts. -/
theorem conforms_of_fits :
    ∀ (type : WireType) {value : Value}, type.Fits value → value.Conforms (mapType type)
  | .bool, _, ⟨_, rfl⟩ => ⟨_, rfl, rfl⟩
  | .i32, _, int32 => conforms_int32 int32
  | .u32, _, int32 => conforms_int32 int32
  | .i64, _, bigInt => conforms_bigInt bigInt
  | .u64, _, bigInt => conforms_bigInt bigInt
  | .timepoint, _, bigInt => conforms_bigInt bigInt
  | .duration, _, bigInt => conforms_bigInt bigInt
  | .i128, _, bigInt => conforms_bigInt bigInt
  | .u128, _, bigInt => conforms_bigInt bigInt
  | .i256, _, bigInt => conforms_bigInt bigInt
  | .u256, _, bigInt => conforms_bigInt bigInt
  | .address, _, isAddress => by
      obtain ⟨text, decoded⟩ := exists_address_text isAddress
      exact ⟨_, decoded, rfl⟩
  | .muxedAddress, _, isAddress => by
      obtain ⟨text, decoded⟩ := exists_address_text isAddress
      exact ⟨_, decoded, rfl⟩
  | .string, _, isText => conforms_string isText
  | .symbol, _, isText => conforms_string isText
  | .option inner, value, fits => by
      rcases fits with rfl | fits
      · exact ⟨.void, rfl, rfl⟩
      · obtain ⟨native, decoded, accepted⟩ := conforms_of_fits inner fits
        refine ⟨native, decoded, ?_⟩
        cases native with
        | void => rfl
        | _ => exact accepted
  | .vec item, _, ⟨items, rfl, each⟩ => by
      obtain ⟨natives, decoded, accepted⟩ := exists_decodeItems fun held member =>
        conforms_of_fits item (each held member)
      refine ⟨.vec natives, decode_vec decoded, ?_⟩
      simpa [mapType, NativeType.accepts] using accepted
  | .tuple types, _, ⟨items, rfl, each⟩ => by
      obtain ⟨natives, decoded, accepted⟩ := exists_accepted_of_fitsEach types each
      refine ⟨.vec natives, decode_vec decoded, ?_⟩
      simpa [mapType, NativeType.accepts] using accepted
  | .map key value, _, ⟨entries, rfl, each⟩ => by
      obtain ⟨natives, decoded, accepted⟩ := exists_decodeEntries fun entry member =>
        ⟨conforms_of_fits key (each entry member).1, conforms_of_fits value (each entry member).2⟩
      refine ⟨.map natives, decode_map decoded, ?_⟩
      simpa [mapType, NativeType.accepts] using accepted
  | .unknown _, _, ⟨native, decoded⟩ => ⟨native, decoded, rfl⟩

/-- Values that fit wire types are decoded to values that the native types accept each. -/
theorem exists_accepted_of_fitsEach :
    ∀ (types : List WireType) {values : List Value}, WireType.FitsEach types values →
      ∃ natives, decodeItems values = .ok natives ∧
        NativeType.acceptsEach (mapTypes types) natives = true
  | [], _, rfl => ⟨[], rfl, rfl⟩
  | type :: types, _, ⟨value, others, rfl, fits, each⟩ => by
      obtain ⟨native, decoded, accepted⟩ := conforms_of_fits type fits
      obtain ⟨natives, decodedOthers, acceptedOthers⟩ := exists_accepted_of_fitsEach types each
      refine ⟨native :: natives, ?_, ?_⟩
      · rw [decodeItems, decoded, decodedOthers]
        rfl
      · simp [mapTypes, NativeType.acceptsEach, accepted, acceptedOthers]

end

end Value

end ContractEvents
