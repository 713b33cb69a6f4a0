/-
Module: ContractEvents.Proofs.DecodingInjective
Purpose: A native value tells the value that it was decoded from, but for the tags on the wire.
Main exports: Value.SameTags, Value.filled, Value.decode_eq_iff_filled_eq
-/
import ContractEvents.Proofs.BinaryText
import ContractEvents.Proofs.TypeExactness
import ContractEvents.Proofs.ValueRoundTrip
import ContractEvents.Proofs.WideIntegers

namespace ContractEvents

/-!
Kinds of values share native forms: the wide integers are all decimal text, and a string reads as a
symbol does.  Within one kind nothing is lost.  Decimal text tells the integer and the integer its
parts, text tells its bytes, an address its key, and what has no native form is passed on with its
whole binary form.  Only an absent vector or map is taken for an empty one.
-/

theorem Hash.eq_of_bytes_eq {one two : Hash} (same : one.bytes = two.bytes) : one = two := by
  cases one
  cases two
  cases same
  rfl

theorem Bytes.ofLong_injective {one two : UInt64} (same : ofLong one = ofLong two) : one = two := by
  rw [← toLong_ofLong one, same, toLong_ofLong]

namespace Address

/-- The kind and the key of an address that has a text. -/
def strkey? : Address → Option (Strkey.Kind × Bytes)
  | .account key => some (.account, key.bytes)
  | .contract id => some (.contract, id.bytes)
  | .muxedAccount id key => some (.muxed, key.bytes ++ Bytes.ofLong id)
  | _ => none

theorem exists_strkey_of_encode {a : Address} {text : String} (encoded : a.encode = .ok text) :
    ∃ kind key, a.strkey? = some (kind, key) ∧ text = Strkey.render kind key := by
  cases a with
  | account key => exact ⟨_, _, rfl, (Except.ok.inj encoded).symm⟩
  | contract id => exact ⟨_, _, rfl, (Except.ok.inj encoded).symm⟩
  | muxedAccount id key => exact ⟨_, _, rfl, (Except.ok.inj encoded).symm⟩
  | claimableBalance id => cases encoded
  | liquidityPool id => cases encoded

theorem strkey?_injective {a b : Address} {found : Strkey.Kind × Bytes}
    (first : a.strkey? = some found) (second : b.strkey? = some found) : a = b := by
  obtain ⟨kind, key⟩ := found
  cases a <;> cases b <;> cases first <;> simp [strkey?] at second
  -- Two accounts, two contracts or two muxed accounts are left.
  · rw [Hash.eq_of_bytes_eq second]
  · rw [Hash.eq_of_bytes_eq second]
  · rename_i id key id' key'
    obtain ⟨keys, ids⟩ := List.append_inj second (key'.length_eq.trans key.length_eq.symm)
    rw [Hash.eq_of_bytes_eq keys, Bytes.ofLong_injective ids]

/-- Two addresses with the same text are the same. -/
theorem encode_injective {a b : Address} {text : String} (first : a.encode = .ok text)
    (second : b.encode = .ok text) : a = b := by
  obtain ⟨kind, key, strkey, rfl⟩ := exists_strkey_of_encode first
  obtain ⟨kind', key', strkey', same⟩ := exists_strkey_of_encode second
  obtain ⟨rfl, rfl⟩ := Strkey.render_injective same
  exact strkey?_injective strkey strkey'

end Address

namespace Value

/-! ### Values of one kind -/

/-- Two values of one kind. -/
inductive SameKind : Value → Value → Prop where
  | bool (b c : Bool) : SameKind (.bool b) (.bool c)
  | void : SameKind .void .void
  | error (e f : ErrorValue) : SameKind (.error e) (.error f)
  | u32 (m n : UInt32) : SameKind (.u32 m) (.u32 n)
  | i32 (m n : Int32) : SameKind (.i32 m) (.i32 n)
  | u64 (m n : UInt64) : SameKind (.u64 m) (.u64 n)
  | i64 (m n : Int64) : SameKind (.i64 m) (.i64 n)
  | timepoint (m n : UInt64) : SameKind (.timepoint m) (.timepoint n)
  | duration (m n : UInt64) : SameKind (.duration m) (.duration n)
  | u128 (m n : UInt128Parts) : SameKind (.u128 m) (.u128 n)
  | i128 (m n : Int128Parts) : SameKind (.i128 m) (.i128 n)
  | u256 (m n : UInt256Parts) : SameKind (.u256 m) (.u256 n)
  | i256 (m n : Int256Parts) : SameKind (.i256 m) (.i256 n)
  | bytes (bs cs : Bytes) : SameKind (.bytes bs) (.bytes cs)
  | string (bs cs : Bytes) : SameKind (.string bs) (.string cs)
  | symbol (bs cs : Bytes) : SameKind (.symbol bs) (.symbol cs)
  | vec (items others : Option (List Value)) : SameKind (.vec items) (.vec others)
  | map (entries others : Option (List (Value × Value))) : SameKind (.map entries) (.map others)
  | address (a b : Address) : SameKind (.address a) (.address b)
  | contractInstance (e f : Executable) (storage other : Option (List (Value × Value))) :
      SameKind (.contractInstance e storage) (.contractInstance f other)
  | ledgerKeyInstance : SameKind .ledgerKeyInstance .ledgerKeyInstance
  | ledgerKeyNonce (m n : Int64) : SameKind (.ledgerKeyNonce m) (.ledgerKeyNonce n)

/-- The tag tells the kind. -/
theorem sameKind_of_tag_eq {v w : Value} (same : v.tag = w.tag) : SameKind v w := by
  cases v <;> cases w <;> first | constructor | simp [tag] at same

theorem eq_of_toText_eq {v w : Value} (sizedV : v.Sized) (sizedW : w.Sized)
    (same : v.toText = w.toText) : v = w :=
  write_injective sizedV sizedW (Base64.encode_injective same)

/-- A value that has no native form is passed on as it is. -/
theorem eq_of_raw {v w : Value} {tag tag' : String} (sizedV : v.Sized) (sizedW : w.Sized)
    (same : (.ok (.raw tag v.toText) : Except ValueError NativeValue) = .ok (.raw tag' w.toText)) :
    v = w :=
  eq_of_toText_eq sizedV sizedW (NativeValue.raw.inj (Except.ok.inj same)).2

theorem eq_of_digits {m n : Nat}
    (same : (.ok (.bigInt (toString m)) : Except ValueError NativeValue) =
      .ok (.bigInt (toString n))) : m = n :=
  Nat.repr_injective (NativeValue.bigInt.inj (Except.ok.inj same))

theorem eq_of_signedDigits {m n : Int}
    (same : (.ok (.bigInt (toString m)) : Except ValueError NativeValue) =
      .ok (.bigInt (toString n))) : m = n :=
  Int.repr_injective (NativeValue.bigInt.inj (Except.ok.inj same))

theorem eq_of_number {m n : Int}
    (same : (.ok (.number m) : Except ValueError NativeValue) = .ok (.number n)) : m = n :=
  NativeValue.number.inj (Except.ok.inj same)

theorem eq_of_text {tag : String} {bs cs : Bytes} {native : NativeValue}
    (first : .string <$> textOfBytes tag bs = .ok native)
    (second : .string <$> textOfBytes tag cs = .ok native) : bs = cs := by
  obtain ⟨text, readFirst, rfl⟩ := map_eq_ok_iff.mp first
  obtain ⟨text', readSecond, same⟩ := map_eq_ok_iff.mp second
  obtain rfl := NativeValue.string.inj same
  exact Utf8.decode_injective (mapError_eq_ok_iff.mp readFirst) (mapError_eq_ok_iff.mp readSecond)

/-- A value that holds other values which are decoded on their own. -/
def isContainer : Value → Bool
  | .vec _ => true
  | .map _ => true
  | _ => false

/-- Two values of one kind that hold no others are told by their native form. -/
theorem eq_of_decode_eq {v w : Value} {native : NativeValue} (kind : SameKind v w)
    (scalar : v.isContainer = false) (sizedV : v.Sized) (sizedW : w.Sized)
    (decodedV : v.decode = .ok native) (decodedW : w.decode = .ok native) : v = w := by
  have same := decodedV.trans decodedW.symm
  cases kind with
  | void => rfl
  | ledgerKeyInstance => rfl
  | bool b c => rw [NativeValue.bool.inj (Except.ok.inj same)]
  | bytes bs cs => rw [NativeValue.bytes.inj (Except.ok.inj same)]
  | u32 m n => rw [UInt32.toNat_inj.mp (Int.ofNat.inj (eq_of_number same))]
  | i32 m n => rw [Int32.toInt_inj.mp (eq_of_number same)]
  | u64 m n => rw [UInt64.toNat_inj.mp (eq_of_digits same)]
  | i64 m n => rw [Int64.toInt_inj.mp (eq_of_signedDigits same)]
  | timepoint m n => rw [UInt64.toNat_inj.mp (eq_of_digits same)]
  | duration m n => rw [UInt64.toNat_inj.mp (eq_of_digits same)]
  | u128 m n => rw [UInt128Parts.toNat_injective (eq_of_digits same)]
  | i128 m n => rw [Int128Parts.toInt_injective (eq_of_signedDigits same)]
  | u256 m n => rw [UInt256Parts.toNat_injective (eq_of_digits same)]
  | i256 m n => rw [Int256Parts.toInt_injective (eq_of_signedDigits same)]
  | string bs cs => rw [eq_of_text decodedV decodedW]
  | symbol bs cs => rw [eq_of_text decodedV decodedW]
  | address a b =>
      obtain ⟨text, encodedA, rfl⟩ := map_eq_ok_iff.mp decodedV
      obtain ⟨text', encodedB, sameText⟩ := map_eq_ok_iff.mp decodedW
      obtain rfl := NativeValue.address.inj sameText
      rw [Address.encode_injective encodedA encodedB]
  | error e f => exact eq_of_raw sizedV sizedW same
  | contractInstance e f storage other => exact eq_of_raw sizedV sizedW same
  | ledgerKeyNonce m n => exact eq_of_raw sizedV sizedW same
  | vec items others => cases scalar
  | map entries others => cases scalar

/-! ### Values that hold others -/

mutual

/-- Two values have the same tag, and so have the values that they hold at the same place. -/
def SameTags : Value → Value → Prop
  | .vec (some items), .vec (some others) => SameItemTags items others
  | .map (some entries), .map (some others) => SameEntryTags entries others
  | v, w => v.tag = w.tag

/-- Items at the same place have the same tags. -/
def SameItemTags : List Value → List Value → Prop
  | item :: items, other :: others => item.SameTags other ∧ SameItemTags items others
  | _, _ => True

/-- Keys and values at the same place have the same tags. -/
def SameEntryTags : List (Value × Value) → List (Value × Value) → Prop
  | (key, value) :: entries, (key', value') :: others =>
      key.SameTags key' ∧ value.SameTags value' ∧ SameEntryTags entries others
  | _, _ => True

end

mutual

/-- The value with an empty vector or map for every absent one. -/
def filled : Value → Value
  | .vec none => .vec (some [])
  | .vec (some items) => .vec (some (filledItems items))
  | .map none => .map (some [])
  | .map (some entries) => .map (some (filledEntries entries))
  | v => v

/-- Items with an empty vector or map for every absent one. -/
def filledItems : List Value → List Value
  | [] => []
  | item :: items => item.filled :: filledItems items

/-- Entries with an empty vector or map for every absent one. -/
def filledEntries : List (Value × Value) → List (Value × Value)
  | [] => []
  | (key, value) :: entries => (key.filled, value.filled) :: filledEntries entries

end

theorem SameTags.tag_eq {v w : Value} (tags : v.SameTags w) : v.tag = w.tag := by
  unfold SameTags at tags
  split at tags
  · rfl
  · rfl
  · exact tags

/-! An absent vector or map has the items, or the entries, of an empty one. -/

theorem filled_vec (items : Option (List Value)) :
    (vec items).filled = .vec (some (filledItems (items.getD []))) := by
  cases items <;> rfl

theorem filled_map (entries : Option (List (Value × Value))) :
    (map entries).filled = .map (some (filledEntries (entries.getD []))) := by
  cases entries <;> rfl

theorem sizedItems_of_vec {items : Option (List Value)} (sized : (vec items).Sized) :
    SizedItems (items.getD []) := by
  cases items with
  | none => exact trivial
  | some items => exact sized.2

theorem sizedEntries_of_map {entries : Option (List (Value × Value))}
    (sized : (map entries).Sized) : SizedEntries (entries.getD []) := by
  cases entries with
  | none => exact trivial
  | some entries => exact sized.2

theorem sameItemTags_of_vec {items : List Value} {others : Option (List Value)}
    (tags : (vec (some items)).SameTags (vec others)) : SameItemTags items (others.getD []) := by
  cases others with
  | none => cases items <;> exact trivial
  | some others => exact tags

theorem sameEntryTags_of_map {entries : List (Value × Value)}
    {others : Option (List (Value × Value))}
    (tags : (map (some entries)).SameTags (map others)) :
    SameEntryTags entries (others.getD []) := by
  cases others with
  | none => cases entries <;> exact trivial
  | some others => exact tags

theorem decodeItems_eq_nil {items : List Value} (decoded : decodeItems items = .ok []) :
    items = [] := by
  cases items with
  | nil => rfl
  | cons item items =>
      obtain ⟨_, _, impossible, -⟩ := decodeItems_cons_eq_ok_iff.mp decoded
      cases impossible

theorem decodeEntries_eq_nil {entries : List (Value × Value)}
    (decoded : decodeEntries entries = .ok []) : entries = [] := by
  cases entries with
  | nil => rfl
  | cons entry entries =>
      obtain ⟨_, _, _, impossible, -⟩ := decodeEntries_cons_eq_ok_iff.mp decoded
      cases impossible

mutual

/-- An absent vector or map is decoded as an empty one. -/
theorem decode_filled (v : Value) : v.filled.decode = v.decode := by
  cases v with
  | vec items =>
      cases items with
      | none => rfl
      | some items => rw [filled, decode, decode, decodeItems_filledItems items]
  | map entries =>
      cases entries with
      | none => rfl
      | some entries => rw [filled, decode, decode, decodeEntries_filledEntries entries]
  | _ => rfl

theorem decodeItems_filledItems (items : List Value) :
    decodeItems (filledItems items) = decodeItems items := by
  cases items with
  | nil => rfl
  | cons item items =>
      rw [filledItems, decodeItems, decodeItems, decode_filled item,
        decodeItems_filledItems items]

theorem decodeEntries_filledEntries (entries : List (Value × Value)) :
    decodeEntries (filledEntries entries) = decodeEntries entries := by
  cases entries with
  | nil => rfl
  | cons entry entries =>
      obtain ⟨key, value⟩ := entry
      rw [filledEntries, decodeEntries, decodeEntries, decode_filled key, decode_filled value,
        decodeEntries_filledEntries entries]

end

mutual

/-- Two values with the same tags and the same native form are the same, but for vectors and maps
that are absent in one and empty in the other. -/
theorem filled_eq_of_native_eq (v : Value) {w : Value} {native : NativeValue} (sizedV : v.Sized)
    (sizedW : w.Sized) (tags : v.SameTags w) (decodedV : v.decode = .ok native)
    (decodedW : w.decode = .ok native) : v.filled = w.filled := by
  cases v with
  | vec items =>
      cases items with
      | none =>
          cases decodedV
          obtain ⟨others, rfl, decodedOthers⟩ := comesFrom_of_decode decodedW
          rw [filled_vec others, decodeItems_eq_nil decodedOthers]
          rfl
      | some items =>
          obtain ⟨natives, decodedItems, rfl⟩ := map_eq_ok_iff.mp decodedV
          obtain ⟨others, rfl, decodedOthers⟩ := comesFrom_of_decode decodedW
          rw [filled, filled_vec others, filledItems_eq_of_native_eq items sizedV.2
            (sizedItems_of_vec sizedW) (sameItemTags_of_vec tags) decodedItems decodedOthers]
  | map entries =>
      cases entries with
      | none =>
          cases decodedV
          obtain ⟨others, rfl, decodedOthers⟩ := comesFrom_of_decode decodedW
          rw [filled_map others, decodeEntries_eq_nil decodedOthers]
          rfl
      | some entries =>
          obtain ⟨natives, decodedEntries, rfl⟩ := map_eq_ok_iff.mp decodedV
          obtain ⟨others, rfl, decodedOthers⟩ := comesFrom_of_decode decodedW
          rw [filled, filled_map others, filledEntries_eq_of_native_eq entries sizedV.2
            (sizedEntries_of_map sizedW) (sameEntryTags_of_map tags) decodedEntries decodedOthers]
  | _ =>
      rw [eq_of_decode_eq (sameKind_of_tag_eq tags.tag_eq) rfl sizedV sizedW decodedV decodedW]

theorem filledItems_eq_of_native_eq (items : List Value) {others : List Value}
    {natives : List NativeValue} (sizedItems : SizedItems items) (sizedOthers : SizedItems others)
    (tags : SameItemTags items others) (decodedItems : decodeItems items = .ok natives)
    (decodedOthers : decodeItems others = .ok natives) :
    filledItems items = filledItems others := by
  cases items with
  | nil =>
      cases decodedItems
      rw [decodeItems_eq_nil decodedOthers]
  | cons item items =>
      obtain ⟨native, tail, rfl, here, decodedTail⟩ := decodeItems_cons_eq_ok_iff.mp decodedItems
      cases others with
      | nil => cases decodedOthers
      | cons other others =>
          obtain ⟨native', tail', same, here', decodedTail'⟩ :=
            decodeItems_cons_eq_ok_iff.mp decodedOthers
          obtain ⟨rfl, rfl⟩ := List.cons.inj same
          rw [filledItems, filledItems,
            filled_eq_of_native_eq item sizedItems.1 sizedOthers.1 tags.1 here here',
            filledItems_eq_of_native_eq items sizedItems.2 sizedOthers.2 tags.2 decodedTail
              decodedTail']

theorem filledEntries_eq_of_native_eq (entries : List (Value × Value))
    {others : List (Value × Value)} {natives : List (NativeValue × NativeValue)}
    (sizedEntries : SizedEntries entries) (sizedOthers : SizedEntries others)
    (tags : SameEntryTags entries others) (decodedEntries : decodeEntries entries = .ok natives)
    (decodedOthers : decodeEntries others = .ok natives) :
    filledEntries entries = filledEntries others := by
  cases entries with
  | nil =>
      cases decodedEntries
      rw [decodeEntries_eq_nil decodedOthers]
  | cons entry entries =>
      obtain ⟨key, value⟩ := entry
      obtain ⟨k, v, tail, rfl, hereKey, here, decodedTail⟩ :=
        decodeEntries_cons_eq_ok_iff.mp decodedEntries
      cases others with
      | nil => cases decodedOthers
      | cons other others =>
          obtain ⟨key', value'⟩ := other
          obtain ⟨k', v', tail', same, hereKey', here', decodedTail'⟩ :=
            decodeEntries_cons_eq_ok_iff.mp decodedOthers
          simp only [List.cons.injEq, Prod.mk.injEq] at same
          obtain ⟨⟨rfl, rfl⟩, rfl⟩ := same
          rw [filledEntries, filledEntries,
            filled_eq_of_native_eq key sizedEntries.1 sizedOthers.1 tags.1 hereKey hereKey',
            filled_eq_of_native_eq value sizedEntries.2.1 sizedOthers.2.1 tags.2.1 here here',
            filledEntries_eq_of_native_eq entries sizedEntries.2.2 sizedOthers.2.2 tags.2.2
              decodedTail decodedTail']

end

/-- Of two values with the same tags, the second has the native form of the first just if they are
the same but for vectors and maps that are absent in one and empty in the other. -/
theorem decode_eq_iff_filled_eq {v w : Value} {native : NativeValue} (sizedV : v.Sized)
    (sizedW : w.Sized) (tags : v.SameTags w) (decoded : v.decode = .ok native) :
    w.decode = .ok native ↔ v.filled = w.filled := by
  constructor
  · intro decodedW
    exact filled_eq_of_native_eq v sizedV sizedW tags decoded decodedW
  · intro same
    rw [← decode_filled, ← same, decode_filled, decoded]

/-- Items of several kinds, the last of them a map that holds a vector. -/
private def mixedItems (absent : Option (List Value)) : Value :=
  .vec (some [.i128 ⟨-1, 5⟩, .string [0xC3, 0xA9], .error (.contract 7),
    .map (some [(.symbol [0x61], .vec absent)])])

/-- A vector that is absent inside of a map is decoded as an empty one is, and is the one
difference. -/
theorem decode_eq_iff_filled_eq_mixedItems :
    (mixedItems none).Sized ∧ (mixedItems (some [])).Sized ∧
      (mixedItems none).SameTags (mixedItems (some [])) ∧
      ∃ native, (mixedItems none).decode = .ok native ∧
        (mixedItems (some [])).decode = .ok native ∧
        (mixedItems none).filled = (mixedItems (some [])).filled := by
  have sized : (mixedItems none).Sized := by
    simp [mixedItems, Sized, SizedItems, SizedEntries, Xdr.Reader.unbounded, maxSymbol]
  have sizedEmpty : (mixedItems (some [])).Sized := by
    simp [mixedItems, Sized, SizedItems, SizedEntries, Xdr.Reader.unbounded, maxSymbol]
  have tags : (mixedItems none).SameTags (mixedItems (some [])) := by
    simp [mixedItems, SameTags, SameItemTags, SameEntryTags, tag]
  obtain ⟨native, decoded⟩ : ∃ native, (mixedItems none).decode = .ok native := ⟨_, rfl⟩
  have decodedEmpty : (mixedItems (some [])).decode = .ok native := decoded
  exact ⟨sized, sizedEmpty, tags, native, decoded, decodedEmpty,
    (decode_eq_iff_filled_eq sized sizedEmpty tags decoded).mp decodedEmpty⟩

end Value

end ContractEvents
