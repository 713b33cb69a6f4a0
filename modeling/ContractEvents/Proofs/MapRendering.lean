/-
Module: ContractEvents.Proofs.MapRendering
Purpose: Which maps are rendered to JSON with all their entries, and which lose some.
Main exports: Value.keyText?, Json.ShowsEntries, Json.Shows, Value.Clashes, Value.showsEntries_iff,
  Value.shows_iff_unfolded, Value.rendered_of_decode
-/
import ContractEvents.Proofs.DecodingInjective
import ContractEvents.Proofs.NativeForms
import ContractEvents.Proofs.RecordReading

namespace ContractEvents

/-!
A map is rendered as an object if all its keys are text, and as an array of pairs otherwise.  Pairs
keep every entry.  An object has one member for each name, so entries are lost as soon as two keys
read as the same text.  Different keys do that in one way only: the same bytes once as a string and
once as a symbol.
-/

/-- The text of a key that is a string or a symbol. -/
def Value.keyText? : Value → Option String
  | .string bs | .symbol bs => (Utf8.decode bs).toOption
  | _ => none

/-- Is a value decoded through the values that it holds? -/
def Value.holdsOthers : Value → Bool
  | .vec (some _) | .map (some _) => true
  | _ => false

namespace Json

/-! ### JSON that shows every entry -/

/-- One pair for each entry of a map, in their order. -/
inductive ShowsPairs (shows : Json → Value → Prop) : List Json → List (Value × Value) → Prop where
  | nil : ShowsPairs shows [] []
  | cons {first second : Json} {key value : Value} {pairs : List Json}
      {entries : List (Value × Value)} (keyShown : shows first key)
      (valueShown : shows second value) (behind : ShowsPairs shows pairs entries) :
      ShowsPairs shows (.array [first, second] :: pairs) ((key, value) :: entries)

/-- One member for each entry of a map, in their order, with the text of its key for a name. -/
inductive ShowsMembers (shows : Json → Value → Prop) :
    List (String × Json) → List (Value × Value) → Prop where
  | nil : ShowsMembers shows [] []
  | cons {name : String} {json : Json} {key value : Value} {members : List (String × Json)}
      {entries : List (Value × Value)} (text : key.keyText? = some name)
      (valueShown : shows json value) (behind : ShowsMembers shows members entries) :
      ShowsMembers shows ((name, json) :: members) ((key, value) :: entries)

/-- All entries of a map are there: an array has exactly one pair for each, or an object has exactly
one member for each, in some order. -/
inductive ShowsEntries (shows : Json → Value → Prop) : Json → List (Value × Value) → Prop where
  | pairs {pairs : List Json} {entries : List (Value × Value)}
      (each : ShowsPairs shows pairs entries) : ShowsEntries shows (.array pairs) entries
  | members {members listed : List (String × Json)} {entries : List (Value × Value)}
      (each : ShowsMembers shows listed entries) (perm : members.Perm listed)
      (distinct : (members.map Prod.fst).Nodup) : ShowsEntries shows (.object members) entries

/-- JSON is what the native form of a value is rendered as. -/
def Renders (json : Json) (value : Value) : Prop :=
  ∃ native, value.decode = .ok native ∧ native.toJson = json

/-- JSON shows a value with all that it holds, at every depth. -/
inductive Shows : Json → Value → Prop where
  | leaf {json : Json} {value : Value} (single : value.holdsOthers = false)
      (rendered : json.Renders value) : Shows json value
  | vec {jsons : List Json} {items : List Value} (each : List.Forall₂ Shows jsons items) :
      Shows (.array jsons) (.vec (some items))
  | map {json : Json} {entries : List (Value × Value)} (each : ShowsEntries Shows json entries) :
      Shows json (.map (some entries))

/-- A permutation of members that leaves their names where they are, each of them once, moves
nothing. -/
theorem eq_of_perm_of_names_eq {one two : List (String × Json)} (perm : one.Perm two)
    (names : one.map Prod.fst = two.map Prod.fst) (distinct : (two.map Prod.fst).Nodup) :
    one = two := by
  apply List.ext_getElem perm.length_eq
  intro place inOne inTwo
  apply List.inj_on_of_nodup_map distinct (perm.subset (List.getElem_mem inOne))
    (List.getElem_mem inTwo)
  have here := congrArg (·[place]?) names
  simpa [inOne, inTwo] using here

end Json

namespace Value

/-! ### Texts of keys -/

/-- A map is rendered as an object in which two of its keys have the same name. -/
def Folds (entries : List (Value × Value)) : Prop :=
  (∀ key ∈ entries.map Prod.fst, key.keyText?.isSome = true) ∧
    ¬ ((entries.map Prod.fst).map keyText?).Nodup

/-- All keys are text, and some bytes stand among them both as a string and as a symbol. -/
def Clashes (entries : List (Value × Value)) : Prop :=
  (∀ key ∈ entries.map Prod.fst, ∃ bs, key = .string bs ∨ key = .symbol bs) ∧
    ∃ bs, .string bs ∈ entries.map Prod.fst ∧ .symbol bs ∈ entries.map Prod.fst

theorem keyText?_of_decode {key : Value} {native : NativeValue}
    (decoded : key.decode = .ok native) : key.keyText? = native.asText? := by
  cases key with
  | string bs =>
      obtain ⟨text, read, rfl⟩ := map_eq_ok_iff.mp decoded
      exact toOption_eq_some_iff.mpr (mapError_eq_ok_iff.mp read)
  | symbol bs =>
      obtain ⟨text, read, rfl⟩ := map_eq_ok_iff.mp decoded
      exact toOption_eq_some_iff.mpr (mapError_eq_ok_iff.mp read)
  | vec items =>
      cases items with
      | none =>
          cases decoded
          rfl
      | some items =>
          obtain ⟨natives, -, rfl⟩ := map_eq_ok_iff.mp decoded
          rfl
  | map entries =>
      cases entries with
      | none =>
          cases decoded
          rfl
      | some entries =>
          obtain ⟨natives, -, rfl⟩ := map_eq_ok_iff.mp decoded
          rfl
  | address a =>
      obtain ⟨text, -, rfl⟩ := map_eq_ok_iff.mp decoded
      rfl
  | _ =>
      cases decoded
      rfl

theorem decode_of_keyText? {key : Value} {name : String} (text : key.keyText? = some name) :
    key.decode = .ok (.string name) := by
  cases key with
  | string bs =>
      rw [decode, textOfBytes, toOption_eq_some_iff.mp text]
      rfl
  | symbol bs =>
      rw [decode, textOfBytes, toOption_eq_some_iff.mp text]
      rfl
  | _ => cases text

theorem exists_bytes_of_keyText? {key : Value} {name : String} (text : key.keyText? = some name) :
    ∃ bs, Utf8.decode bs = .ok name ∧ (key = .string bs ∨ key = .symbol bs) := by
  cases key with
  | string bs => exact ⟨bs, toOption_eq_some_iff.mp text, .inl rfl⟩
  | symbol bs => exact ⟨bs, toOption_eq_some_iff.mp text, .inr rfl⟩
  | _ => cases text

/-- Different keys read as one text only as a string and a symbol of the same bytes. -/
theorem folds_iff_clashes {entries : List (Value × Value)}
    (decodable : ∀ key ∈ entries.map Prod.fst, key.Decodable)
    (distinct : (entries.map Prod.fst).Nodup) : Folds entries ↔ Clashes entries := by
  rw [Folds, List.nodup_map_iff_inj_on distinct, Clashes]
  constructor
  · rintro ⟨allText, notInjective⟩
    have bytes : ∀ key ∈ entries.map Prod.fst, ∃ bs, key = .string bs ∨ key = .symbol bs := by
      intro key member
      obtain ⟨name, text⟩ := Option.isSome_iff_exists.mp (allText key member)
      obtain ⟨bs, -, kind⟩ := exists_bytes_of_keyText? text
      exact ⟨bs, kind⟩
    refine ⟨bytes, ?_⟩
    push Not at notInjective
    obtain ⟨one, first, two, second, same, different⟩ := notInjective
    obtain ⟨name, text⟩ := Option.isSome_iff_exists.mp (allText one first)
    obtain ⟨bs, read, kind⟩ := exists_bytes_of_keyText? text
    obtain ⟨cs, readOther, kindOther⟩ := exists_bytes_of_keyText? (same.symm.trans text)
    obtain rfl := Utf8.decode_injective read readOther
    refine ⟨bs, ?_⟩
    rcases kind with rfl | rfl
    · rcases kindOther with rfl | rfl
      · exact absurd rfl different
      · exact ⟨first, second⟩
    · rcases kindOther with rfl | rfl
      · exact ⟨second, first⟩
      · exact absurd rfl different
  · rintro ⟨bytes, bs, asString, asSymbol⟩
    constructor
    · intro key member
      obtain ⟨native, decoded⟩ := decodable key member
      rcases bytes key member with ⟨cs, rfl | rfl⟩
      · obtain ⟨text, -, rfl⟩ := map_eq_ok_iff.mp decoded
        rw [keyText?_of_decode decoded]
        rfl
      · obtain ⟨text, -, rfl⟩ := map_eq_ok_iff.mp decoded
        rw [keyText?_of_decode decoded]
        rfl
    · intro injective
      cases injective _ asString _ asSymbol rfl

/-! ### One map -/

theorem decodeEntries_eq_ok_iff {entries : List (Value × Value)}
    {natives : List (NativeValue × NativeValue)} :
    decodeEntries entries = .ok natives ↔
      List.Forall₂ (fun entry native => entry.1.decode = .ok native.1 ∧
        entry.2.decode = .ok native.2) entries natives := by
  induction entries generalizing natives with
  | nil => simp [decodeEntries, eq_comm]
  | cons entry entries inductionHypothesis =>
      rw [decodeEntries_cons_eq_ok_iff, List.forall₂_cons_left_iff]
      constructor
      · rintro ⟨key, value, others, rfl, first, second, behind⟩
        exact ⟨(key, value), others, ⟨first, second⟩, inductionHypothesis.mp behind, rfl⟩
      · rintro ⟨⟨key, value⟩, others, ⟨first, second⟩, behind, rfl⟩
        exact ⟨key, value, others, rfl, first, second, inductionHypothesis.mpr behind⟩

/-- The JSON of each key and of each value shows it. -/
def EachShown (shows : Json → Value → Prop) (entries : List (Value × Value))
    (natives : List (NativeValue × NativeValue)) : Prop :=
  List.Forall₂ (fun entry native => shows native.1.toJson entry.1 ∧ shows native.2.toJson entry.2)
    entries natives

section OneMap

variable {entries : List (Value × Value)} {natives : List (NativeValue × NativeValue)}
  {shows : Json → Value → Prop}

theorem hasTextKeys_iff (decoded : decodeEntries entries = .ok natives) :
    NativeValue.hasTextKeys natives = true ↔
      ∀ key ∈ entries.map Prod.fst, key.keyText?.isSome = true := by
  rw [decodeEntries_eq_ok_iff] at decoded
  induction decoded with
  | nil => simp [NativeValue.hasTextKeys]
  | cons here behind inductionHypothesis =>
      rw [NativeValue.hasTextKeys, List.all_cons, Bool.and_eq_true, List.map_cons,
        List.forall_mem_cons, keyText?_of_decode here.1]
      exact and_congr_right fun _ => inductionHypothesis

theorem showsPairs_iff (decoded : decodeEntries entries = .ok natives) :
    Json.ShowsPairs shows (NativeValue.pairsToJson natives) entries ↔
      EachShown shows entries natives := by
  rw [decodeEntries_eq_ok_iff] at decoded
  induction decoded with
  | nil => exact iff_of_true .nil .nil
  | cons here behind inductionHypothesis =>
      constructor
      · intro shown
        cases shown with
        | cons keyShown valueShown behind =>
            exact .cons ⟨keyShown, valueShown⟩ (inductionHypothesis.mp behind)
      · intro each
        cases each with
        | cons shown behind => exact .cons shown.1 shown.2 (inductionHypothesis.mpr behind)

/-- The names of members that show entries are the texts of their keys. -/
theorem map_some_names_of_showsMembers {listed : List (String × Json)}
    (shown : Json.ShowsMembers shows listed entries) :
    (listed.map Prod.fst).map some = (entries.map Prod.fst).map keyText? := by
  induction shown with
  | nil => rfl
  | cons text _ _ inductionHypothesis =>
      rw [List.map_cons, List.map_cons, List.map_cons, List.map_cons, text, inductionHypothesis]

/-- Members of text keys show their entries as far as their values do; their names show the keys. -/
theorem showsMembers_iff (decoded : decodeEntries entries = .ok natives)
    (allText : NativeValue.hasTextKeys natives = true)
    (texts : ∀ (key : Value) (name : String), key.keyText? = some name → shows (.string name) key) :
    Json.ShowsMembers shows (NativeValue.membersToJson natives) entries ↔
      EachShown shows entries natives := by
  rw [decodeEntries_eq_ok_iff] at decoded
  induction decoded with
  | nil => exact iff_of_true .nil .nil
  | @cons entry native _ _ here behind inductionHypothesis =>
      rw [NativeValue.hasTextKeys, List.all_cons, Bool.and_eq_true] at allText
      obtain ⟨isText, allText⟩ := allText
      obtain ⟨key, value⟩ := native
      obtain ⟨name, asText⟩ := Option.isSome_iff_exists.mp isText
      obtain rfl : key = .string name := NativeValue.asText?_eq_some_iff.mp asText
      have text : entry.1.keyText? = some name := keyText?_of_decode here.1
      constructor
      · intro shown
        cases shown with
        | cons _ valueShown behind =>
            exact .cons ⟨texts _ _ text, valueShown⟩ ((inductionHypothesis allText).mp behind)
      · intro each
        cases each with
        | cons shown behind => exact .cons text shown.2 ((inductionHypothesis allText).mpr behind)

theorem map_some_names (decoded : decodeEntries entries = .ok natives)
    (allText : NativeValue.hasTextKeys natives = true) :
    ((NativeValue.membersToJson natives).map Prod.fst).map some =
      (entries.map Prod.fst).map keyText? := by
  have listed : Json.ShowsMembers (fun _ _ => True) (NativeValue.membersToJson natives) entries :=
    (showsMembers_iff decoded allText fun _ _ _ => trivial).mpr
      ((decodeEntries_eq_ok_iff.mp decoded).imp fun _ _ _ => ⟨trivial, trivial⟩)
  exact map_some_names_of_showsMembers listed

theorem nodup_names_iff (decoded : decodeEntries entries = .ok natives)
    (allText : NativeValue.hasTextKeys natives = true) :
    ((NativeValue.membersToJson natives).map Prod.fst).Nodup ↔ ¬ Folds entries := by
  rw [← List.nodup_map_iff (Option.some_injective String), map_some_names decoded allText, Folds,
    not_and, not_not]
  constructor
  · intro distinct _
    exact distinct
  · intro folded
    exact folded ((hasTextKeys_iff decoded).mp allText)

/-- The JSON of a map has all its entries, unless two keys have the same name in an object.  What
it shows of each is what the JSON of the key and of the value show. -/
theorem showsEntries_iff (decoded : decodeEntries entries = .ok natives)
    (texts : ∀ (key : Value) (name : String), key.keyText? = some name → shows (.string name) key) :
    Json.ShowsEntries shows (NativeValue.map natives).toJson entries ↔
      ¬ Folds entries ∧ EachShown shows entries natives := by
  rw [NativeValue.toJson]
  by_cases allText : NativeValue.hasTextKeys natives = true
  · rw [if_pos allText, Json.ofMembers, ← nodup_names_iff decoded allText,
      ← showsMembers_iff decoded allText texts]
    constructor
    · intro shown
      cases shown with
      | @members members listed _ each perm distinct =>
          -- The members may be listed in another order only where names do not tell them apart.
          have names : listed.map Prod.fst = (NativeValue.membersToJson natives).map Prod.fst := by
            apply List.map_injective_iff.mpr (Option.some_injective String)
            rw [map_some_names_of_showsMembers each, map_some_names decoded allText]
          have distinctNames : ((NativeValue.membersToJson natives).map Prod.fst).Nodup := by
            rw [← names]
            exact (perm.map Prod.fst).nodup_iff.mp distinct
          have same : listed = NativeValue.membersToJson natives :=
            Json.eq_of_perm_of_names_eq (perm.symm.trans (Json.sortMembers_perm distinctNames))
              names distinctNames
          rw [← same]
          exact ⟨names ▸ distinctNames, each⟩
    · rintro ⟨distinct, each⟩
      exact .members each (Json.sortMembers_perm distinct) (Json.nodup_sortMembers _)
  · rw [if_neg allText, ← showsPairs_iff decoded]
    have unfolded : ¬ Folds entries := by
      intro folds
      exact allText ((hasTextKeys_iff decoded).mpr folds.1)
    rw [and_iff_right unfolded]
    constructor
    · intro shown
      cases shown with
      | pairs each => exact each
    · exact .pairs

end OneMap

/-! ### Maps at every depth -/

/-- No map among nodes is rendered with two keys of one name. -/
def Unfolded (nodes : List Value) : Prop := ∀ entries, .map (some entries) ∈ nodes → ¬ Folds entries

theorem unfolded_append {nodes others : List Value} :
    Unfolded (nodes ++ others) ↔ Unfolded nodes ∧ Unfolded others := by
  constructor
  · intro unfolded
    exact ⟨fun entries member => unfolded entries (List.mem_append_left _ member),
      fun entries member => unfolded entries (List.mem_append_right _ member)⟩
  · rintro ⟨first, second⟩ entries member
    exact (List.mem_append.mp member).elim (first entries) (second entries)

theorem unfolded_map_cons {entries : List (Value × Value)} {nodes : List Value} :
    Unfolded (.map (some entries) :: nodes) ↔ ¬ Folds entries ∧ Unfolded nodes := by
  constructor
  · intro unfolded
    exact ⟨unfolded entries List.mem_cons_self,
      fun others member => unfolded others (List.mem_cons_of_mem _ member)⟩
  · rintro ⟨here, behind⟩ others member
    rcases List.mem_cons.mp member with same | member
    · cases same
      exact here
    · exact behind others member

theorem unfolded_vec_cons {items : List Value} {nodes : List Value} :
    Unfolded (.vec (some items) :: nodes) ↔ Unfolded nodes := by
  constructor
  · intro unfolded entries member
    exact unfolded entries (List.mem_cons_of_mem _ member)
  · intro unfolded entries member
    rcases List.mem_cons.mp member with same | member
    · cases same
    · exact unfolded entries member

theorem unfolded_of_single {value : Value} (single : value.holdsOthers = false) :
    Unfolded value.nodes := by
  have nodes : value.nodes = [value] := by
    cases value with
    | vec items => cases items with
      | none => rfl
      | some items => cases single
    | map entries => cases entries with
      | none => rfl
      | some entries => cases single
    | _ => rfl
  intro entries member
  rw [nodes, List.mem_singleton] at member
  rw [← member] at single
  cases single

theorem shows_leaf_iff {value : Value} {native : NativeValue} (single : value.holdsOthers = false)
    (decoded : value.decode = .ok native) : native.toJson.Shows value ↔ Unfolded value.nodes := by
  constructor
  · intro
    exact unfolded_of_single single
  · intro
    exact .leaf single ⟨native, decoded, rfl⟩

theorem holdsOthers_of_keyText? {key : Value} {name : String} (text : key.keyText? = some name) :
    key.holdsOthers = false := by
  cases key with
  | vec items => cases text
  | map entries => cases text
  | _ => rfl

theorem renders_of_keyText? {key : Value} {name : String} (text : key.keyText? = some name) :
    (Json.string name).Renders key :=
  ⟨.string name, decode_of_keyText? text, rfl⟩

theorem shows_vec_iff {jsons : List Json} {items : List Value} :
    (Json.array jsons).Shows (.vec (some items)) ↔ List.Forall₂ Json.Shows jsons items := by
  constructor
  · intro shown
    cases shown with
    | leaf single => cases single
    | vec each => exact each
  · exact .vec

theorem shows_map_iff {json : Json} {entries : List (Value × Value)} :
    json.Shows (.map (some entries)) ↔ json.ShowsEntries Json.Shows entries := by
  constructor
  · intro shown
    cases shown with
    | leaf single => cases single
    | map each => exact each
  · exact .map

mutual

/-- JSON shows a value with all that it holds just when no map in it is rendered with two keys of
one name. -/
theorem shows_iff_unfolded (value : Value) {native : NativeValue}
    (decoded : value.decode = .ok native) : native.toJson.Shows value ↔ Unfolded value.nodes := by
  match value with
  | .vec (some items) =>
      obtain ⟨natives, decodedItems, rfl⟩ := map_eq_ok_iff.mp decoded
      rw [nodes, unfolded_vec_cons, ← showsItems_iff_unfolded items decodedItems,
        NativeValue.toJson, shows_vec_iff]
  | .map (some entries) =>
      obtain ⟨natives, decodedEntries, rfl⟩ := map_eq_ok_iff.mp decoded
      rw [nodes, unfolded_map_cons, ← entriesShown_iff_unfolded entries decodedEntries,
        ← showsEntries_iff decodedEntries fun key name text =>
          .leaf (holdsOthers_of_keyText? text) (renders_of_keyText? text), shows_map_iff]
  | .string _ | .symbol _ | .address _ | .bool _ | .void | .error _ | .u32 _ | .i32 _ | .u64 _
  | .i64 _ | .timepoint _ | .duration _ | .u128 _ | .i128 _ | .u256 _ | .i256 _ | .bytes _
  | .vec none | .map none | .contractInstance .. | .ledgerKeyInstance | .ledgerKeyNonce _ =>
      exact shows_leaf_iff rfl decoded

theorem showsItems_iff_unfolded (items : List Value) {natives : List NativeValue}
    (decoded : decodeItems items = .ok natives) :
    List.Forall₂ Json.Shows (NativeValue.itemsToJson natives) items ↔
      Unfolded (nodesOfItems items) := by
  match items with
  | [] =>
      cases decoded
      exact iff_of_true .nil fun _ member => nomatch member
  | item :: items =>
      obtain ⟨native, others, rfl, first, behind⟩ := decodeItems_cons_eq_ok_iff.mp decoded
      rw [NativeValue.itemsToJson, List.forall₂_cons, nodesOfItems, unfolded_append,
        shows_iff_unfolded item first, showsItems_iff_unfolded items behind]

theorem entriesShown_iff_unfolded (entries : List (Value × Value))
    {natives : List (NativeValue × NativeValue)} (decoded : decodeEntries entries = .ok natives) :
    EachShown Json.Shows entries natives ↔ Unfolded (nodesOfEntries entries) := by
  match entries with
  | [] =>
      cases decoded
      exact iff_of_true .nil fun _ member => nomatch member
  | (key, value) :: entries =>
      obtain ⟨k, v, others, rfl, first, second, behind⟩ := decodeEntries_cons_eq_ok_iff.mp decoded
      rw [EachShown, List.forall₂_cons, ← EachShown, nodesOfEntries, unfolded_append, unfolded_append,
        shows_iff_unfolded key first, shows_iff_unfolded value second,
        entriesShown_iff_unfolded entries behind, and_assoc]

end

mutual

/-- The nodes of a node are nodes of the whole value. -/
theorem mem_nodes_of_mem_nodes (value : Value) {node inner : Value} (member : node ∈ value.nodes)
    (within : inner ∈ node.nodes) : inner ∈ value.nodes := by
  match value with
  | .vec (some items) =>
      rcases List.mem_cons.mp member with rfl | member
      · exact within
      · exact List.mem_cons_of_mem _ (mem_nodesOfItems_of_mem_nodes items member within)
  | .map (some entries) =>
      rcases List.mem_cons.mp member with rfl | member
      · exact within
      · exact List.mem_cons_of_mem _ (mem_nodesOfEntries_of_mem_nodes entries member within)
  | .string _ | .symbol _ | .address _ | .bool _ | .void | .error _ | .u32 _ | .i32 _ | .u64 _
  | .i64 _ | .timepoint _ | .duration _ | .u128 _ | .i128 _ | .u256 _ | .i256 _ | .bytes _
  | .vec none | .map none | .contractInstance .. | .ledgerKeyInstance | .ledgerKeyNonce _ =>
      obtain rfl := List.mem_singleton.mp member
      exact within

theorem mem_nodesOfItems_of_mem_nodes (items : List Value) {node inner : Value}
    (member : node ∈ nodesOfItems items) (within : inner ∈ node.nodes) :
    inner ∈ nodesOfItems items := by
  match items with
  | item :: items =>
      rw [nodesOfItems, List.mem_append] at member ⊢
      exact member.imp (mem_nodes_of_mem_nodes item · within)
        (mem_nodesOfItems_of_mem_nodes items · within)

theorem mem_nodesOfEntries_of_mem_nodes (entries : List (Value × Value)) {node inner : Value}
    (member : node ∈ nodesOfEntries entries) (within : inner ∈ node.nodes) :
    inner ∈ nodesOfEntries entries := by
  match entries with
  | (key, value) :: entries =>
      rw [nodesOfEntries, List.mem_append, List.mem_append] at member ⊢
      exact member.imp (mem_nodes_of_mem_nodes key · within)
        (Or.imp (mem_nodes_of_mem_nodes value · within)
          (mem_nodesOfEntries_of_mem_nodes entries · within))

end

theorem decodable_of_mem_nodes {value node : Value} (decodable : value.Decodable)
    (member : node ∈ value.nodes) : node.Decodable := by
  rw [decodable_iff] at decodable ⊢
  intro inner within
  exact decodable inner (mem_nodes_of_mem_nodes value member within)

theorem exists_decode_map {held : Option (List (Value × Value))}
    (decodable : (map held).Decodable) :
    ∃ natives, (map held).decode = .ok (.map natives) ∧
      decodeEntries (held.getD []) = .ok natives := by
  obtain ⟨native, decoded⟩ := decodable
  cases held with
  | none => exact ⟨[], rfl, rfl⟩
  | some entries =>
      obtain ⟨natives, decodedEntries, rfl⟩ := map_eq_ok_iff.mp decoded
      exact ⟨natives, decoded, decodedEntries⟩

theorem decodable_of_mem_keys {entries : List (Value × Value)}
    {natives : List (NativeValue × NativeValue)} (decoded : decodeEntries entries = .ok natives)
    {key : Value} (member : key ∈ entries.map Prod.fst) : key.Decodable := by
  rw [decodeEntries_eq_ok_iff] at decoded
  induction decoded with
  | nil => cases member
  | cons here behind inductionHypothesis =>
      rcases List.mem_cons.mp member with rfl | member
      · exact ⟨_, here.1⟩
      · exact inductionHypothesis member

theorem eachShown_renders {entries : List (Value × Value)}
    {natives : List (NativeValue × NativeValue)} (decoded : decodeEntries entries = .ok natives) :
    EachShown Json.Renders entries natives := by
  apply (decodeEntries_eq_ok_iff.mp decoded).imp
  rintro entry native ⟨first, second⟩
  exact ⟨⟨_, first, rfl⟩, ⟨_, second, rfl⟩⟩

/-- What is known of the JSON of a value with a native form. -/
structure Rendered (value : Value) (native : NativeValue) : Prop where
  /-- A map with different keys, wherever it is nested, is rendered with exactly one member or one
  pair for each entry, unless it is an object with a clash of keys. -/
  maps : ∀ held, .map held ∈ value.nodes → ((held.getD []).map Prod.fst).Nodup →
    ∃ natives, (map held).decode = .ok (.map natives) ∧
      ((NativeValue.map natives).toJson.ShowsEntries Json.Renders (held.getD []) ↔
        ¬ Clashes (held.getD []))
  /-- The JSON of the whole value has the entries of all maps in it, if none has a clash. -/
  whole : (∀ entries, .map (some entries) ∈ value.nodes → (entries.map Prod.fst).Nodup) →
    (native.toJson.Shows value ↔
      ∀ entries, .map (some entries) ∈ value.nodes → ¬ Clashes entries)

/-- Rendering a map loses entries just when its keys are all text and two of them are a string and
a symbol of the same bytes. -/
theorem rendered_of_decode {value : Value} {native : NativeValue}
    (decoded : value.decode = .ok native) : value.Rendered native where
  maps := by
    intro held member distinct
    obtain ⟨natives, decodedMap, decodedEntries⟩ :=
      exists_decode_map (decodable_of_mem_nodes ⟨native, decoded⟩ member)
    refine ⟨natives, decodedMap, ?_⟩
    rw [showsEntries_iff decodedEntries fun _ _ => renders_of_keyText?,
      and_iff_left (eachShown_renders decodedEntries),
      folds_iff_clashes (fun _ => decodable_of_mem_keys decodedEntries) distinct]
  whole := by
    intro distinct
    rw [shows_iff_unfolded value decoded]
    apply forall₂_congr
    intro entries member
    obtain ⟨natives, -, decodedEntries⟩ :=
      exists_decode_map (decodable_of_mem_nodes ⟨native, decoded⟩ member)
    rw [Option.getD_some] at decodedEntries
    rw [folds_iff_clashes (fun _ => decodable_of_mem_keys decodedEntries) (distinct entries member)]

/-- A map inside a map inside a vector. -/
private def nestedMaps : Value :=
  .vec (some [.map (some [(.u32 1, .map (some [(.symbol [0x61], .u32 2), (.string [0x62], .void)])),
    (.u32 2, .void)])])

private theorem nestedMaps_nodes {entries : List (Value × Value)}
    (member : .map (some entries) ∈ nestedMaps.nodes) :
    entries = [(.u32 1, .map (some [(.symbol [0x61], .u32 2), (.string [0x62], .void)])),
        (.u32 2, .void)] ∨
      entries = [(.symbol [0x61], .u32 2), (.string [0x62], .void)] := by
  simpa [nestedMaps, nodes, nodesOfItems, nodesOfEntries] using member

/-- Keys of a string and a symbol do no harm if their bytes differ, and a key that is no text makes
pairs of the outer entries. -/
theorem rendered_of_decode_nested :
    ∃ native, nestedMaps.decode = .ok native ∧ nestedMaps.Rendered native ∧
      native.toJson = .array [.array [
        .array [.int 1, .object [("a", .int 2), ("b", .null)]], .array [.int 2, .null]]] ∧
      native.toJson.Shows nestedMaps := by
  have decoded : nestedMaps.decode = .ok (.vec [.map [
      (.number 1, .map [(.string "a", .number 2), (.string "b", .void)]), (.number 2, .void)]]) :=
    rfl
  have known := rendered_of_decode decoded
  refine ⟨_, decoded, known, rfl, (known.whole ?_).mpr ?_⟩
  · intro entries member
    rcases nestedMaps_nodes member with rfl | rfl <;> simp
  · intro entries member
    rcases nestedMaps_nodes member with rfl | rfl <;> simp [Clashes]

/-- The same text as a string and as a symbol: two keys, but one member, which has the value of the
last. -/
theorem string_and_symbol_lose_entry :
    ∃ entries natives, entries = [(.string [0x61], .u32 1), (.symbol [0x61], .u32 2)] ∧
      (entries.map Prod.fst).Nodup ∧ (map (some entries)).decode = .ok (.map natives) ∧
      (NativeValue.map natives).toJson = .object [("a", .int 2)] ∧
      ¬ (NativeValue.map natives).toJson.ShowsEntries Json.Renders entries := by
  have decoded : decodeEntries [(.string [0x61], .u32 1), (.symbol [0x61], .u32 2)] =
      .ok [(.string "a", .number 1), (.string "a", .number 2)] := rfl
  refine ⟨_, [(.string "a", .number 1), (.string "a", .number 2)], rfl, by simp, rfl, rfl, ?_⟩
  rw [showsEntries_iff decoded fun _ _ => renders_of_keyText?]
  rintro ⟨unfolded, -⟩
  apply unfolded
  constructor
  · decide
  · decide

end Value

end ContractEvents
