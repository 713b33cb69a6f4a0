/-
Module: ContractEvents.Proofs.PayloadNoise
Purpose: What a record may carry beside its fields, and in which order, with the same outcome.
Main exports: EventDescriptor.Idle, EventDescriptor.Padded, EventDescriptor.Varies,
  EventDecoder.SameButDump, EventDecoder.decode_of_varies
-/
import ContractEvents.Proofs.StageVerdict
import Mathlib.Data.List.Nodup

namespace ContractEvents

/-!
Topics behind the declared ones, vector items behind the declared ones, and map entries that no
field takes are noise: every field finds the value that it finds without them.  An entry is taken by
no field if its key cannot be read, names no payload field, or names what an earlier key names.
Where the keys name different things, the order of the entries does not matter either.  Only the
text of the payload, which a report on missing fields shows, tells the two records apart.
-/

namespace Answers

variable (answer : Answers) {name : String}

/-- The names that the keys of entries stand for. -/
def keyNames (entries : List (Value × Value)) : List String :=
  entries.filterMap fun entry => answer.name? entry.1

theorem mem_keyNames {entries : List (Value × Value)} {entry : Value × Value}
    (member : entry ∈ entries) (named : answer.name? entry.1 = some name) :
    name ∈ answer.keyNames entries :=
  List.mem_filterMap.mpr ⟨entry, member, named⟩

/-- Where no two keys stand for one name, the value of a name is that of any entry of the name. -/
theorem valueNamed?_eq_some_iff_mem {entries : List (Value × Value)} {value : Value}
    (distinct : (answer.keyNames entries).Nodup) :
    answer.valueNamed? name entries = some value ↔
      ∃ key, (key, value) ∈ entries ∧ answer.name? key = some name := by
  constructor
  · intro found
    obtain ⟨before, key, after, split, named, -⟩ := (answer.valueNamed?_eq_some_iff).mp found
    refine ⟨key, ?_, names_iff.mp named⟩
    rw [split]
    exact List.mem_append_right _ List.mem_cons_self
  · rintro ⟨key, member, named⟩
    apply answer.valueNamed?_of_unique member named
    obtain ⟨before, after, split⟩ := List.append_of_mem member
    have names : answer.keyNames entries =
        answer.keyNames before ++ name :: answer.keyNames after := by
      simp [keyNames, split, named]
    rw [names, List.nodup_middle, List.nodup_cons, List.mem_append, not_or] at distinct
    intro entry entryMember namesIt
    rw [split, List.mem_append, List.mem_cons] at entryMember
    rcases entryMember with inFront | here | behind
    · exact absurd (answer.mem_keyNames inFront namesIt) distinct.1.1
    · rw [here]
    · exact absurd (answer.mem_keyNames behind namesIt) distinct.1.2

theorem valueNamed?_of_perm {entries others : List (Value × Value)}
    (reordered : entries.Perm others) (distinct : (answer.keyNames entries).Nodup) :
    answer.valueNamed? name others = answer.valueNamed? name entries := by
  have distinctOthers : (answer.keyNames others).Nodup :=
    (reordered.filterMap _).nodup_iff.mp distinct
  apply Option.ext
  intro value
  rw [answer.valueNamed?_eq_some_iff_mem distinct,
    answer.valueNamed?_eq_some_iff_mem distinctOthers]
  simp only [reordered.mem_iff]

end Answers

namespace EventDescriptor

section Noise

variable (answer : Answers) (descriptor : EventDescriptor)

/-- No field takes an entry that stands behind others. -/
inductive Idle (earlier : List (Value × Value)) : Value × Value → Prop where
  | unreadable {key value : Value} {fault : ValueError} (refused : answer key = .error fault) :
      Idle earlier (key, value)
  | undeclared {key value : Value} {name : String} (named : answer.Names key name)
      (unasked : ∀ field ∈ descriptor.payloadFields, field.name ≠ name) :
      Idle earlier (key, value)
  | repeated {key value : Value} {name : String} {other : Value × Value}
      (named : answer.Names key name) (member : other ∈ earlier)
      (namedBefore : answer.Names other.1 name) :
      Idle earlier (key, value)

/-- Entries with idle ones put in at any positions; in front of both stand the same entries. -/
inductive Padded : List (Value × Value) → List (Value × Value) → List (Value × Value) → Prop where
  | done (earlier : List (Value × Value)) : Padded earlier [] []
  | kept {earlier entries padded : List (Value × Value)} (entry : Value × Value)
      (others : Padded (earlier ++ [entry]) entries padded) :
      Padded earlier (entry :: entries) (entry :: padded)
  | inserted {earlier entries padded : List (Value × Value)} {entry : Value × Value}
      (idle : descriptor.Idle answer earlier entry)
      (others : Padded (earlier ++ [entry]) entries padded) :
      Padded earlier entries (entry :: padded)

/-- A payload with more in it that no field takes. -/
inductive PaddedPayload : Value → Value → Prop where
  | same (payload : Value) : PaddedPayload payload payload
  | map {entries padded : Option (List (Value × Value))} (shape : descriptor.payloadShape = .map)
      (inserted : descriptor.Padded answer [] (entries.getD []) (padded.getD [])) :
      PaddedPayload (.map entries) (.map padded)
  | vector {items longer : Option (List Value)} (shape : descriptor.payloadShape = .vector)
      (enough : descriptor.payloadFields.length ≤ (items.getD []).length)
      (appended : items.getD [] <+: longer.getD []) :
      PaddedPayload (.vec items) (.vec longer)

/-- Two records that differ in noise, or in the order of map entries whose keys stand for different
names. -/
inductive Varies (record : EventRecord) : EventRecord → Prop where
  | noise {other : EventRecord}
      (enough : descriptor.expectedTopicCount ≤ record.topics.length)
      (topics : record.topics <+: other.topics)
      (payload : descriptor.PaddedPayload answer record.payload other.payload) :
      Varies record other
  | reordered {entries others : List (Value × Value)} (shape : descriptor.payloadShape = .map)
      (payload : record.payload = .map (some entries)) (distinct : (answer.keyNames entries).Nodup)
      (perm : entries.Perm others) :
      Varies record ⟨record.topics, .map (some others)⟩

end Noise

variable {answer : Answers} {descriptor : EventDescriptor} {record other : EventRecord}

/-! ### What the fields find -/

/-- An idle entry is not the one that a payload field finds. -/
theorem Idle.valueNamed?_eq {earlier : List (Value × Value)} {entry : Value × Value}
    (idle : descriptor.Idle answer earlier entry) {field : EventField}
    (declared : field ∈ descriptor.payloadFields) (entries : List (Value × Value)) :
    answer.valueNamed? field.name (earlier ++ entry :: entries) =
      answer.valueNamed? field.name (earlier ++ entries) := by
  rw [answer.valueNamed?_append, answer.valueNamed?_append]
  by_cases named : answer.name? entry.1 = some field.name
  · -- The entry has the name of the field, so an earlier one has it too.
    have found : (answer.valueNamed? field.name earlier).isSome = true := by
      cases idle with
      | unreadable refused => simp [Answers.name?, refused] at named
      | undeclared names unasked =>
          rw [Answers.names_iff.mp names, Option.some.injEq] at named
          exact absurd named.symm (unasked field declared)
      | repeated names member namedBefore =>
          rw [Answers.names_iff.mp names, Option.some.injEq] at named
          rw [named] at namedBefore
          exact answer.isSome_valueNamed? member (Answers.names_iff.mp namedBefore)
    rw [Option.or_of_isSome found, Option.or_of_isSome found]
  · rw [answer.valueNamed?_cons_of_unnamed entries named]

theorem Padded.valueNamed?_eq {earlier entries padded : List (Value × Value)}
    (inserted : descriptor.Padded answer earlier entries padded) {field : EventField}
    (declared : field ∈ descriptor.payloadFields) :
    answer.valueNamed? field.name (earlier ++ padded) =
      answer.valueNamed? field.name (earlier ++ entries) := by
  induction inserted with
  | done earlier => rfl
  | kept entry others inductionHypothesis =>
      rw [List.append_assoc, List.append_assoc] at inductionHypothesis
      exact inductionHypothesis
  | inserted idle others inductionHypothesis =>
      rw [List.append_assoc, List.append_assoc] at inductionHypothesis
      exact inductionHypothesis.trans (idle.valueNamed?_eq declared _)

theorem getElem?_eq_of_prefix {α : Type} {values longer : List α} (front : values <+: longer)
    {i : Nat} (inside : i < values.length) : longer[i]? = values[i]? := by
  obtain ⟨behind, rfl⟩ := front
  exact List.getElem?_append_left inside

theorem fieldValue?_of_payload_eq {slot : Nat} {field : EventField}
    (located : field.location = .payload) (same : other.payload = record.payload) :
    descriptor.fieldValue? answer other slot field =
      descriptor.fieldValue? answer record slot field := by
  cases shape : descriptor.payloadShape <;> simp only [fieldValue?, located, shape, same]

/-- The payload fields find in a padded payload what they find without the noise. -/
theorem PaddedPayload.fieldValue?_eq
    (padded : descriptor.PaddedPayload answer record.payload other.payload) {slot : Nat}
    {field : EventField} (fieldAt : descriptor.fields[slot]? = some field)
    (located : field.location = .payload) :
    descriptor.fieldValue? answer other slot field =
      descriptor.fieldValue? answer record slot field := by
  generalize held : record.payload = before at padded
  generalize holds : other.payload = after at padded
  cases padded with
  | same => exact fieldValue?_of_payload_eq located (holds.trans held.symm)
  | map shape inserted =>
      have declared : field ∈ descriptor.payloadFields :=
        List.mem_filter.mpr ⟨List.mem_of_getElem? fieldAt, by simpa using located⟩
      have found := inserted.valueNamed?_eq declared
      rw [List.nil_append, List.nil_append] at found
      simp only [fieldValue?, located, shape, held, holds, EventDecoder.entriesOf_map, found]
  | vector shape enough appended =>
      have found := getElem?_eq_of_prefix appended
        (Nat.lt_of_lt_of_le (rank_lt fieldAt located) enough)
      simp only [fieldValue?, located, shape, held, holds, EventDecoder.itemsOf_vec, found]

/-- The payload fields find the same in whatever order the entries stand. -/
theorem fieldValue?_of_perm {entries others : List (Value × Value)}
    (shape : descriptor.payloadShape = .map) (payload : record.payload = .map (some entries))
    (distinct : (answer.keyNames entries).Nodup) (perm : entries.Perm others) {slot : Nat}
    {field : EventField} (located : field.location = .payload) :
    descriptor.fieldValue? answer ⟨record.topics, .map (some others)⟩ slot field =
      descriptor.fieldValue? answer record slot field := by
  simp only [fieldValue?, located, shape, payload, EventDecoder.entriesOf_map, Option.getD_some,
    answer.valueNamed?_of_perm perm distinct]

/-! ### The same offer -/

/-- A record offers every field what another one offers, in a payload of the same kind. -/
structure SameOffer (answer : Answers) (descriptor : EventDescriptor)
    (record other : EventRecord) : Prop where
  topics : other.topics = record.topics ∨
    descriptor.expectedTopicCount ≤ record.topics.length ∧ record.topics <+: other.topics
  tag : other.payload.tag = record.payload.tag
  misshapen : descriptor.Misshapen other.payload ↔ descriptor.Misshapen record.payload
  payload : ∀ (slot : Nat) (field : EventField), descriptor.fields[slot]? = some field →
    field.location = .payload →
      descriptor.fieldValue? answer other slot field =
        descriptor.fieldValue? answer record slot field

theorem PaddedPayload.tag_eq {payload padded : Value}
    (paddedPayload : descriptor.PaddedPayload answer payload padded) :
    padded.tag = payload.tag := by
  cases paddedPayload <;> rfl

theorem PaddedPayload.misshapen_iff {payload padded : Value}
    (paddedPayload : descriptor.PaddedPayload answer payload padded) :
    descriptor.Misshapen padded ↔ descriptor.Misshapen payload := by
  cases paddedPayload with
  | same => exact Iff.rfl
  | map shape inserted => simp [Misshapen, shape]
  | vector shape enough appended => simp [Misshapen, shape]

theorem Varies.sameOffer (varies : descriptor.Varies answer record other) :
    SameOffer answer descriptor record other := by
  cases varies with
  | noise enough topics payload =>
      exact ⟨.inr ⟨enough, topics⟩, payload.tag_eq, payload.misshapen_iff,
        fun slot field fieldAt located => payload.fieldValue?_eq fieldAt located⟩
  | reordered shape payload distinct perm =>
      refine ⟨.inl rfl, by rw [payload]; rfl, by simp [Misshapen, shape, payload], ?_⟩
      intro slot field fieldAt located
      exact fieldValue?_of_perm shape payload distinct perm located

namespace SameOffer

variable (offer : SameOffer answer descriptor record other)
include offer

theorem enough_iff : descriptor.expectedTopicCount ≤ other.topics.length ↔
    descriptor.expectedTopicCount ≤ record.topics.length := by
  rcases offer.topics with same | ⟨enough, front⟩
  · rw [same]
  · exact ⟨fun _ => enough, fun _ => Nat.le_trans enough front.length_le⟩

/-- The topics that the event asks for are the same. -/
theorem topic_eq {i : Nat} (asked : i < descriptor.expectedTopicCount) :
    other.topics[i]? = record.topics[i]? := by
  rcases offer.topics with same | ⟨enough, front⟩
  · rw [same]
  · exact getElem?_eq_of_prefix front (Nat.lt_of_lt_of_le asked enough)

theorem mismatch_iff {i : Nat} {literal : String} {topic : Value} :
    descriptor.Mismatch answer other i literal topic ↔
      descriptor.Mismatch answer record i literal topic := by
  have asked (literalAt : descriptor.prefixTopics[i]? = some literal) :
      i < descriptor.expectedTopicCount := by
    obtain ⟨inside, -⟩ := List.getElem?_eq_some_iff.mp literalAt
    exact Nat.lt_of_lt_of_le inside (Nat.le_add_right ..)
  constructor
  · rintro ⟨literalAt, topicAt, differs⟩
    exact ⟨literalAt, by rwa [← offer.topic_eq (asked literalAt)], differs⟩
  · rintro ⟨literalAt, topicAt, differs⟩
    exact ⟨literalAt, by rwa [offer.topic_eq (asked literalAt)], differs⟩

theorem prefixAgrees_iff : descriptor.PrefixAgrees answer other ↔
    descriptor.PrefixAgrees answer record := by
  have agrees_iff (held : EventRecord) : descriptor.PrefixAgrees answer held ↔
      ∀ i literal topic, ¬ descriptor.Mismatch answer held i literal topic := by
    constructor
    · intro agrees i literal topic mismatch
      exact mismatch.differs (agrees i literal topic mismatch.literalAt mismatch.topicAt)
    · intro none_differs i literal topic literalAt topicAt
      by_contra differs
      exact none_differs i literal topic ⟨literalAt, topicAt, differs⟩
  simp only [agrees_iff, offer.mismatch_iff]

theorem matches_iff : descriptor.Matches answer other ↔ descriptor.Matches answer record := by
  constructor
  · intro fits
    exact ⟨offer.enough_iff.mp fits.enough, offer.prefixAgrees_iff.mp fits.agrees⟩
  · intro fits
    exact ⟨offer.enough_iff.mpr fits.enough, offer.prefixAgrees_iff.mpr fits.agrees⟩

/-- Every field finds the same. -/
theorem bindings_eq : descriptor.bindings answer other = descriptor.bindings answer record := by
  apply List.ext_getElem?
  intro slot
  cases fieldAt : descriptor.fields[slot]? with
  | none =>
      have beyond := List.getElem?_eq_none_iff.mp fieldAt
      rw [List.getElem?_eq_none (by simpa using beyond),
        List.getElem?_eq_none (by simpa using beyond)]
  | some field =>
      rw [getElem?_bindings fieldAt, getElem?_bindings fieldAt, Option.some.injEq]
      cases located : field.location with
      | topicList =>
          have asked := Nat.add_lt_add_left (rank_lt fieldAt located) descriptor.prefixTopics.length
          rw [fieldValue?, fieldValue?, located]
          exact offer.topic_eq asked
      | payload => exact offer.payload slot field fieldAt located

theorem payloadUnbound_iff : descriptor.PayloadUnbound answer other ↔
    descriptor.PayloadUnbound answer record := by
  simp only [PayloadUnbound]
  constructor
  · rintro ⟨slot, field, fieldAt, located, free⟩
    exact ⟨slot, field, fieldAt, located, by rwa [← offer.payload slot field fieldAt located]⟩
  · rintro ⟨slot, field, fieldAt, located, free⟩
    exact ⟨slot, field, fieldAt, located, by rwa [offer.payload slot field fieldAt located]⟩

end SameOffer

end EventDescriptor

namespace EventDecoder

variable {σ : Type} {answer : Answers} {descriptor : EventDescriptor}
  {record other : EventRecord}

/-- Two verdicts are the same, but for the text of the payload in a report on missing fields. -/
inductive SameButDump : Except EventDecodeError DecodedEvent →
    Except EventDecodeError DecodedEvent → Prop where
  | same (verdict : Except EventDecodeError DecodedEvent) : SameButDump verdict verdict
  | missing (names : List String) (dump otherDump : String) :
      SameButDump (.error (.missingPayloadFields names dump))
        (.error (.missingPayloadFields names otherDump))

/-- A rejected record is rejected with the same error when the fields find the same. -/
theorem exists_rejected_of_sameOffer {stage : DecodeStage} {error : EventDecodeError}
    (offer : EventDescriptor.SameOffer answer descriptor record other)
    (rejected : descriptor.Rejected answer record stage error) :
    ∃ otherError, descriptor.Rejected answer other stage otherError ∧
      SameButDump (.error error) (.error otherError) := by
  cases rejected with
  | topicCount few =>
      rcases offer.topics with same | ⟨enough, -⟩
      · rw [← same] at few ⊢
        exact ⟨_, .topicCount few, .same _⟩
      · exact absurd few (Nat.not_lt.mpr enough)
  | prefixVerify enough mismatch least =>
      refine ⟨_, .prefixVerify (offer.enough_iff.mpr enough) (offer.mismatch_iff.mpr mismatch) ?_,
        .same _⟩
      intro j before literal topic earlier
      exact least j before literal topic (offer.mismatch_iff.mp earlier)
  | payloadShape fits misshapen =>
      rw [← offer.tag]
      exact ⟨_, .payloadShape (offer.matches_iff.mpr fits) (offer.misshapen.mpr misshapen),
        .same _⟩
  | fieldBind fits shaped unbound =>
      rw [← offer.bindings_eq]
      exact ⟨_, .fieldBind (offer.matches_iff.mpr fits)
        (fun misshapen => shaped (offer.misshapen.mp misshapen))
        (offer.payloadUnbound_iff.mpr unbound), .missing ..⟩

/-- Noise in a record, and the order of map entries whose keys stand for different names, change
nothing: the record is decoded to the same event, or rejected with the same error up to the text of
the payload. -/
theorem decode_of_varies (varies : descriptor.Varies answer record other) (state : σ) :
    ∃ verdict otherVerdict,
      ((compile descriptor).decode (.ofFunction answer) record).run.run state =
          (verdict, state) ∧
        ((compile descriptor).decode (.ofFunction answer) other).run.run state =
          (otherVerdict, state) ∧
        SameButDump verdict otherVerdict := by
  have offer := varies.sameOffer
  rcases EventDescriptor.rejected_or_accepted answer descriptor record with
    ⟨stage, error, rejected⟩ | accepted
  · obtain ⟨otherError, otherRejected, same⟩ := exists_rejected_of_sameOffer offer rejected
    refine ⟨_, _, ?_, ?_, same⟩
    · rw [decode_of_rejected rejected, run_settled]
    · rw [decode_of_rejected otherRejected, run_settled]
  · have otherAccepted : descriptor.Accepted answer other :=
      ⟨offer.matches_iff.mpr accepted.fits,
        fun misshapen => accepted.shaped (offer.misshapen.mp misshapen),
        fun unbound => accepted.bound (offer.payloadUnbound_iff.mp unbound)⟩
    refine ⟨.ok (.ofRaw (compile descriptor).layout
      ((descriptor.bindings answer record).filterMap id)), _, ?_, ?_, .same _⟩
    · rw [decode_of_accepted accepted, run_settled]
    · rw [decode_of_accepted otherAccepted, offer.bindings_eq, run_settled]

/-! ### A noisy record -/

private def swap : EventDescriptor where
  name := "swap"
  prefixTopics := ["swap"]
  fields := [⟨"to", .u32, .topicList, none⟩, ⟨"sold", .u32, .payload, none⟩,
    ⟨"bought", .u32, .payload, none⟩]
  payloadShape := .map

private def soldKey : Value := .symbol [0x73, 0x6F, 0x6C, 0x64]

private def boughtKey : Value := .symbol [0x62, 0x6F, 0x75, 0x67, 0x68, 0x74]

private def plainSwap : EventRecord where
  topics := [.symbol [0x73, 0x77, 0x61, 0x70], .u32 7]
  payload := .map (some [(soldKey, .u32 1), (boughtKey, .u32 2)])

/-- Another topic, a key that is not text, a name that comes twice, and one that is not declared. -/
private def noisySwap : EventRecord where
  topics := [.symbol [0x73, 0x77, 0x61, 0x70], .u32 7, .void]
  payload := .map (some [(.string [0xFF], .u32 9), (soldKey, .u32 1),
    (.string [0x73, 0x6F, 0x6C, 0x64], .u32 8), (.bool true, .void), (boughtKey, .u32 2)])

private theorem noisySwap_varies : swap.Varies Value.decode plainSwap noisySwap := by
  refine .noise (by decide) ⟨[.void], rfl⟩ (.map rfl ?_)
  apply EventDescriptor.Padded.inserted (.unreadable rfl)
  apply EventDescriptor.Padded.kept
  apply EventDescriptor.Padded.inserted
  · exact .repeated (.inl rfl) (List.mem_cons_of_mem _ List.mem_cons_self) (.inl rfl)
  apply EventDescriptor.Padded.inserted
  · exact .undeclared (.inr ⟨.bool true, rfl, rfl, rfl⟩) (by decide)
  apply EventDescriptor.Padded.kept
  exact .done _

/-- A noisy swap is decoded to the same event as the plain one. -/
theorem decode_of_varies_swap :
    swap.Varies Value.decode plainSwap noisySwap ∧
      ∃ event, ((compile swap).decode (.ofFunction Value.decode) plainSwap).run.run () =
          (.ok event, ()) ∧
        ((compile swap).decode (.ofFunction Value.decode) noisySwap).run.run () =
          (.ok event, ()) := by
  refine ⟨noisySwap_varies, ?_⟩
  obtain ⟨verdict, otherVerdict, ran, ranOther, same⟩ := decode_of_varies noisySwap_varies ()
  obtain rfl : .ok (.ofRaw (compile swap).layout [.u32 7, .u32 1, .u32 2]) = verdict :=
    congrArg Prod.fst ran
  cases same
  exact ⟨_, ran, ranOther⟩

end EventDecoder

end ContractEvents
