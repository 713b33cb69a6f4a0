/-
Module: ContractEvents.Proofs.CatalogRouting
Purpose: Which event a catalog takes a record for, and that it decodes as that event.
Main exports: EventCatalog.FirstLongest, EventCatalog.find_ofDescriptors,
  EventCatalog.decode_of_found, EventCatalog.routing_exact
-/
import ContractEvents.Decoding.Catalog
import ContractEvents.Proofs.StageVerdict

namespace ContractEvents

/-!
A catalog asks every decoder whether a record matches, and takes the first of those with the longest
prefix that do.  The chosen decoder has the first two stages behind it, so that what it rejects is
rejected by its payload.
-/

namespace EventCatalog

/-- A decoder is the first of those with the longest prefix. -/
def FirstLongest (decoders : List EventDecoder) (winner : EventDecoder) : Prop :=
  ∃ before after, decoders = before ++ winner :: after ∧
    (∀ other ∈ before,
      other.descriptor.prefixTopics.length < winner.descriptor.prefixTopics.length) ∧
    ∀ other ∈ after,
      other.descriptor.prefixTopics.length ≤ winner.descriptor.prefixTopics.length

/-- The first of the items with the greatest length. -/
def firstLongest? {κ : Type} (length : κ → Nat) : List κ → Option κ
  | [] => none
  | item :: items =>
      match firstLongest? length items with
      | none => some item
      | some other => if length item < length other then some other else some item

theorem longestPrefix?_eq_firstLongest? (decoders : List EventDecoder) :
    longestPrefix? decoders = firstLongest? (·.descriptor.prefixTopics.length) decoders := by
  induction decoders with
  | nil => rfl
  | cons decoder decoders inductionHypothesis =>
      rw [longestPrefix?, firstLongest?, inductionHypothesis]
      cases firstLongest? (·.descriptor.prefixTopics.length) decoders <;> rfl

theorem firstLongest?_eq_none_iff {κ : Type} {length : κ → Nat} {items : List κ} :
    firstLongest? length items = none ↔ items = [] := by
  cases items with
  | nil => simp [firstLongest?]
  | cons item items =>
      simp only [firstLongest?, reduceCtorEq, iff_false]
      split
      · simp
      · split <;> simp

/-- In front of the first of the longest items all are shorter, and behind it none is longer. -/
theorem exists_split_of_firstLongest? {κ : Type} {length : κ → Nat} {items : List κ} {winner : κ}
    (chosen : firstLongest? length items = some winner) :
    ∃ before after, items = before ++ winner :: after ∧
      (∀ other ∈ before, length other < length winner) ∧
      ∀ other ∈ after, length other ≤ length winner := by
  induction items generalizing winner with
  | nil => cases chosen
  | cons item items inductionHypothesis =>
      cases rest : firstLongest? length items with
      | none =>
          obtain rfl := firstLongest?_eq_none_iff.mp rest
          obtain rfl : item = winner := by simpa [firstLongest?] using chosen
          exact ⟨[], [], rfl, by simp, by simp⟩
      | some other =>
          obtain ⟨before, after, rfl, shorter, noLonger⟩ := inductionHypothesis rest
          simp only [firstLongest?, rest] at chosen
          split at chosen
          · rename_i longer
            obtain rfl := Option.some.inj chosen
            refine ⟨item :: before, after, rfl, ?_, noLonger⟩
            intro earlier member
            rcases List.mem_cons.mp member with rfl | member
            · exact longer
            · exact shorter earlier member
          · rename_i notLonger
            obtain rfl := Option.some.inj chosen
            refine ⟨[], _, rfl, by simp, ?_⟩
            intro later member
            have bound := Nat.not_lt.mp notLonger
            rcases List.mem_append.mp member with inBefore | inRest
            · exact Nat.le_trans (Nat.le_of_lt (shorter later inBefore)) bound
            · rcases List.mem_cons.mp inRest with rfl | inAfter
              · exact bound
              · exact Nat.le_trans (noLonger later inAfter) bound

theorem longestPrefix?_eq_none_iff {decoders : List EventDecoder} :
    longestPrefix? decoders = none ↔ decoders = [] := by
  rw [longestPrefix?_eq_firstLongest?, firstLongest?_eq_none_iff]

theorem firstLongest_of_longestPrefix? {decoders : List EventDecoder} {winner : EventDecoder}
    (chosen : longestPrefix? decoders = some winner) : FirstLongest decoders winner := by
  rw [longestPrefix?_eq_firstLongest?] at chosen
  exact exists_split_of_firstLongest? chosen

/-! ### Finding a decoder -/

variable {σ : Type} (answer : Answers) (descriptors : List EventDescriptor) (record : EventRecord)

/-- The descriptors of the events that a record matches. -/
def matched : List EventDescriptor :=
  descriptors.filter fun descriptor => descriptor.probe answer record

theorem matching_map_compile :
    matching (.ofFunction answer) record (descriptors.map EventDecoder.compile) =
      (pure ((matched answer descriptors record).map EventDecoder.compile) :
        StateM σ (List EventDecoder)) := by
  induction descriptors with
  | nil => rfl
  | cons descriptor descriptors inductionHypothesis =>
      rw [List.map_cons, matching, EventDecoder.matchesRecord_compile, pure_bind,
        inductionHypothesis, pure_bind]
      cases probed : descriptor.probe answer record <;> simp [matched, probed]

theorem find_ofDescriptors :
    (ofDescriptors descriptors).find (.ofFunction answer) record =
      (pure (longestPrefix? ((matched answer descriptors record).map EventDecoder.compile)) :
        StateM σ (Option EventDecoder)) := by
  rw [find, ofDescriptors, matching_map_compile, pure_bind]

/-- Where the event is declared that a record is routed to: the record matches it, no matching event
has a longer prefix, and no earlier one has as long a prefix. -/
structure Routed (before : List EventDescriptor) (descriptor : EventDescriptor)
    (after : List EventDescriptor) : Prop where
  place : descriptors = before ++ descriptor :: after
  fits : descriptor.probe answer record = true
  longest : ∀ other ∈ descriptors, other.probe answer record = true →
    other.prefixTopics.length ≤ descriptor.prefixTopics.length
  first : ∀ other ∈ before, other.probe answer record = true →
    other.prefixTopics.length ≠ descriptor.prefixTopics.length

variable {answer descriptors record}

/-- Of two events that one record matches, the one with the shorter prefix has the start of the
other's prefix. -/
theorem prefix_of_matches {one two : EventDescriptor} (fitsOne : one.Matches answer record)
    (fitsTwo : two.Matches answer record)
    (noLonger : one.prefixTopics.length ≤ two.prefixTopics.length) :
    one.prefixTopics <+: two.prefixTopics := by
  rw [List.prefix_iff_getElem?]
  intro i inside
  have inTwo : i < two.prefixTopics.length := Nat.lt_of_lt_of_le inside noLonger
  have inTopics : i < record.topics.length := by
    have enough := fitsTwo.enough
    rw [EventDescriptor.expectedTopicCount] at enough
    omega
  have answeredOne := fitsOne.agrees i _ _ (List.getElem?_eq_getElem inside)
    (List.getElem?_eq_getElem inTopics)
  have answeredTwo := fitsTwo.agrees i _ _ (List.getElem?_eq_getElem inTwo)
    (List.getElem?_eq_getElem inTopics)
  have same := answeredOne.symm.trans answeredTwo
  rw [Except.ok.injEq, NativeValue.string.injEq] at same
  rw [List.getElem?_eq_getElem inTwo, same]

theorem exists_routed {winner : EventDecoder}
    (chosen : longestPrefix? ((matched answer descriptors record).map EventDecoder.compile) =
      some winner) :
    ∃ before descriptor after, winner = EventDecoder.compile descriptor ∧
      Routed answer descriptors record before descriptor after := by
  obtain ⟨earlier, later, split, shorter, noLonger⟩ := firstLongest_of_longestPrefix? chosen
  obtain ⟨earlierMatched, rest, matched_eq, rfl, rest_eq⟩ := List.map_eq_append_iff.mp split
  obtain ⟨descriptor, laterMatched, rfl, rfl, rfl⟩ := List.map_eq_cons_iff.mp rest_eq
  obtain ⟨before, others, place, before_eq, others_eq⟩ := List.filter_eq_append_iff.mp matched_eq
  obtain ⟨between, after, rfl, skipped, fits, after_eq⟩ := List.filter_eq_cons_iff.mp others_eq
  have shorter_before : ∀ other ∈ before ++ between, other.probe answer record = true →
      other.prefixTopics.length < descriptor.prefixTopics.length := by
    intro other member probed
    rcases List.mem_append.mp member with inBefore | inBetween
    · have inMatched : other ∈ earlierMatched :=
        before_eq ▸ List.mem_filter.mpr ⟨inBefore, probed⟩
      exact shorter _ (List.mem_map_of_mem inMatched)
    · exact absurd probed (skipped other inBetween)
  refine ⟨before ++ between, descriptor, after, rfl, by simpa using place, fits, ?_, ?_⟩
  · intro other member probed
    have member : other ∈ (before ++ between) ++ descriptor :: after := by
      simpa [place] using member
    rcases List.mem_append.mp member with inFront | inRest
    · exact Nat.le_of_lt (shorter_before other inFront probed)
    · rcases List.mem_cons.mp inRest with rfl | inAfter
      · exact Nat.le_refl _
      · have inMatched : other ∈ laterMatched :=
          after_eq ▸ List.mem_filter.mpr ⟨inAfter, probed⟩
        exact noLonger _ (List.mem_map_of_mem inMatched)
  · intro other member probed
    exact Nat.ne_of_lt (shorter_before other member probed)

/-! ### Decoding with the decoder that was found -/

theorem decodeWith_of_settled {decoder : EventDecoder} {event : String}
    {verdict : Except EventDecodeError DecodedEvent}
    (decoded : decoder.decode (σ := σ) (.ofFunction answer) record = settled verdict) :
    decodeWith decoder event (.ofFunction answer) record =
      (settled (verdict.mapError (.decode event)) : Routing σ DecodedEvent) := by
  rw [decodeWith, decoded]
  cases verdict <;> rfl

theorem firstTopicText_ofFunction (topics : List Value) :
    firstTopicText (.ofFunction answer) topics =
      (pure ((topics.head?.map answer.reading).getD "none") : StateM σ String) := by
  cases topics with
  | nil => rfl
  | cons topic topics =>
      cases answered : answer topic <;> simp [firstTopicText, Answers.reading, answered]

/-- A record that no decoder matches is reported with its number of topics and its first one. -/
theorem decode_of_not_found
    (missed : longestPrefix? ((matched answer descriptors record).map EventDecoder.compile) =
      none) :
    (ofDescriptors descriptors).decode (.ofFunction answer) record =
      (settled (.error (.noMatchingEvent record.topics.length
        ((record.topics.head?.map answer.reading).getD "none"))) : Routing σ DecodedEvent) := by
  rw [decode, find_ofDescriptors, lift_pure_bind, missed]
  simp only [firstTopicText_ofFunction, lift_pure_bind]
  rfl

theorem decode_of_found {decoder : EventDecoder}
    {verdict : Except EventDecodeError DecodedEvent}
    (chosen : longestPrefix? ((matched answer descriptors record).map EventDecoder.compile) =
      some decoder)
    (decoded : decoder.decode (σ := σ) (.ofFunction answer) record = settled verdict) :
    (ofDescriptors descriptors).decode (.ofFunction answer) record =
      (settled (verdict.mapError (.decode decoder.name)) : Routing σ DecodedEvent) := by
  rw [decode, find_ofDescriptors, lift_pure_bind, chosen]
  exact decodeWith_of_settled decoded

/-- Where event names are distinct, a name leads back to the decoder that has it. -/
theorem get?_name_of_nodup {before after : List EventDescriptor} {descriptor : EventDescriptor}
    (distinct : (descriptors.map (·.name)).Nodup)
    (place : descriptors = before ++ descriptor :: after) :
    (ofDescriptors descriptors).get? (EventDecoder.compile descriptor).name =
      some (EventDecoder.compile descriptor) := by
  rw [get?, List.find?_eq_some_iff_append]
  refine ⟨by simp, before.map EventDecoder.compile, after.map EventDecoder.compile,
    by simp [ofDescriptors, place], ?_⟩
  intro decoder member
  obtain ⟨other, inFront, rfl⟩ := List.mem_map.mp member
  subst place
  rw [List.map_append, List.nodup_append] at distinct
  have name_ne := distinct.2.2 _ (List.mem_map_of_mem inFront) _
    (List.mem_map_of_mem List.mem_cons_self)
  simpa [EventDecoder.name, EventDecoder.compile] using name_ne

/-- A matching record is rejected for its payload only. -/
theorem rejected_of_matches {descriptor : EventDescriptor} {stage : DecodeStage}
    {error : EventDecodeError} (fits : descriptor.Matches answer record)
    (rejected : descriptor.Rejected answer record stage error) :
    (∃ expected found, error = .unexpectedPayloadShape expected found) ∨
      ∃ names dump, error = .missingPayloadFields names dump := by
  obtain ⟨not_few, not_mismatched⟩ := EventDecoder.matches_iff_not_rejected.mp fits
  cases rejected with
  | topicCount few => exact absurd (.topicCount few) (not_few _)
  | prefixVerify enough mismatch least =>
      exact absurd (.prefixVerify enough mismatch least) (not_mismatched _)
  | payloadShape => exact .inl ⟨_, _, rfl⟩
  | fieldBind => exact .inr ⟨_, _, rfl⟩

theorem matched_eq_nil_iff :
    matched answer descriptors record = [] ↔
      ∀ descriptor ∈ descriptors, descriptor.probe answer record = false := by
  simp [matched, List.filter_eq_nil_iff]

/-- A catalog finds the first matching event with the longest prefix, and decodes a record exactly
as the decoder that it finds does. -/
theorem routing_exact (answer : Answers) (descriptors : List EventDescriptor)
    (record : EventRecord) (state : σ) :
    ∃ (found : Option EventDecoder) (outcome : Except CatalogError DecodedEvent),
      ((ofDescriptors descriptors).find (.ofFunction answer) record).run state =
          (found, state) ∧
        ((ofDescriptors descriptors).decode (.ofFunction answer) record).run.run state =
          (outcome, state) ∧
        (found = none ↔ ∀ descriptor ∈ descriptors, descriptor.probe answer record = false) ∧
        (∀ decoder, found = some decoder → ∃ before descriptor after,
          decoder = EventDecoder.compile descriptor ∧
            Routed answer descriptors record before descriptor after) ∧
        ((∃ count first, outcome = .error (.noMatchingEvent count first)) ↔ found = none) ∧
        (∀ decoder, found = some decoder → ∃ verdict,
          (decoder.decode (.ofFunction answer) record).run.run state = (verdict, state) ∧
            outcome = verdict.mapError (.decode decoder.name)) ∧
        (∀ event source, outcome = .error (.decode event source) →
          (∃ expected found, source = .unexpectedPayloadShape expected found) ∨
            ∃ names dump, source = .missingPayloadFields names dump) ∧
        ((descriptors.map (·.name)).Nodup → ∀ decoder, found = some decoder →
          ((ofDescriptors descriptors).decodeAs decoder.name (.ofFunction answer)
            record).run.run state = (outcome, state)) := by
  have searched : ((ofDescriptors descriptors).find (.ofFunction answer) record).run state =
      (longestPrefix? ((matched answer descriptors record).map EventDecoder.compile), state) := by
    rw [find_ofDescriptors]
    rfl
  have none_iff :
      longestPrefix? ((matched answer descriptors record).map EventDecoder.compile) = none ↔
        ∀ descriptor ∈ descriptors, descriptor.probe answer record = false := by
    rw [longestPrefix?_eq_none_iff, List.map_eq_nil_iff, matched_eq_nil_iff]
  cases chosen : longestPrefix? ((matched answer descriptors record).map EventDecoder.compile) with
  | none =>
      rw [chosen] at searched none_iff
      refine ⟨none, _, searched, by rw [decode_of_not_found chosen, run_settled], none_iff,
        by simp, ⟨fun _ => rfl, fun _ => ⟨_, _, rfl⟩⟩, by simp, ?_, by simp⟩
      intro event source impossible
      cases impossible
  | some decoder =>
      rw [chosen] at searched none_iff
      obtain ⟨before, descriptor, after, rfl, routed⟩ := exists_routed chosen
      have fits := (EventDecoder.probe_eq_true_iff answer).mp routed.fits
      obtain ⟨verdict, decoded⟩ :=
        EventDecoder.exists_decode_settled answer descriptor record
      refine ⟨some (EventDecoder.compile descriptor), _, searched,
        by rw [decode_of_found chosen decoded, run_settled], none_iff, ?_, ?_, ?_, ?_, ?_⟩
      · rintro decoder ⟨rfl⟩
        exact ⟨before, descriptor, after, rfl, routed⟩
      · cases verdict <;> simp [Except.mapError]
      · rintro decoder ⟨rfl⟩
        exact ⟨verdict, by rw [decoded, run_settled], rfl⟩
      · intro event source failed
        cases verdict with
        | ok event => cases failed
        | error error =>
            cases failed
            exact rejected_of_matches fits
              ((EventDecoder.verdict_eq_error_iff decoded _ _).mp ⟨rfl, rfl⟩)
      · rintro distinct decoder ⟨rfl⟩
        rw [decodeAs, get?_name_of_nodup distinct routed.place]
        simp only [decodeWith_of_settled decoded, run_settled]

end EventCatalog

end ContractEvents
