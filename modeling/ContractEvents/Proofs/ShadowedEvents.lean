/-
Module: ContractEvents.Proofs.ShadowedEvents
Purpose: Which declared events no record can ever be routed to.
Main exports: EventCatalog.findPlaced, EventCatalog.find_eq_findPlaced,
  EventCatalog.findPlaced_eq_iff, EventCatalog.Shadowed, EventCatalog.found_at_iff
-/
import ContractEvents.Proofs.DeclarationOrder
import ContractEvents.Proofs.Utf8RoundTrip
import ContractEvents.Proofs.ValueRoundTrip

namespace ContractEvents

/-!
Events may be declared twice, so a found decoder alone does not tell which declaration it is of.
The search is therefore also carried out on decoders that stand beside their positions; without the
positions it is the search of the catalog.  An event is shadowed by an earlier one that has the same
prefix and asks for no more topics, since that one matches every record that the event matches.  Any
other event is found in a record with its literals and no text behind them: a longer prefix has a
literal where that record has a topic that is no text, or has no topic at all.
-/

namespace EventCatalog

variable {σ : Type}

/-! ### The search with positions -/

/-- The decoders that a record matches, in order, with their positions. -/
def matchingPlaced (values : ValueDecoder σ) (record : EventRecord) :
    List (EventDecoder × Nat) → StateM σ (List (EventDecoder × Nat))
  | [] => return []
  | placed :: others => do
      let found ← placed.1.matchesRecord values record
      let rest ← matchingPlaced values record others
      return if found then placed :: rest else rest

/-- The decoder that a record belongs to, with its position in the catalog. -/
def findPlaced (catalog : EventCatalog) (values : ValueDecoder σ) (record : EventRecord) :
    StateM σ (Option (EventDecoder × Nat)) := do
  return firstLongest? (·.1.descriptor.prefixTopics.length)
    (← matchingPlaced values record catalog.decoders.zipIdx)

theorem map_firstLongest? {κ μ : Type} (f : κ → μ) (length : μ → Nat) (items : List κ) :
    firstLongest? length (items.map f) =
      (firstLongest? (fun item => length (f item)) items).map f := by
  induction items with
  | nil => rfl
  | cons item items inductionHypothesis =>
      rw [List.map_cons, firstLongest?, firstLongest?, inductionHypothesis]
      cases firstLongest? (fun item => length (f item)) items with
      | none => rfl
      | some other =>
          simp only [Option.map_some]
          split <;> rfl

theorem matching_map_fst (values : ValueDecoder σ) (record : EventRecord)
    (placed : List (EventDecoder × Nat)) :
    matching values record (placed.map (·.1)) =
      (fun found => found.map (·.1)) <$> matchingPlaced values record placed := by
  induction placed with
  | nil => rfl
  | cons entry placed inductionHypothesis =>
      rw [List.map_cons, matching, matchingPlaced, inductionHypothesis]
      simp only [map_eq_pure_bind, bind_assoc, pure_bind]
      refine bind_congr fun found => bind_congr fun others => ?_
      cases found <;> rfl

/-- Without the positions, the search is the search of the catalog. -/
theorem find_eq_findPlaced (catalog : EventCatalog) (values : ValueDecoder σ)
    (record : EventRecord) :
    catalog.find values record =
      (fun found => found.map (·.1)) <$> catalog.findPlaced values record := by
  have decoders : catalog.decoders.zipIdx.map (·.1) = catalog.decoders :=
    List.zipIdx_map_fst 0 catalog.decoders
  have searched := matching_map_fst values record catalog.decoders.zipIdx
  rw [decoders] at searched
  rw [find, findPlaced, searched]
  simp only [map_eq_pure_bind, bind_assoc, pure_bind, longestPrefix?_eq_firstLongest?,
    map_firstLongest?]

/-! ### Where a record is found -/

variable {answer : Answers} {descriptors : List EventDescriptor} {record : EventRecord}

/-- The descriptors that a record matches, with their positions. -/
def matchedPlaced (answer : Answers) (descriptors : List EventDescriptor)
    (record : EventRecord) : List (EventDescriptor × Nat) :=
  descriptors.zipIdx.filter fun placed => placed.1.probe answer record

theorem mem_matchedPlaced {descriptor : EventDescriptor} {p : Nat} :
    (descriptor, p) ∈ matchedPlaced answer descriptors record ↔
      descriptors[p]? = some descriptor ∧ descriptor.Matches answer record := by
  rw [matchedPlaced, List.mem_filter, List.mem_zipIdx_iff_getElem?,
    EventDecoder.probe_eq_true_iff]

theorem matchedPlaced_pairwise (answer : Answers) (descriptors : List EventDescriptor)
    (record : EventRecord) :
    (matchedPlaced answer descriptors record).Pairwise fun one two => one.2 < two.2 := by
  have positions : (descriptors.zipIdx.map (·.2)).Pairwise (· < ·) := by
    rw [List.zipIdx_map_snd]
    exact List.pairwise_lt_range'
  exact (List.pairwise_map.mp positions).filter _

theorem matchingPlaced_map_compile (placed : List (EventDescriptor × Nat)) :
    matchingPlaced (.ofFunction answer) record
        (placed.map fun entry => (EventDecoder.compile entry.1, entry.2)) =
      (pure ((placed.filter fun entry => entry.1.probe answer record).map fun entry =>
        (EventDecoder.compile entry.1, entry.2)) : StateM σ (List (EventDecoder × Nat))) := by
  induction placed with
  | nil => rfl
  | cons entry placed inductionHypothesis =>
      rw [List.map_cons, matchingPlaced, EventDecoder.matchesRecord_compile, pure_bind,
        inductionHypothesis, pure_bind]
      cases probed : entry.1.probe answer record <;> simp [probed]

theorem findPlaced_ofDescriptors :
    (ofDescriptors descriptors).findPlaced (.ofFunction answer) record =
      (pure ((firstLongest? (·.1.prefixTopics.length)
        (matchedPlaced answer descriptors record)).map fun entry =>
          (EventDecoder.compile entry.1, entry.2)) : StateM σ (Option (EventDecoder × Nat))) := by
  have decoders : (ofDescriptors descriptors).decoders.zipIdx =
      descriptors.zipIdx.map fun entry => (EventDecoder.compile entry.1, entry.2) := by
    rw [ofDescriptors, List.zipIdx_map]
    rfl
  rw [findPlaced, decoders, matchingPlaced_map_compile, pure_bind, map_firstLongest?]
  rfl

/-- The event at a position wins over every other that a record matches: it has a longer prefix than
those in front of it, and no shorter one than the others. -/
structure WinsAt (answer : Answers) (descriptors : List EventDescriptor) (record : EventRecord)
    (descriptor : EventDescriptor) (p : Nat) : Prop where
  place : descriptors[p]? = some descriptor
  fits : descriptor.Matches answer record
  first : ∀ (q : Nat) (other : EventDescriptor), q < p → descriptors[q]? = some other →
    other.Matches answer record → other.prefixTopics.length < descriptor.prefixTopics.length
  longest : ∀ (q : Nat) (other : EventDescriptor), descriptors[q]? = some other →
    other.Matches answer record → other.prefixTopics.length ≤ descriptor.prefixTopics.length

theorem winsAt_of_chosen {descriptor : EventDescriptor} {p : Nat}
    (chosen : firstLongest? (·.1.prefixTopics.length) (matchedPlaced answer descriptors record) =
      some (descriptor, p)) : WinsAt answer descriptors record descriptor p := by
  obtain ⟨before, after, split, shorter, noLonger⟩ := exists_split_of_firstLongest? chosen
  have member : (descriptor, p) ∈ matchedPlaced answer descriptors record := by simp [split]
  obtain ⟨place, fits⟩ := mem_matchedPlaced.mp member
  have ordered := matchedPlaced_pairwise answer descriptors record
  rw [split, List.pairwise_append, List.pairwise_cons] at ordered
  have behind : ∀ entry ∈ after, p < entry.2 := ordered.2.1.1
  have located : ∀ q other, descriptors[q]? = some other → other.Matches answer record →
      (other, q) ∈ before ∨ (other, q) = (descriptor, p) ∨ (other, q) ∈ after := by
    intro q other otherAt otherFits
    have inMatched := mem_matchedPlaced.mpr ⟨otherAt, otherFits⟩
    rwa [split, List.mem_append, List.mem_cons] at inMatched
  refine ⟨place, fits, ?_, ?_⟩
  · intro q other earlier otherAt otherFits
    rcases located q other otherAt otherFits with inFront | here | inRest
    · exact shorter _ inFront
    · obtain ⟨rfl, rfl⟩ := Prod.mk.inj here
      exact absurd earlier (Nat.lt_irrefl _)
    · exact absurd earlier (Nat.lt_asymm (behind _ inRest))
  · intro q other otherAt otherFits
    rcases located q other otherAt otherFits with inFront | here | inRest
    · exact Nat.le_of_lt (shorter _ inFront)
    · obtain ⟨rfl, rfl⟩ := Prod.mk.inj here
      exact Nat.le_refl _
    · exact noLonger _ inRest

/-- At most one position wins. -/
theorem WinsAt.unique {one two : EventDescriptor} {p q : Nat}
    (first : WinsAt answer descriptors record one p)
    (second : WinsAt answer descriptors record two q) : one = two ∧ p = q := by
  have notBefore : ¬ p < q := fun before =>
    Nat.lt_irrefl _ (Nat.lt_of_lt_of_le (second.first p one before first.place first.fits)
      (first.longest q two second.place second.fits))
  have notBehind : ¬ q < p := fun before =>
    Nat.lt_irrefl _ (Nat.lt_of_lt_of_le (first.first q two before second.place second.fits)
      (second.longest p one first.place first.fits))
  obtain rfl : p = q := Nat.le_antisymm (Nat.not_lt.mp notBehind) (Nat.not_lt.mp notBefore)
  exact ⟨Option.some.inj (first.place.symm.trans second.place), rfl⟩

theorem chosen_eq_some_iff {descriptor : EventDescriptor} {p : Nat} :
    firstLongest? (·.1.prefixTopics.length) (matchedPlaced answer descriptors record) =
        some (descriptor, p) ↔
      WinsAt answer descriptors record descriptor p := by
  constructor
  · exact winsAt_of_chosen
  · intro wins
    cases chosen : firstLongest? (·.1.prefixTopics.length)
        (matchedPlaced answer descriptors record) with
    | none =>
        have nothing := firstLongest?_eq_none_iff.mp chosen
        have member := mem_matchedPlaced.mpr ⟨wins.place, wins.fits⟩
        rw [nothing] at member
        cases member
    | some found =>
        obtain ⟨rfl, rfl⟩ := (winsAt_of_chosen chosen).unique wins
        rfl

/-- The search finds the event at a position exactly if that wins. -/
theorem findPlaced_eq_iff {descriptor : EventDescriptor} {p : Nat}
    (place : descriptors[p]? = some descriptor) (state : σ) :
    ((ofDescriptors descriptors).findPlaced (.ofFunction answer) record).run state =
        (some (EventDecoder.compile descriptor, p), state) ↔
      WinsAt answer descriptors record descriptor p := by
  rw [findPlaced_ofDescriptors, ← chosen_eq_some_iff]
  constructor
  · intro found
    obtain ⟨⟨other, q⟩, chosen, same⟩ := Option.map_eq_some_iff.mp (congrArg Prod.fst found)
    obtain ⟨compiled, rfl⟩ := Prod.mk.inj same
    obtain rfl : other = descriptor := congrArg EventDecoder.descriptor compiled
    exact chosen
  · intro chosen
    rw [chosen]
    rfl

/-! ### Shadowed events -/

/-- An event comes too late behind another one with the same prefix that asks for no more topics. -/
def Shadowed (descriptors : List EventDescriptor) (descriptor : EventDescriptor) (p : Nat) : Prop :=
  ∃ q earlier, q < p ∧ descriptors[q]? = some earlier ∧
    earlier.prefixTopics = descriptor.prefixTopics ∧
    earlier.topicFields.length ≤ descriptor.topicFields.length

/-- A record that an event matches is matched by every event with the same prefix that asks for no
more topics. -/
theorem matches_of_prefix_eq {earlier descriptor : EventDescriptor}
    (samePrefix : earlier.prefixTopics = descriptor.prefixTopics)
    (noMore : earlier.topicFields.length ≤ descriptor.topicFields.length)
    (fits : descriptor.Matches answer record) : earlier.Matches answer record where
  enough := by
    have enough := fits.enough
    rw [EventDescriptor.expectedTopicCount] at enough ⊢
    rw [samePrefix]
    omega
  agrees := by
    intro i literal topic literalAt topicAt
    rw [samePrefix] at literalAt
    exact fits.agrees i literal topic literalAt topicAt

theorem not_shadowed_of_winsAt {descriptor : EventDescriptor} {p : Nat}
    (wins : WinsAt answer descriptors record descriptor p) :
    ¬ Shadowed descriptors descriptor p := by
  rintro ⟨q, earlier, before, earlierAt, samePrefix, noMore⟩
  have shorter := wins.first q earlier before earlierAt
    (matches_of_prefix_eq samePrefix noMore wins.fits)
  rw [samePrefix] at shorter
  exact Nat.lt_irrefl _ shorter

/-- The literals of an event as string topics, and topics without text for its topic fields. -/
def ownRecord (descriptor : EventDescriptor) : EventRecord where
  topics := (descriptor.prefixTopics.map fun literal => Value.string (Utf8.encode literal)) ++
    List.replicate descriptor.topicFields.length .void
  payload := .void

theorem length_topics_ownRecord (descriptor : EventDescriptor) :
    (ownRecord descriptor).topics.length = descriptor.expectedTopicCount := by
  simp [ownRecord, EventDescriptor.expectedTopicCount]

theorem ownRecord_matches (descriptor : EventDescriptor) :
    descriptor.Matches Value.decode (ownRecord descriptor) where
  enough := Nat.le_of_eq (length_topics_ownRecord descriptor).symm
  agrees := by
    intro i literal topic literalAt topicAt
    have held : (ownRecord descriptor).topics[i]? = some (.string (Utf8.encode literal)) := by
      obtain ⟨inside, -⟩ := List.getElem?_eq_some_iff.mp literalAt
      rw [ownRecord, List.getElem?_append_left (by simpa using inside), List.getElem?_map,
        literalAt]
      rfl
    obtain rfl := Option.some.inj (held.symm.trans topicAt)
    rw [Value.decode, textOfBytes, Utf8.decode_encode]
    rfl

/-- Whatever else matches the record of an event has no longer prefix: behind the literals of the
event stands no text. -/
theorem length_le_of_matches_ownRecord {descriptor other : EventDescriptor}
    (fits : other.Matches Value.decode (ownRecord descriptor)) :
    other.prefixTopics.length ≤ descriptor.prefixTopics.length := by
  by_contra longer
  have beyond : descriptor.prefixTopics.length < other.prefixTopics.length :=
    Nat.lt_of_not_le longer
  have enough := fits.enough
  rw [length_topics_ownRecord, EventDescriptor.expectedTopicCount,
    EventDescriptor.expectedTopicCount] at enough
  have topicAt : (ownRecord descriptor).topics[descriptor.prefixTopics.length]? = some .void := by
    rw [ownRecord, List.getElem?_append_right (by simp), List.length_map, Nat.sub_self,
      List.getElem?_replicate, if_pos (by omega)]
  have answered := fits.agrees _ _ _ (List.getElem?_eq_getElem beyond) topicAt
  cases answered

theorem winsAt_ownRecord {descriptor : EventDescriptor} {p : Nat}
    (place : descriptors[p]? = some descriptor) (alive : ¬ Shadowed descriptors descriptor p) :
    WinsAt Value.decode descriptors (ownRecord descriptor) descriptor p where
  place := place
  fits := ownRecord_matches descriptor
  first := by
    intro q other before otherAt otherFits
    refine Nat.lt_of_le_of_ne (length_le_of_matches_ownRecord otherFits) fun sameLength => ?_
    have samePrefix := prefix_eq_of_matches otherFits (ownRecord_matches descriptor) sameLength
    refine alive ⟨q, other, before, otherAt, samePrefix, ?_⟩
    have enough := otherFits.enough
    rw [length_topics_ownRecord, EventDescriptor.expectedTopicCount,
      EventDescriptor.expectedTopicCount] at enough
    omega
  longest := fun _ _ _ otherFits => length_le_of_matches_ownRecord otherFits

/-! ### Records on the wire -/

theorem sized_ownRecord {descriptor : EventDescriptor}
    (fit : ∀ literal ∈ descriptor.prefixTopics,
      (Utf8.encode literal).length ≤ Xdr.Reader.unbounded) :
    (∀ topic ∈ (ownRecord descriptor).topics, topic.Sized) ∧
      (ownRecord descriptor).payload.Sized := by
  refine ⟨?_, trivial⟩
  intro topic member
  rcases List.mem_append.mp member with inPrefix | behind
  · obtain ⟨literal, declared, rfl⟩ := List.mem_map.mp inPrefix
    exact fit literal declared
  · obtain rfl := List.eq_of_mem_replicate behind
    trivial

/-- With the native decoder, some record leads to the event at a position exactly if no earlier
event has the same prefix and asks for no more topics.  Positions are those of the search of the
catalog, which leaves them out. -/
theorem found_at_iff
    (fit : ∀ descriptor ∈ descriptors, ∀ literal ∈ descriptor.prefixTopics,
      (Utf8.encode literal).length ≤ Xdr.Reader.unbounded)
    {descriptor : EventDescriptor} {p : Nat} (place : descriptors[p]? = some descriptor) :
    (∀ {τ : Type} (values : ValueDecoder τ) (record : EventRecord),
      (ofDescriptors descriptors).find values record =
        (fun found => found.map (·.1)) <$>
          (ofDescriptors descriptors).findPlaced values record) ∧
      ((∃ record : EventRecord,
          (∀ topic ∈ record.topics, topic.Sized) ∧ record.payload.Sized ∧
            ((ofDescriptors descriptors).findPlaced .native record).run () =
              (some (EventDecoder.compile descriptor, p), ())) ↔
        ¬ Shadowed descriptors descriptor p) := by
  refine ⟨fun values record => find_eq_findPlaced _ values record, ?_, ?_⟩
  · rintro ⟨record, -, -, found⟩
    exact not_shadowed_of_winsAt ((findPlaced_eq_iff place ()).mp found)
  · intro alive
    obtain ⟨topics, payload⟩ := sized_ownRecord (fit descriptor (List.mem_of_getElem? place))
    exact ⟨ownRecord descriptor, topics, payload,
      (findPlaced_eq_iff place ()).mpr (winsAt_ownRecord place alive)⟩

/-- Three events of one prefix: the second asks for a topic less than the first, and the third for
as many as the second. -/
private def transfers : List EventDescriptor :=
  [⟨"named", ["transfer"], [⟨"from", .u32, .topicList, none⟩, ⟨"to", .u32, .topicList, none⟩],
      .singleValue⟩,
    ⟨"short", ["transfer"], [⟨"to", .u32, .topicList, none⟩], .singleValue⟩,
    ⟨"late", ["transfer"], [⟨"from", .u32, .topicList, none⟩], .map⟩]

private theorem transfers_fit : ∀ descriptor ∈ transfers, ∀ literal ∈ descriptor.prefixTopics,
    (Utf8.encode literal).length ≤ Xdr.Reader.unbounded := by
  decide

/-- An event behind one that asks for more topics is found, and one behind one that asks for as many
is not. -/
theorem found_at_iff_transfers :
    (∀ descriptor ∈ transfers, ∀ literal ∈ descriptor.prefixTopics,
        (Utf8.encode literal).length ≤ Xdr.Reader.unbounded) ∧
      (∃ short, transfers[1]? = some short ∧ ∃ record : EventRecord,
        ((ofDescriptors transfers).findPlaced .native record).run () =
          (some (EventDecoder.compile short, 1), ())) ∧
      ∃ late, transfers[2]? = some late ∧ ¬ ∃ record : EventRecord,
        (∀ topic ∈ record.topics, topic.Sized) ∧ record.payload.Sized ∧
          ((ofDescriptors transfers).findPlaced .native record).run () =
            (some (EventDecoder.compile late, 2), ()) := by
  refine ⟨transfers_fit, ⟨_, rfl, ?_⟩, _, rfl, ?_⟩
  · obtain ⟨record, -, -, found⟩ := (found_at_iff transfers_fit (p := 1) rfl).2.mpr (by
      rintro ⟨q, earlier, before, earlierAt, -, noMore⟩
      obtain rfl : q = 0 := by omega
      obtain rfl := Option.some.inj earlierAt
      exact absurd noMore (by decide))
    exact ⟨record, found⟩
  · rw [(found_at_iff transfers_fit (p := 2) rfl).2, not_not]
    exact ⟨1, _, by decide, rfl, rfl, by decide⟩

end EventCatalog

end ContractEvents
