/-
Module: ContractEvents.Proofs.DeclarationOrder
Purpose: Which event a record belongs to does not depend on the order in which events with different
  prefixes are declared.
Main exports: EventCatalog.prefixes_comparable, EventCatalog.chosen_eq_of_perm,
  EventCatalog.routing_eq_of_perm
-/
import ContractEvents.Proofs.CatalogRouting
import Mathlib.Data.List.Nodup

namespace ContractEvents.EventCatalog

/-!
The prefixes of the events that one record matches all start its topics, so any two of them are
comparable, and equally long ones are the same.  Where prefixes are different, the longest one
therefore belongs to a single event, and the order of declaration, which only decides between
equally long prefixes, decides nothing.
-/

variable {σ : Type} {answer : Answers} {descriptors permuted : List EventDescriptor}
  {record : EventRecord}

/-- Of two events that one record matches, one has the start of the other's prefix. -/
theorem prefixes_comparable {one two : EventDescriptor} (fitsOne : one.Matches answer record)
    (fitsTwo : two.Matches answer record) :
    one.prefixTopics <+: two.prefixTopics ∨ two.prefixTopics <+: one.prefixTopics := by
  rcases Nat.le_total one.prefixTopics.length two.prefixTopics.length with noLonger | noShorter
  · exact .inl (prefix_of_matches fitsOne fitsTwo noLonger)
  · exact .inr (prefix_of_matches fitsTwo fitsOne noShorter)

/-- Equally long prefixes of events that one record matches are the same. -/
theorem prefix_eq_of_matches {one two : EventDescriptor} (fitsOne : one.Matches answer record)
    (fitsTwo : two.Matches answer record)
    (sameLength : one.prefixTopics.length = two.prefixTopics.length) :
    one.prefixTopics = two.prefixTopics :=
  (prefix_of_matches fitsOne fitsTwo (Nat.le_of_eq sameLength)).eq_of_length sameLength

/-- Where prefixes are different, the event that a record is routed to does not depend on the place
of any event. -/
theorem Routed.unique_of_perm {before after beforePermuted afterPermuted : List EventDescriptor}
    {one two : EventDescriptor} (perm : descriptors.Perm permuted)
    (distinct : (descriptors.map (·.prefixTopics)).Nodup)
    (routed : Routed answer descriptors record before one after)
    (routedPermuted : Routed answer permuted record beforePermuted two afterPermuted) :
    one = two := by
  have memberOne : one ∈ descriptors := by simp [routed.place]
  have memberTwo : two ∈ descriptors := by simp [perm.mem_iff, routedPermuted.place]
  have noLonger := routed.longest two memberTwo routedPermuted.fits
  have noShorter := routedPermuted.longest one (perm.mem_iff.mp memberOne) routed.fits
  have fitsOne := (EventDecoder.probe_eq_true_iff answer).mp routed.fits
  have fitsTwo := (EventDecoder.probe_eq_true_iff answer).mp routedPermuted.fits
  exact List.inj_on_of_nodup_map distinct memberOne memberTwo
    (prefix_eq_of_matches fitsOne fitsTwo (Nat.le_antisymm noShorter noLonger))

/-- The decoders that a record matches, whatever their order, have the same one with the longest
prefix. -/
theorem chosen_eq_of_perm (answer : Answers) (record : EventRecord)
    (perm : descriptors.Perm permuted) (distinct : (descriptors.map (·.prefixTopics)).Nodup) :
    longestPrefix? ((matched answer descriptors record).map EventDecoder.compile) =
      longestPrefix? ((matched answer permuted record).map EventDecoder.compile) := by
  have matchedPerm : ((matched answer descriptors record).map EventDecoder.compile).Perm
      ((matched answer permuted record).map EventDecoder.compile) :=
    (perm.filter _).map _
  cases chosen : longestPrefix? ((matched answer descriptors record).map EventDecoder.compile) with
  | none =>
      rw [longestPrefix?_eq_none_iff] at chosen
      rw [chosen, List.nil_perm] at matchedPerm
      rw [matchedPerm]
      rfl
  | some winner =>
      cases chosenPermuted :
          longestPrefix? ((matched answer permuted record).map EventDecoder.compile) with
      | none =>
          rw [longestPrefix?_eq_none_iff] at chosenPermuted
          rw [chosenPermuted, List.perm_nil] at matchedPerm
          rw [matchedPerm] at chosen
          cases chosen
      | some other =>
          obtain ⟨before, one, after, rfl, routed⟩ := exists_routed chosen
          obtain ⟨beforePermuted, two, afterPermuted, rfl, routedPermuted⟩ :=
            exists_routed chosenPermuted
          rw [routed.unique_of_perm perm distinct routedPermuted]

theorem decode_eq_of_chosen_eq
    (same : longestPrefix? ((matched answer descriptors record).map EventDecoder.compile) =
      longestPrefix? ((matched answer permuted record).map EventDecoder.compile)) :
    (ofDescriptors descriptors).decode (.ofFunction answer) record =
      ((ofDescriptors permuted).decode (.ofFunction answer) record :
        Routing σ DecodedEvent) := by
  cases chosen : longestPrefix? ((matched answer descriptors record).map EventDecoder.compile) with
  | none =>
      rw [decode_of_not_found chosen, decode_of_not_found (same ▸ chosen)]
  | some winner =>
      obtain ⟨before, descriptor, after, rfl, -⟩ := exists_routed chosen
      obtain ⟨verdict, decoded⟩ := EventDecoder.exists_decode_settled answer descriptor record
      rw [decode_of_found chosen decoded, decode_of_found (same ▸ chosen) decoded]

/-- Two catalogs that declare the same events in different orders, no two of them with the same
prefix, find the same event in every record and decode it alike.  Of any two events that a record
matches, the prefixes are comparable, so that equally long ones are the same. -/
theorem routing_eq_of_perm (answer : Answers) (record : EventRecord)
    (perm : descriptors.Perm permuted) (distinct : (descriptors.map (·.prefixTopics)).Nodup) :
    (ofDescriptors descriptors).find (.ofFunction answer) record =
        ((ofDescriptors permuted).find (.ofFunction answer) record :
          StateM σ (Option EventDecoder)) ∧
      (ofDescriptors descriptors).decode (.ofFunction answer) record =
        ((ofDescriptors permuted).decode (.ofFunction answer) record :
          Routing σ DecodedEvent) ∧
      ∀ one two : EventDescriptor, one.probe answer record = true →
        two.probe answer record = true →
          (one.prefixTopics <+: two.prefixTopics ∨ two.prefixTopics <+: one.prefixTopics) ∧
            (one.prefixTopics.length = two.prefixTopics.length →
              one.prefixTopics = two.prefixTopics) := by
  have same := chosen_eq_of_perm answer record perm distinct
  refine ⟨?_, decode_eq_of_chosen_eq same, ?_⟩
  · rw [find_ofDescriptors, find_ofDescriptors, same]
  · intro one two probedOne probedTwo
    have fitsOne := (EventDecoder.probe_eq_true_iff answer).mp probedOne
    have fitsTwo := (EventDecoder.probe_eq_true_iff answer).mp probedTwo
    exact ⟨prefixes_comparable fitsOne fitsTwo, prefix_eq_of_matches fitsOne fitsTwo⟩

/-- An event without fields, with a prefix. -/
private def bare (name : String) (prefixTopics : List String) : EventDescriptor :=
  ⟨name, prefixTopics, [], .singleValue⟩

/-- A record of a batch of mints. -/
private def mintBatch : EventRecord :=
  ⟨[.symbol [0x6D, 0x69, 0x6E, 0x74], .string [0x62, 0x61, 0x74, 0x63, 0x68]], .u32 1⟩

/-- Three events of which each prefix starts the next one. -/
private def mints : List EventDescriptor :=
  [bare "any" [], bare "mint" ["mint"], bare "batch" ["mint", "batch"]]

/-- The same events with the longest prefix in front. -/
private def mintsReordered : List EventDescriptor :=
  [bare "batch" ["mint", "batch"], bare "any" [], bare "mint" ["mint"]]

/-- A batch of mints is found behind the events whose prefixes it also starts with, and in front of
them. -/
theorem routing_eq_of_perm_mintBatch :
    mints.Perm mintsReordered ∧ (mints.map (·.prefixTopics)).Nodup ∧
      ((ofDescriptors mints).find (.ofFunction Value.decode) mintBatch).run () =
        (some (EventDecoder.compile (bare "batch" ["mint", "batch"])), ()) ∧
      (ofDescriptors mints).find (.ofFunction Value.decode) mintBatch =
        ((ofDescriptors mintsReordered).find (.ofFunction Value.decode) mintBatch :
          StateM Unit (Option EventDecoder)) := by
  have perm : mints.Perm mintsReordered :=
    List.perm_append_singleton (bare "batch" ["mint", "batch"])
      [bare "any" [], bare "mint" ["mint"]]
  have distinct : (mints.map (·.prefixTopics)).Nodup := by decide
  exact ⟨perm, distinct, rfl, (routing_eq_of_perm Value.decode mintBatch perm distinct).1⟩

end ContractEvents.EventCatalog
