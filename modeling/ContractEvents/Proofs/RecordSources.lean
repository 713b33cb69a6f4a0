/-
Module: ContractEvents.Proofs.RecordSources
Purpose: An event of the ledger and its report by a server lead to the same record.
Main exports: ContractEvent.ofText_toText, ContractEvent.SourcesAgree, RpcEvent.Obstacle,
  EventRecord.sources_agree
-/
import ContractEvents.Event.Record
import ContractEvents.Proofs.BlankText
import ContractEvents.Proofs.Outcomes
import ContractEvents.Proofs.ValueRoundTrip

namespace ContractEvents

open Xdr Xdr.Reader

/-!
A record comes from the text of a whole event, or from the texts of its topics and of its value that
a server reports.  Each text reads back as what it was written from, so both give the topics in
their order and the value.  A report may also lack a part or hold a text that is no value: the
record then fails for the first part in its way.
-/

namespace ContractEvent

/-- Every length in the event fits into its binary form.  No event on the wire is longer. -/
structure Sized (event : ContractEvent) : Prop where
  count : event.topics.length ≤ unbounded
  topics : Value.SizedItems event.topics
  data : event.data.Sized

theorem sized_of_mem {topics : List Value} (sized : Value.SizedItems topics) {topic : Value}
    (member : topic ∈ topics) : topic.Sized :=
  Value.sizedItems_iff.mp sized topic member

theorem flatMap_write (items : List Value) :
    items.flatMap Value.write = Value.writeItems items := by
  induction items with
  | nil => rfl
  | cons item items inductionHypothesis =>
      rw [List.flatMap_cons, inductionHypothesis]
      rfl

theorem reads_version : Reads version (Bytes.ofWord 0) () := reads_choice rfl

theorem reads_contractId (id : Option Hash) :
    Reads (Reader.optional Hash.reader) (Xdr.optional Hash.bytes id) id := by
  cases id with
  | none => exact reads_none Hash.reader
  | some hash => exact reads_some hash.reads_bytes

/-- An event reads back from its binary form. -/
theorem reads_write {event : ContractEvent} (sized : event.Sized) {bound : Nat}
    (room : event.write.length ≤ bound) : Reads (reader bound) event.write event := by
  have origin_read : EventOrigin.ofNumber? event.origin.number = some event.origin := by
    cases event.origin <;> rfl
  simp only [write, Xdr.list, flatMap_write, List.length_append] at room
  have readsTopics := reads_list sized.count sized.count
    (Value.reads_writeItems event.topics sized.topics (show _ ≤ bound by omega))
  have readsData := Value.reads_write event.data sized.data (show _ ≤ bound by omega)
  simp only [write, Xdr.list, flatMap_write, List.append_assoc]
  apply Reads.nested
  apply reads_version.nested.bind
  apply (reads_contractId event.contractId).bind
  apply (reads_choice origin_read).bind
  apply reads_version.bind
  rw [← List.append_assoc]
  apply readsTopics.bind
  exact readsData.bind_pure (ContractEvent.mk event.contractId event.origin event.topics)

theorem ofText_toText {event : ContractEvent} (sized : event.Sized) :
    ofText event.toText = .ok event :=
  runText_encode fun _ room => reads_write sized room

/-- Every source of the record of an event gives the same. -/
structure SourcesAgree (event : ContractEvent) : Prop where
  /-- The text of the event, with any blanks around it. -/
  surrounded : ∀ before after : String, (∀ b ∈ before.toList, Text.isBlank b = true) →
    (∀ b ∈ after.toList, Text.isBlank b = true) →
      EventRecord.ofContractEventText (before ++ event.toText ++ after) = .ok event.record
  /-- The text of the event with blanks anywhere, once they have been dropped. -/
  spread : ∀ padded : String, Text.Spread padded.toList event.toText.toList →
    EventRecord.ofContractEventText (Text.withoutBlanks padded) = .ok event.record
  /-- A report with the texts of its topics and of its data, whatever else it says. -/
  reported : ∀ rpc : RpcEvent, rpc.topic = some (event.topics.map Value.toText) →
    rpc.value = some event.data.toText → EventRecord.ofRpcEvent rpc = .ok event.record

end ContractEvent

namespace RpcEvent

/-- A text that holds a value. -/
def Readable (text : String) : Prop := ∃ value, Value.ofText text = .ok value

/-- The parts of a report are there and hold what a record says. -/
structure Carries (rpc : RpcEvent) (record : EventRecord) : Prop where
  topics : ∃ texts, rpc.topic = some texts ∧
    List.Forall₂ (fun text topic => Value.ofText text = .ok topic) texts record.topics
  payload : ∃ text, rpc.value = some text ∧ Value.ofText text = .ok record.payload

/-- The first thing in the way of the record of a report, and the error that it leads to. -/
inductive Obstacle (rpc : RpcEvent) : RecordError → Prop where
  | noTopics (absent : rpc.topic = none) : Obstacle rpc (.missingPart rpc.id "topic list")
  | topic {before after : List String} {text : String} {fault : Fault}
      (listed : rpc.topic = some (before ++ text :: after))
      (readable : ∀ earlier ∈ before, Readable earlier)
      (refused : Value.ofText text = .error fault) :
      Obstacle rpc (.xdr fault)
  | noValue {texts : List String} (listed : rpc.topic = some texts)
      (readable : ∀ text ∈ texts, Readable text) (absent : rpc.value = none) :
      Obstacle rpc (.missingPart rpc.id "value")
  | value {texts : List String} {text : String} {fault : Fault} (listed : rpc.topic = some texts)
      (readable : ∀ text ∈ texts, Readable text) (given : rpc.value = some text)
      (refused : Value.ofText text = .error fault) : Obstacle rpc (.xdr fault)

/-- What the record of a report is, and what it fails with. -/
structure Converts (rpc : RpcEvent) : Prop where
  record : ∀ record, EventRecord.ofRpcEvent rpc = .ok record ↔ rpc.Carries record
  succeeds : (∃ record, EventRecord.ofRpcEvent rpc = .ok record) ↔
    (∃ texts, rpc.topic = some texts ∧ ∀ text ∈ texts, Readable text) ∧
      ∃ text, rpc.value = some text ∧ Readable text
  fails : ∀ error, EventRecord.ofRpcEvent rpc = .error error ↔ rpc.Obstacle error

theorem part_eq_ok_iff {text : String} {value : Value} :
    EventRecord.part text = .ok value ↔ Value.ofText text = .ok value := mapError_eq_ok_iff

theorem part_eq_error_iff {text : String} {error : RecordError} :
    EventRecord.part text = .error error ↔
      ∃ fault, Value.ofText text = .error fault ∧ .xdr fault = error := mapError_eq_error_iff

theorem part_of_refused {text : String} {fault : Fault}
    (refused : Value.ofText text = .error fault) :
    EventRecord.part text = .error (.xdr fault) := part_eq_error_iff.mpr ⟨fault, refused, rfl⟩

/-- A list of texts reads as a list of topics if each text reads as its topic. -/
theorem topics_eq_ok_iff {texts : List String} {topics : List Value} :
    texts.mapM EventRecord.part = .ok topics ↔
      List.Forall₂ (fun text topic => Value.ofText text = .ok topic) texts topics := by
  rw [mapM_eq_ok_iff]
  simp only [part_eq_ok_iff]

/-- Texts read as topics just when all of them are readable. -/
theorem exists_topics_iff {texts : List String} :
    (∃ topics, texts.mapM EventRecord.part = .ok topics) ↔ ∀ text ∈ texts, Readable text := by
  simp only [exists_mapM_eq_ok_iff, part_eq_ok_iff, Readable]

theorem ofRpcEvent_of_carries {rpc : RpcEvent} {record : EventRecord}
    (carries : rpc.Carries record) :
    EventRecord.ofRpcEvent rpc = .ok record := by
  obtain ⟨⟨texts, listed, topics⟩, text, given, payload⟩ := carries
  simp only [EventRecord.ofRpcEvent, listed, given]
  rw [topics_eq_ok_iff.mpr topics, part_eq_ok_iff.mpr payload]
  rfl

theorem ofRpcEvent_of_obstacle {rpc : RpcEvent} {error : RecordError}
    (obstacle : rpc.Obstacle error) : EventRecord.ofRpcEvent rpc = .error error := by
  cases obstacle with
  | noTopics absent =>
      simp only [EventRecord.ofRpcEvent, absent]
      rfl
  | @topic before after text fault listed readable refused =>
      have passed : ∀ earlier ∈ before, ∃ value, EventRecord.part earlier = .ok value := by
        intro earlier member
        obtain ⟨value, read⟩ := readable earlier member
        exact ⟨value, part_eq_ok_iff.mpr read⟩
      have failed : (before ++ text :: after).mapM EventRecord.part = .error (.xdr fault) :=
        mapM_eq_error_iff.mpr ⟨before, text, after, rfl, passed, part_of_refused refused⟩
      simp only [EventRecord.ofRpcEvent, listed, failed]
      rfl
  | noValue listed readable absent =>
      obtain ⟨topics, read⟩ := exists_topics_iff.mpr readable
      simp only [EventRecord.ofRpcEvent, listed, read, absent]
      rfl
  | value listed readable given refused =>
      obtain ⟨topics, read⟩ := exists_topics_iff.mpr readable
      simp only [EventRecord.ofRpcEvent, listed, read, given]
      rw [part_of_refused refused]
      rfl

/-- A report has a record, or something is in its way. -/
theorem carries_or_obstacle (rpc : RpcEvent) :
    (∃ record, rpc.Carries record) ∨ ∃ error, rpc.Obstacle error := by
  cases listed : rpc.topic with
  | none => exact .inr ⟨_, .noTopics listed⟩
  | some texts =>
      cases read : texts.mapM EventRecord.part with
      | error error =>
          obtain ⟨before, text, after, rfl, fine, failed⟩ := mapM_eq_error_iff.mp read
          obtain ⟨fault, refused, rfl⟩ := part_eq_error_iff.mp failed
          refine .inr ⟨_, .topic listed (fun earlier member => ?_) refused⟩
          exact (fine earlier member).imp fun _ => part_eq_ok_iff.mp
      | ok topics =>
          have readable := exists_topics_iff.mp ⟨topics, read⟩
          cases given : rpc.value with
          | none => exact .inr ⟨_, .noValue listed readable given⟩
          | some text =>
              cases payload : Value.ofText text with
              | error fault => exact .inr ⟨_, .value listed readable given payload⟩
              | ok value =>
                  exact .inl ⟨⟨topics, value⟩, ⟨texts, listed, topics_eq_ok_iff.mp read⟩, text,
                    given, payload⟩

theorem converts (rpc : RpcEvent) : rpc.Converts where
  record := by
    intro record
    refine ⟨fun given => ?_, ofRpcEvent_of_carries⟩
    rcases carries_or_obstacle rpc with ⟨other, carries⟩ | ⟨error, obstacle⟩
    · obtain rfl : record = other :=
        Except.ok.inj (given.symm.trans (ofRpcEvent_of_carries carries))
      exact carries
    · rw [ofRpcEvent_of_obstacle obstacle] at given
      cases given
  succeeds := by
    constructor
    · rintro ⟨record, given⟩
      rcases carries_or_obstacle rpc with ⟨_, carries⟩ | ⟨error, obstacle⟩
      · obtain ⟨⟨texts, listed, topics⟩, text, there, payload⟩ := carries
        have readable := exists_topics_iff.mp ⟨_, topics_eq_ok_iff.mpr topics⟩
        exact ⟨⟨texts, listed, readable⟩, text, there, _, payload⟩
      · rw [ofRpcEvent_of_obstacle obstacle] at given
        cases given
    · rintro ⟨⟨texts, listed, readable⟩, text, there, value, payload⟩
      obtain ⟨topics, read⟩ := exists_topics_iff.mpr readable
      exact ⟨⟨topics, value⟩, ofRpcEvent_of_carries
        ⟨⟨texts, listed, topics_eq_ok_iff.mp read⟩, text, there, payload⟩⟩
  fails := by
    intro error
    refine ⟨fun failed => ?_, ofRpcEvent_of_obstacle⟩
    rcases carries_or_obstacle rpc with ⟨record, carries⟩ | ⟨other, obstacle⟩
    · rw [ofRpcEvent_of_carries carries] at failed
      cases failed
    · obtain rfl : error = other :=
        Except.error.inj (failed.symm.trans (ofRpcEvent_of_obstacle obstacle))
      exact obstacle

end RpcEvent

namespace ContractEvent

/-- A report that carries the texts of an event carries its record. -/
theorem carries_texts {event : ContractEvent} (sized : event.Sized) {rpc : RpcEvent}
    (listed : rpc.topic = some (event.topics.map Value.toText))
    (given : rpc.value = some event.data.toText) : rpc.Carries event.record where
  topics := by
    refine ⟨_, listed, ?_⟩
    rw [List.forall₂_map_left_iff, record, List.forall₂_same]
    intro topic member
    exact Value.ofText_toText (sized_of_mem sized.topics member)
  payload := ⟨_, given, Value.ofText_toText sized.data⟩

theorem ofContractEventText_toText {event : ContractEvent} (sized : event.Sized) {text : String}
    (trimmed : Text.trimBlanks text = event.toText) :
    EventRecord.ofContractEventText text = .ok event.record := by
  rw [EventRecord.ofContractEventText, trimmed, ofText_toText sized]

theorem sourcesAgree {event : ContractEvent} (sized : event.Sized) : event.SourcesAgree where
  surrounded := by
    intro before after blankBefore blankAfter
    apply ofContractEventText_toText sized
    exact Text.trimBlanks_surrounded blankBefore (fun _ => Base64.ink_of_mem_encode) blankAfter
  spread := by
    intro padded spread
    have ink : ∀ c ∈ event.toText.toList, Text.isBlank c = false :=
      fun _ => Base64.ink_of_mem_encode
    apply ofContractEventText_toText sized
    rw [Text.withoutBlanks_of_spread spread ink, Text.trimBlanks_of_ink ink]
  reported := fun _ listed given =>
    RpcEvent.ofRpcEvent_of_carries (carries_texts sized listed given)

end ContractEvent

namespace EventRecord

/-- An event has one record, whether its own text is read or a report of it; and a report has a
record just when all its parts are there and hold values, or else fails for the first in its way. -/
theorem sources_agree (event : ContractEvent) (sized : event.Sized) (rpc : RpcEvent) :
    event.SourcesAgree ∧ rpc.Converts :=
  ⟨ContractEvent.sourcesAgree sized, RpcEvent.converts rpc⟩

private def minted : ContractEvent where
  contractId := some default
  origin := .contract
  topics := [.symbol [0x6D, 0x69, 0x6E, 0x74], .address (.account default)]
  data := .map (some [(.symbol [0x61], .i128 ⟨0, 5⟩), (.string [0xE2, 0x82, 0xAC], .vec none)])

private def mintedReport : RpcEvent where
  type := "contract"
  ledger := 7
  ledgerClosedAt := ""
  contractId := ""
  id := "0-1"
  inSuccessfulContractCall := true
  txHash := ""
  topic := some (minted.topics.map Value.toText)
  value := some minted.data.toText

private theorem minted_sized : minted.Sized where
  count := by decide
  topics := by simp [minted, Value.SizedItems, Value.Sized, Value.maxSymbol]
  data := by simp [minted, Value.SizedEntries, Value.Sized, Value.maxSymbol, unbounded]

/-- An event with two topics and a map, read from its text between blanks and from a report, and the
same report without its value. -/
theorem sources_agree_minted :
    minted.Sized ∧
      ofContractEventText ("\n " ++ minted.toText ++ "\t") = .ok minted.record ∧
      ofRpcEvent mintedReport = .ok minted.record ∧
      ofRpcEvent { mintedReport with value := none } = .error (.missingPart "0-1" "value") := by
  obtain ⟨agree, -⟩ := sources_agree minted minted_sized mintedReport
  obtain ⟨-, converts⟩ := sources_agree minted minted_sized { mintedReport with value := none }
  have front : ∀ c ∈ "\n ".toList, Text.isBlank c = true := List.all_eq_true.mp rfl
  have back : ∀ c ∈ "\t".toList, Text.isBlank c = true := List.all_eq_true.mp rfl
  refine ⟨minted_sized, agree.surrounded _ _ front back, agree.reported mintedReport rfl rfl,
    (converts.fails _).mpr (.noValue rfl ?_ rfl)⟩
  intro text member
  obtain ⟨topic, inTopics, rfl⟩ := List.mem_map.mp member
  exact ⟨topic, Value.ofText_toText (ContractEvent.sized_of_mem minted_sized.topics inTopics)⟩

end EventRecord

end ContractEvents
