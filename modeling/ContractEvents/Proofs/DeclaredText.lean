/-
Module: ContractEvents.Proofs.DeclaredText
Purpose: How the texts of a descriptor relate to the byte strings that they were declared with.
Main exports: Escaped.decode_eq_ok_encode_iff, Spells, EventDescriptor.spells_ofSpec
-/
import ContractEvents.Decoding.EventDecoder
import ContractEvents.Event.Extraction
import ContractEvents.Proofs.InterfaceText
import ContractEvents.Proofs.Outcomes
import ContractEvents.Proofs.Utf8RoundTrip
import Mathlib.Data.List.Forall2

namespace ContractEvents

/-!
A descriptor writes the byte strings of an interface in their escaped spelling, while a record gives
the same bytes as strings or symbols, which are decoded as UTF-8.  The spelling loses nothing, but
it is the UTF-8 text only where no byte is escaped: a spelling with an escape is longer than its
bytes, and a UTF-8 text is never longer than its own.
-/

theorem Utf8.length_le_length_encode (text : String) :
    text.toList.length ≤ (encode text).length := by
  rw [encode, encodeChars]
  induction text.toList with
  | nil => exact Nat.le_refl 0
  | cons c cs inductionHypothesis =>
      have here : 1 ≤ (encodeChar c).length := by
        simp only [encodeChar]
        split_ifs <;> simp
      rw [List.flatMap_cons, List.length_append, List.length_cons]
      omega

namespace Escaped

theorem length_encodeByte_pos (b : UInt8) : 1 ≤ (encodeByte b).length := by
  unfold encodeByte
  split_ifs <;> simp

theorem isVerbatimByte_of_length {b : UInt8} (short : (encodeByte b).length ≤ 1) :
    Bytes.isVerbatimByte b = true := by
  unfold encodeByte at short
  split_ifs at short with nul tab feed carriage backslash printable
  · simp at short
  · simp at short
  · simp at short
  · simp at short
  · simp at short
  · exact Bytes.isVerbatimByte_iff.mpr ⟨printable, backslash⟩
  · simp at short

theorem length_le_length_spelling (bs : Bytes) : bs.length ≤ (bs.flatMap encodeByte).length := by
  induction bs with
  | nil => exact Nat.le_refl 0
  | cons b bs inductionHypothesis =>
      have here := length_encodeByte_pos b
      rw [List.flatMap_cons, List.length_append, List.length_cons]
      omega

/-- A spelling that is no longer than its bytes has no escapes. -/
theorem verbatim_of_length {bs : Bytes} (short : (bs.flatMap encodeByte).length ≤ bs.length) :
    bs.Verbatim := by
  induction bs with
  | nil =>
      intro b member
      cases member
  | cons b bs inductionHypothesis =>
      have here := length_encodeByte_pos b
      have behind := length_le_length_spelling bs
      rw [List.flatMap_cons, List.length_append, List.length_cons] at short
      intro other member
      rcases List.mem_cons.mp member with rfl | member
      · exact isVerbatimByte_of_length (by omega)
      · exact inductionHypothesis (by omega) other member

/-- The spelling of bytes is their UTF-8 text just when no byte is escaped. -/
theorem decode_eq_ok_encode_iff {bs : Bytes} :
    Utf8.decode bs = .ok (encode bs) ↔ bs.Verbatim := by
  constructor
  · intro decoded
    apply verbatim_of_length
    calc (bs.flatMap encodeByte).length
        = (encode bs).toList.length := by rw [encode, String.toList_ofList]
      _ ≤ (Utf8.encode (encode bs)).length := Utf8.length_le_length_encode _
      _ = bs.length := by rw [Utf8.encode_of_decode decoded]
  · intro verbatim
    rw [Utf8.decode_of_verbatim verbatim, encode_of_verbatim verbatim]

end Escaped

/-- A text of a descriptor stands for a byte string of an interface.  The bytes can be told from it;
it is their UTF-8 text, and what a string or a symbol of the same bytes is decoded to, just when
none of them is escaped. -/
structure Spells (bs : Bytes) (text : String) : Prop where
  bytes : Escaped.decode? text = some bs
  legible : ∀ {meant : String}, Utf8.decode bs = .ok meant → (text = meant ↔ bs.Verbatim)
  string : (Value.string bs).decode = .ok (.string text) ↔ bs.Verbatim
  symbol : (Value.symbol bs).decode = .ok (.string text) ↔ bs.Verbatim

theorem spells_encode (bs : Bytes) : Spells bs (Escaped.encode bs) where
  bytes := Escaped.decode?_encode bs
  legible := by
    intro meant decoded
    rw [← Escaped.decode_eq_ok_encode_iff, decoded, Except.ok.injEq, eq_comm]
  string := by
    rw [← Escaped.decode_eq_ok_encode_iff, Value.decode, textOfBytes, map_eq_ok_iff]
    simp [mapError_eq_ok_iff]
  symbol := by
    rw [← Escaped.decode_eq_ok_encode_iff, Value.decode, textOfBytes, map_eq_ok_iff]
    simp [mapError_eq_ok_iff]

namespace EventDescriptor

/-- The descriptor of an event has its texts in the order of the declaration, and each stands for
the bytes that were declared. -/
theorem spells_ofSpec (event : SpecEvent) :
    Spells event.name (ofSpec event).name ∧
      List.Forall₂ Spells event.prefixTopics (ofSpec event).prefixTopics ∧
      List.Forall₂ (fun param field => Spells param.name field.name ∧
          (field.doc = none ↔ param.doc = []) ∧ ∀ doc, field.doc = some doc → Spells param.doc doc)
        event.params (ofSpec event).fields := by
  refine ⟨spells_encode event.name, ?_, ?_⟩
  · simp only [ofSpec, List.forall₂_map_right_iff, List.forall₂_same]
    intro topic member
    exact spells_encode topic
  · simp only [ofSpec, List.forall₂_map_right_iff, List.forall₂_same]
    intro param member
    refine ⟨spells_encode param.name, ?_, ?_⟩
    · simp [EventField.ofSpec]
    · intro doc documented
      rw [EventField.ofSpec] at documented
      split at documented
      · cases documented
      · cases documented
        exact spells_encode param.doc

/-- A sale with the price in a field named café. -/
private def sale : SpecEvent where
  doc := []
  lib := []
  name := [0x73, 0x61, 0x6C, 0x65]
  prefixTopics := [[0x73, 0x61, 0x6C, 0x65]]
  params := [⟨[], [0x63, 0x61, 0x66, 0xC3, 0xA9], .u32, .data⟩]
  dataFormat := .map

/-- The record of a sale, whose entry has the declared name for its key. -/
private def saleRecord : EventRecord where
  topics := [.symbol [0x73, 0x61, 0x6C, 0x65]]
  payload := .map (some [(.symbol [0x63, 0x61, 0x66, 0xC3, 0xA9], .u32 3)])

/-- A name that is UTF-8 but not ASCII is not kept as its text, and the entry with the same bytes
for its key does not reach the field. -/
theorem accented_name_respelled :
    Utf8.decode [0x63, 0x61, 0x66, 0xC3, 0xA9] = .ok "café" ∧
      (ofSpec sale).fields.map (·.name) = ["caf\\xc3\\xa9"] ∧
      (Value.symbol [0x63, 0x61, 0x66, 0xC3, 0xA9]).decode = .ok (.string "café") ∧
      ((EventDecoder.compile (ofSpec sale)).decode .native saleRecord).run.run () =
        (.error (.missingPayloadFields ["caf\\xc3\\xa9"] "\x7b\n  \"café\": 3\n\x7d"), ()) := by
  refine ⟨rfl, rfl, rfl, rfl⟩

end EventDescriptor

end ContractEvents
