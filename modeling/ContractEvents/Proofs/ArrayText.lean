/-
Module: ContractEvents.Proofs.ArrayText
Purpose: The text of an array of objects, made of the texts of the objects.
Main exports: Json.arrayText, Json.parse_eq_ok_iff, Json.parse_arrayText
-/
import ContractEvents.Proofs.ReaderExtension

namespace ContractEvents

theorem Utf8.encode_append (first second : String) :
    encode (first ++ second) = encode first ++ encode second := by
  rw [encode, encodeChars, String.toList_append, List.flatMap_append]
  rfl

namespace Json

/-!
Objects that have been read one by one, each from a text of its own, are read from one text as well,
if that has their texts in turn between commas.  There each of them has one container less to open.
-/

theorem parse_eq_ok_iff {text : String} {found : Json} :
    parse text = .ok found ↔ ∃ rest,
      value false (3 * (Utf8.encode text).length + 3) 127 (Utf8.encode text) = .ok (found, rest) ∧
        skipSpace rest = [] := by
  have unfolded : parse text = .ok found ↔ document false (Utf8.encode text) = .ok found := by
    rw [parse, parseBytes]
    cases document false (Utf8.encode text) <;> simp
  rw [unfolded, document, bind_eq_ok_iff]
  constructor
  · rintro ⟨⟨held, rest⟩, read, ended⟩
    dsimp only at ended
    split at ended
    · rename_i blank
      cases ended
      exact ⟨rest, read, blank⟩
    · cases ended
  · rintro ⟨rest, read, blank⟩
    refine ⟨_, read, ?_⟩
    simp only [blank]
    rfl

/-- The text of an array, from the texts of its items. -/
def arrayText (texts : List String) : String := "[" ++ ",".intercalate texts ++ "]"

/-- The bytes of an array behind an item: the other items, each behind a comma, and the bracket. -/
def bytesBehind : List Bytes → Bytes
  | [] => [0x5D]
  | text :: texts => 0x2C :: (text ++ bytesBehind texts)

theorem encode_intercalate (text : String) (texts : List String) :
    Utf8.encode (",".intercalate (text :: texts) ++ "]") =
      Utf8.encode text ++ bytesBehind (texts.map Utf8.encode) := by
  induction texts generalizing text with
  | nil =>
      rw [String.intercalate_singleton, Utf8.encode_append]
      rfl
  | cons next texts inductionHypothesis =>
      rw [String.intercalate_cons_cons, String.append_assoc, String.append_assoc,
        Utf8.encode_append, Utf8.encode_append, inductionHypothesis]
      rfl

/-- The bytes are an item and blanks, and no item of an array that may be deeper. -/
structure Holds (depth : Nat) (text : Bytes) (item : Json) : Prop where
  read : ∃ rest, value false (3 * text.length + 3) 127 text = .ok (item, rest) ∧ skipSpace rest = []
  ended : ∀ n, item ≠ .number n
  fits : item.nesting ≤ depth

theorem skipSpace_skipSpace (bs : Bytes) : skipSpace (skipSpace bs) = skipSpace bs :=
  List.dropWhile_idempotent ..

theorem skipSpace_blank_append {blank : Bytes} (skipped : skipSpace blank = []) (bs : Bytes) :
    skipSpace (blank ++ bs) = skipSpace bs := by
  rw [skipSpace, List.dropWhile_append, if_pos (by rw [← skipSpace, skipped]; rfl), ← skipSpace]

theorem value_skipSpace (loosely : Bool) (fuel depth : Nat) (bs : Bytes) :
    value loosely (fuel + 1) depth (skipSpace bs) = value loosely (fuel + 1) depth bs := by
  rw [value, value, skipSpace_skipSpace]

/-- No value starts with the bracket that ends an array. -/
theorem opening_of_value {fuel depth : Nat} {bs : Bytes} {found : Json × Bytes}
    (read : value false fuel depth bs = .ok found) :
    ∃ b rest, skipSpace bs = b :: rest ∧ b ≠ 0x5D := by
  cases fuel with
  | zero =>
      rw [value] at read
      cases read
  | succ fuel =>
      rw [value] at read
      split at read
      · cases read
      · rename_i b rest skipped
        refine ⟨b, rest, skipped, ?_⟩
        rintro rfl
        rw [orUnread_strict] at read
        cases read

/-- An item is read in front of whatever stands behind its bytes, up to blanks. -/
theorem Holds.exists_value {depth fuel : Nat} {text : Bytes} {item : Json}
    (holds : Holds depth text item) (enough : 3 * text.length + 3 ≤ fuel) (tail : Bytes) :
    ∃ b after rest, skipSpace (text ++ tail) = b :: after ∧ b ≠ 0x5D ∧ skipSpace rest = [] ∧
      value false fuel depth (b :: after) = .ok (item, rest ++ tail) := by
  obtain ⟨rest, read, blank⟩ := holds.read
  obtain ⟨b, after, opens, noBracket⟩ := opening_of_value read
  have found := (extendable _).value enough read holds.fits (.inr holds.ended) tail
  obtain ⟨fuel, rfl⟩ := Nat.exists_eq_add_of_le' (Nat.le_of_add_left_le enough)
  have opening := skipSpace_append opens tail
  rw [← value_skipSpace, opening] at found
  exact ⟨b, _, rest, opening, noBracket, blank, found⟩

theorem length_bytesBehind_pos (texts : List Bytes) : 1 ≤ (bytesBehind texts).length := by
  cases texts <;> simp [bytesBehind]

theorem moreItems_bytesBehind {texts : List Bytes} {items : List Json} {fuel depth : Nat}
    {blank : Bytes} (each : List.Forall₂ (Holds depth) texts items)
    (skipped : skipSpace blank = []) (enough : 3 * (bytesBehind texts).length ≤ fuel) :
    moreItems false fuel depth (blank ++ bytesBehind texts) = .ok (items, []) := by
  have some_fuel := length_bytesBehind_pos texts
  -- On the items; what is left in front of each is the blanks behind the one before it.
  induction each generalizing fuel blank with
  | nil =>
      obtain ⟨fuel, rfl⟩ : ∃ less, fuel = less + 1 := ⟨fuel - 1, by omega⟩
      have bracket : skipSpace (blank ++ bytesBehind []) = [0x5D] :=
        skipSpace_blank_append skipped _
      rw [moreItems, bracket]
      rfl
  | @cons text item texts items here behind inductionHypothesis =>
      obtain ⟨fuel, rfl⟩ : ∃ less, fuel = less + 1 := ⟨fuel - 1, by omega⟩
      have some_behind := length_bytesBehind_pos texts
      have lengths : 3 * text.length + 3 ≤ fuel ∧ 3 * (bytesBehind texts).length ≤ fuel := by
        simp only [bytesBehind, List.length_cons, List.length_append] at enough
        omega
      obtain ⟨b, after, rest, opens, noBracket, blankRest, read⟩ :=
        here.exists_value lengths.1 (bytesBehind texts)
      have comma : skipSpace (blank ++ bytesBehind (text :: texts)) =
          0x2C :: (text ++ bytesBehind texts) := skipSpace_blank_append skipped _
      rw [moreItems_eq comma opens noBracket]
      exact bind_eq_ok_iff.mpr ⟨_, read, bind_eq_ok_iff.mpr
        ⟨_, inductionHypothesis blankRest lengths.2 some_behind, rfl⟩⟩

theorem holds_of_parse {texts : List String} {items : List Json}
    (each : List.Forall₂ (fun text item => parse text = .ok item) texts items)
    (objects : ∀ item ∈ items, ∃ members, item = .object members)
    {depth : Nat} (fits : ∀ item ∈ items, item.nesting ≤ depth) :
    List.Forall₂ (Holds depth) (texts.map Utf8.encode) items := by
  induction each with
  | nil => exact .nil
  | cons here behind inductionHypothesis =>
      obtain ⟨⟨members, rfl⟩, otherObjects⟩ := List.forall_mem_cons.mp objects
      obtain ⟨fitsHere, otherFits⟩ := List.forall_mem_cons.mp fits
      refine .cons ⟨parse_eq_ok_iff.mp here, ?_, fitsHere⟩
        (inductionHypothesis otherObjects otherFits)
      rintro n ⟨⟩

theorem value_of_bracket (fuel depth : Nat) (bs : Bytes) :
    value false (fuel + 1) (depth + 1) (0x5B :: bs) = do
      let (items, rest) ← firstItem false fuel depth bs
      return (.array items, rest) := by
  have unfolded : value false (fuel + 1) (depth + 1) (0x5B :: bs) =
      orUnread false fuel (0x5B :: bs) (do
        let (items, rest) ← firstItem false fuel depth bs
        return (.array items, rest)) := by
    rw [value]
    rfl
  rw [unfolded, orUnread_strict]

/-- The array of objects that are nested at most 126 deep is read from the text that is made of
theirs. -/
theorem parse_arrayText {texts : List String} {items : List Json}
    (each : List.Forall₂ (fun text item => parse text = .ok item) texts items)
    (objects : ∀ item ∈ items, ∃ members, item = .object members)
    (fits : ∀ item ∈ items, item.nesting ≤ 126) :
    parse (arrayText texts) = .ok (.array items) := by
  have holds := holds_of_parse each objects fits
  refine parse_eq_ok_iff.mpr ⟨[], ?_, rfl⟩
  cases texts with
  | nil =>
      cases each
      have bytes : Utf8.encode (arrayText []) = [0x5B, 0x5D] := rfl
      rw [bytes, value_of_bracket, firstItem]
      rfl
  | cons text texts =>
      obtain ⟨item, others, here, behind, rfl⟩ := List.forall₂_cons_left_iff.mp holds
      have bytes : Utf8.encode (arrayText (text :: texts)) =
          0x5B :: (Utf8.encode text ++ bytesBehind (texts.map Utf8.encode)) := by
        rw [arrayText, String.append_assoc, Utf8.encode_append, encode_intercalate]
        rfl
      have some_behind := length_bytesBehind_pos (texts.map Utf8.encode)
      obtain ⟨fuel, lengths, enoughHere, enoughBehind⟩ :
          ∃ fuel, 3 * (Utf8.encode (arrayText (text :: texts))).length + 3 = fuel + 2 ∧
            3 * (Utf8.encode text).length + 3 ≤ fuel ∧
            3 * (bytesBehind (texts.map Utf8.encode)).length ≤ fuel := by
        rw [bytes, List.length_cons, List.length_append]
        exact ⟨_, rfl, by omega, by omega⟩
      obtain ⟨b, after, rest, opens, noBracket, blank, read⟩ :=
        here.exists_value enoughHere (bytesBehind (texts.map Utf8.encode))
      rw [lengths, bytes, value_of_bracket, firstItem_eq opens noBracket]
      exact bind_eq_ok_iff.mpr ⟨_, bind_eq_ok_iff.mpr ⟨_, read, bind_eq_ok_iff.mpr
        ⟨_, moreItems_bytesBehind behind blank enoughBehind, rfl⟩⟩, rfl⟩

end Json

end ContractEvents
