/-
Module: ContractEvents.Proofs.BlankText
Purpose: Blanks around and inside of a text that has none of its own.
Main exports: Text.trimBlanks_surrounded, Text.Spread, Text.withoutBlanks_of_spread,
  Base64.ink_of_mem_encode
-/
import ContractEvents.Proofs.BinaryText
import ContractEvents.Text.Blank
import Mathlib.Data.List.TakeWhile

namespace ContractEvents

namespace Text

variable {before text after padded : List Char}

theorem dropWhile_of_ink (ink : ∀ c ∈ text, isBlank c = false) : text.dropWhile isBlank = text := by
  cases text with
  | nil => rfl
  | cons c text =>
      apply List.dropWhile_cons_of_neg
      rw [ink c List.mem_cons_self]
      exact Bool.false_ne_true

theorem trimBlankChars_surrounded (blankBefore : ∀ b ∈ before, isBlank b = true)
    (ink : ∀ c ∈ text, isBlank c = false) (blankAfter : ∀ b ∈ after, isBlank b = true) :
    trimBlankChars (before ++ (text ++ after)) = text := by
  have reversed : ∀ c ∈ text.reverse, isBlank c = false :=
    fun c member => ink c (List.mem_reverse.mp member)
  rw [trimBlankChars, List.dropWhile_append_of_pos blankBefore, List.dropWhile_append,
    dropWhile_of_ink ink]
  split
  · -- Without a text there are blanks only.
    rename_i empty
    rw [List.dropWhile_eq_nil_iff.mpr blankAfter, List.isEmpty_iff.mp empty]
    rfl
  · rw [List.reverse_append, List.dropWhile_append_of_pos, dropWhile_of_ink reversed,
      List.reverse_reverse]
    intro b member
    exact blankAfter b (List.mem_reverse.mp member)

/-- Trimming takes blanks away from around a text that has none. -/
theorem trimBlanks_surrounded {before text after : String}
    (blankBefore : ∀ b ∈ before.toList, isBlank b = true)
    (ink : ∀ c ∈ text.toList, isBlank c = false)
    (blankAfter : ∀ b ∈ after.toList, isBlank b = true) :
    trimBlanks (before ++ text ++ after) = text := by
  rw [trimBlanks, String.toList_append, String.toList_append, List.append_assoc,
    trimBlankChars_surrounded blankBefore ink blankAfter, String.ofList_toList]

theorem trimBlanks_of_ink {text : String} (ink : ∀ c ∈ text.toList, isBlank c = false) :
    trimBlanks text = text := by
  have trimmed := trimBlankChars_surrounded (List.forall_mem_nil _) ink (List.forall_mem_nil _)
  rw [List.nil_append, List.append_nil] at trimmed
  rw [trimBlanks, trimmed, String.ofList_toList]

/-- A text with blanks put in anywhere. -/
inductive Spread : List Char → List Char → Prop where
  | done : Spread [] []
  | blank {b : Char} {padded text : List Char} (blank : isBlank b = true)
      (behind : Spread padded text) : Spread (b :: padded) text
  | char (c : Char) {padded text : List Char} (behind : Spread padded text) :
      Spread (c :: padded) (c :: text)

theorem filter_of_spread (spread : Spread padded text) (ink : ∀ c ∈ text, isBlank c = false) :
    padded.filter (fun c => !isBlank c) = text := by
  induction spread with
  | done => rfl
  | blank blank behind inductionHypothesis =>
      rw [List.filter_cons_of_neg (by simp [blank]), inductionHypothesis ink]
  | char c behind inductionHypothesis =>
      obtain ⟨here, others⟩ := List.forall_mem_cons.mp ink
      rw [List.filter_cons_of_pos (by simp [here]), inductionHypothesis others]

/-- Dropping every blank gives back a text that has none. -/
theorem withoutBlanks_of_spread {padded text : String} (spread : Spread padded.toList text.toList)
    (ink : ∀ c ∈ text.toList, isBlank c = false) : withoutBlanks padded = text := by
  rw [withoutBlanks, filter_of_spread spread ink, String.ofList_toList]

end Text

/-- There are no blanks in base64. -/
theorem Base64.ink_of_mem_encode {bs : Bytes} {c : Char} (member : c ∈ (encode bs).toList) :
    Text.isBlank c = false := by
  have ink : ∀ s ∈ encodeSymbols bs, Text.isBlank (Char.ofNat s.toNat) = false :=
    forall_mem_encodeSymbols (by decide) (by decide) bs
  rw [encode, String.toList_ofList] at member
  obtain ⟨s, inSymbols, rfl⟩ := List.mem_map.mp member
  exact ink s inSymbols

end ContractEvents
