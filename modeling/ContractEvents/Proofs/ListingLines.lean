/-
Module: ContractEvents.Proofs.ListingLines
Purpose: A base64 listing reads back line by line, or fails at its first line that holds no entry.
Main exports: Text.lines_induction, LineReads, FirstLineRefused, TextHolds, Base64Loading,
  loadBase64Listing_exact
-/
import ContractEvents.Listing.Loader
import ContractEvents.Proofs.BlankText
import ContractEvents.Proofs.FormatDetection
import ContractEvents.Proofs.InterfaceRoundTrip
import ContractEvents.Proofs.Outcomes

namespace ContractEvents

/-!
The loader splits a text at its line feeds, takes a carriage return away from in front of each, and
opens no line behind the last.  None of that shows in the entries or in the number of a line: a
carriage return at the end of a line is a blank, which trimming would take away, and a last line
without characters is blank as well.  So the listing is described by what stands between the line
feeds, and each line either gives entries (none if it is blank) or ends the reading.
-/

/-! ### Lines -/

namespace Text

variable {line : List Char}

theorem trimBlankChars_append_blank {b : Char} (blank : isBlank b = true) (line : List Char) :
    trimBlankChars (line ++ [b]) = trimBlankChars line := by
  rw [trimBlankChars, trimBlankChars, List.dropWhile_append]
  split
  · rename_i empty
    rw [List.isEmpty_iff.mp empty, List.dropWhile_cons_of_pos blank]
    rfl
  · rw [List.reverse_append, List.reverse_singleton, List.singleton_append,
      List.dropWhile_cons_of_pos blank]

/-- A text is one line, or a line and a line feed in front of another text. -/
@[elab_as_elim]
theorem lines_induction {motive : List Char → Prop}
    (last : ∀ line, '\n' ∉ line → motive line)
    (more : ∀ line rest, '\n' ∉ line → motive rest → motive (line ++ '\n' :: rest))
    (text : List Char) : motive text := by
  by_cases feed : '\n' ∈ text
  · obtain ⟨line, rest, split, one⟩ := List.eq_append_cons_of_mem feed
    have shorter : rest.length < text.length := by
      rw [split, List.length_append, List.length_cons]
      omega
    rw [split]
    exact more line rest one (lines_induction last more rest)
  · exact last text feed
termination_by text.length

/-- Without a line feed there is one line, unless there is nothing. -/
theorem lineChars_of_last (one : '\n' ∉ line) (written : line ≠ []) : lineChars line = [line] := by
  induction line with
  | nil => exact absurd rfl written
  | cons c line inductionHypothesis =>
      obtain ⟨notFeed, others⟩ := not_or.mp (mt List.mem_cons.mpr one)
      have notPair : ∀ behind, c = '\r' → line = '\n' :: behind → False := by
        rintro behind - rfl
        exact others List.mem_cons_self
      rw [lineChars.eq_4 _ _ notPair (Ne.symm notFeed)]
      cases line with
      | nil => rfl
      | cons next line => rw [inductionHypothesis others (List.cons_ne_nil next line)]

/-- A line feed ends a line, and a carriage return in front of it does not count. -/
theorem lineChars_feed (one : '\n' ∉ line) (rest : List Char) :
    ∃ shown, lineChars (line ++ '\n' :: rest) = shown :: lineChars rest ∧
      (line = shown ∨ line = shown ++ ['\r']) := by
  induction line with
  | nil => exact ⟨[], by rw [List.nil_append, lineChars], .inl rfl⟩
  | cons c line inductionHypothesis =>
      obtain ⟨notFeed, others⟩ := not_or.mp (mt List.mem_cons.mpr one)
      by_cases ending : c = '\r' ∧ line = []
      · -- The carriage return in front of the line feed.
        obtain ⟨rfl, rfl⟩ := ending
        refine ⟨[], ?_, .inr rfl⟩
        rw [List.singleton_append, lineChars]
      · have notPair : ∀ behind, c = '\r' → line ++ '\n' :: rest = '\n' :: behind → False := by
          intro behind isReturn split
          cases line with
          | nil => exact ending ⟨isReturn, rfl⟩
          | cons next line =>
              obtain rfl := List.head_eq_of_cons_eq split
              exact others List.mem_cons_self
        obtain ⟨shown, found, kept⟩ := inductionHypothesis others
        refine ⟨c :: shown, ?_, ?_⟩
        · rw [List.cons_append, lineChars.eq_4 _ _ notPair (Ne.symm notFeed), found]
        · rcases kept with rfl | rfl
          · exact .inl rfl
          · exact .inr rfl

end Text

/-! ### What a line gives -/

/-- The line is not blank, and what is left of it without the blanks around is no entry. -/
def LineRefused (line : List Char) (reason : Xdr.Fault) : Prop :=
  Text.trimBlankChars line ≠ [] ∧
    SpecEntry.ofText (String.ofList (Text.trimBlankChars line)) = .error reason

/-- The entries that a line gives: none if it is blank, else the one that it holds. -/
inductive LineReads (line : List Char) : List SpecEntry → Prop where
  | skipped (blank : Text.trimBlankChars line = []) : LineReads line []
  | entry {entry : SpecEntry} (written : Text.trimBlankChars line ≠ [])
      (read : SpecEntry.ofText (String.ofList (Text.trimBlankChars line)) = .ok entry) :
      LineReads line [entry]

variable {line : List Char} {lines : List (List Char)} {here entries : List SpecEntry}
  {reason : Xdr.Fault} {fault : ListingFault}

theorem exists_reads_or_refused (line : List Char) :
    (∃ here, LineReads line here) ∨ ∃ reason, LineRefused line reason := by
  by_cases blank : Text.trimBlankChars line = []
  · exact .inl ⟨[], .skipped blank⟩
  · cases read : SpecEntry.ofText (String.ofList (Text.trimBlankChars line)) with
    | ok entry => exact .inl ⟨[entry], .entry blank read⟩
    | error reason => exact .inr ⟨reason, blank, read⟩

theorem LineReads.not_refused (reads : LineReads line here) (reason : Xdr.Fault) :
    ¬ LineRefused line reason := by
  rintro ⟨written, refused⟩
  cases reads with
  | skipped blank => exact written blank
  | entry _ read =>
      rw [read] at refused
      cases refused

/-- Of a line only what is left without the blanks around it counts. -/
theorem readEntryLines_congr {one two : List Char} {others others' : List String} {number : Nat}
    (same : Text.trimBlankChars one = Text.trimBlankChars two)
    (behind : readEntryLines (number + 1) others = readEntryLines (number + 1) others') :
    readEntryLines number (String.ofList one :: others) =
      readEntryLines number (String.ofList two :: others') := by
  simp only [readEntryLines, Text.trimBlanks, String.toList_ofList, same, behind]

theorem isEmpty_of_written (written : Text.trimBlankChars line ≠ []) :
    (String.ofList (Text.trimBlankChars line)).isEmpty = false := by
  simpa using written

theorem readEntryLines_of_reads (reads : LineReads line here) (number : Nat)
    (others : List String) :
    readEntryLines number (String.ofList line :: others) =
      (here ++ ·) <$> readEntryLines (number + 1) others := by
  rw [readEntryLines, Text.trimBlanks, String.toList_ofList]
  cases reads with
  | skipped blank =>
      rw [blank]
      cases readEntryLines (number + 1) others <;> rfl
  | entry written read =>
      simp only [isEmpty_of_written written, read]
      rfl

theorem readEntryLines_of_refused (refused : LineRefused line reason) (number : Nat)
    (others : List String) :
    readEntryLines number (String.ofList line :: others) = .error (.entry number reason) := by
  obtain ⟨written, unread⟩ := refused
  rw [readEntryLines, Text.trimBlanks, String.toList_ofList]
  simp only [isEmpty_of_written written, unread]
  rfl

/-! ### What all lines give -/

/-- Splitting a text at its line feeds gives the same entries as splitting it into lines, and the
same error. -/
theorem readEntryLines_lineChars (text : List Char) (number : Nat) :
    readEntryLines number ((Text.lineChars text).map String.ofList) =
      readEntryLines number ((text.splitOn '\n').map String.ofList) := by
  induction text using Text.lines_induction generalizing number with
  | last line one =>
      rw [List.splitOn_eq_singleton one]
      by_cases written : line = []
      · -- There is no line on one side and a blank one on the other.
        subst written
        rfl
      · rw [Text.lineChars_of_last one written]
  | more line rest one inductionHypothesis =>
      obtain ⟨shown, found, kept⟩ := Text.lineChars_feed one rest
      have same : Text.trimBlankChars shown = Text.trimBlankChars line := by
        rcases kept with rfl | rfl
        · rfl
        · exact (Text.trimBlankChars_append_blank (by decide) shown).symm
      rw [found, List.splitOn_append_cons_self_of_not_mem one, List.map_cons, List.map_cons]
      exact readEntryLines_congr same (inductionHypothesis (number + 1))

/-- The line at the index is refused, and none in front of it is. -/
def FirstLineRefused (lines : List (List Char)) (index : Nat) (reason : Xdr.Fault) : Prop :=
  ∃ before line behind, lines = before ++ line :: behind ∧ before.length = index ∧
    (∀ earlier ∈ before, ∀ other, ¬ LineRefused earlier other) ∧ LineRefused line reason

theorem FirstLineRefused.cons {index : Nat} (reads : LineReads line here)
    (first : FirstLineRefused lines index reason) :
    FirstLineRefused (line :: lines) (index + 1) reason := by
  obtain ⟨before, stop, behind, rfl, rfl, none_before, refused⟩ := first
  refine ⟨line :: before, stop, behind, rfl, rfl, ?_, refused⟩
  exact List.forall_mem_cons.mpr ⟨reads.not_refused, none_before⟩

/-- Reading fails at the first line that is refused. -/
theorem FirstLineRefused.readEntryLines_eq {index : Nat}
    (first : FirstLineRefused lines index reason) (number : Nat) :
    readEntryLines number (lines.map String.ofList) = .error (.entry (number + index) reason) := by
  obtain ⟨before, line, behind, rfl, rfl, none_before, refused⟩ := first
  induction before generalizing number with
  | nil => exact readEntryLines_of_refused refused number _
  | cons earlier before inductionHypothesis =>
      obtain ⟨notHere, notLater⟩ := List.forall_mem_cons.mp none_before
      obtain ⟨here, reads⟩ := (exists_reads_or_refused earlier).resolve_right
        fun ⟨other, refusedHere⟩ => notHere other refusedHere
      rw [List.cons_append, List.map_cons, readEntryLines_of_reads reads,
        inductionHypothesis (number + 1) notLater, List.length_cons, Nat.add_assoc, Nat.add_comm 1]
      rfl

/-- Reading fails nowhere else. -/
theorem exists_firstLineRefused_of_error {number : Nat}
    (failed : readEntryLines number (lines.map String.ofList) = .error fault) :
    ∃ index reason, FirstLineRefused lines index reason ∧
      fault = .entry (number + index) reason := by
  induction lines generalizing number with
  | nil => cases failed
  | cons line lines inductionHypothesis =>
      rw [List.map_cons] at failed
      rcases exists_reads_or_refused line with ⟨here, reads⟩ | ⟨reason, refused⟩
      · rw [readEntryLines_of_reads reads, map_eq_error_iff] at failed
        obtain ⟨index, reason, first, rfl⟩ := inductionHypothesis failed
        refine ⟨index + 1, reason, first.cons reads, ?_⟩
        rw [Nat.add_right_comm, Nat.add_assoc]
      · rw [readEntryLines_of_refused refused] at failed
        cases failed
        exact ⟨0, reason, ⟨[], line, lines, rfl, rfl, List.forall_mem_nil _, refused⟩, rfl⟩

/-- If some line is refused, one is the first. -/
theorem exists_firstLineRefused {line : List Char} (member : line ∈ lines)
    (refused : LineRefused line reason) : ∃ index first, FirstLineRefused lines index first := by
  induction lines with
  | nil => cases member
  | cons here lines inductionHypothesis =>
      rcases exists_reads_or_refused here with ⟨entries, reads⟩ | ⟨other, refusedHere⟩
      · rcases List.mem_cons.mp member with rfl | later
        · exact absurd refused (reads.not_refused reason)
        · obtain ⟨index, first, found⟩ := inductionHypothesis later
          exact ⟨index + 1, first, found.cons reads⟩
      · exact ⟨0, other, [], here, lines, rfl, rfl, List.forall_mem_nil _, refusedHere⟩

/-! ### Texts that hold entries -/

/-- A line that is blank, or that has the text of one entry and blanks around it. -/
inductive LineHolds : List Char → List SpecEntry → Prop where
  | blank {line : List Char} (blank : ∀ b ∈ line, Text.isBlank b = true) : LineHolds line []
  | entry (entry : SpecEntry) {before after : List Char}
      (blankBefore : ∀ b ∈ before, Text.isBlank b = true)
      (blankAfter : ∀ b ∈ after, Text.isBlank b = true) :
      LineHolds (before ++ (entry.toText.toList ++ after)) [entry]

/-- A text with the entries on lines of their own, in order, and with blank lines anywhere.  A line
ends with a line feed, alone or behind a carriage return, and the last may end without. -/
inductive TextHolds : List Char → List SpecEntry → Prop where
  | last {line : List Char} {entries : List SpecEntry} (one : '\n' ∉ line)
      (holds : LineHolds line entries) : TextHolds line entries
  | more {line ending rest : List Char} {here entries : List SpecEntry} (one : '\n' ∉ line)
      (holds : LineHolds line here) (ends : ending = ['\n'] ∨ ending = ['\r', '\n'])
      (behind : TextHolds rest entries) : TextHolds (line ++ (ending ++ rest)) (here ++ entries)

theorem SpecEntry.length_write_pos (entry : SpecEntry) : 0 < entry.write.length := by
  cases entry <;> simp only [write, List.length_append, Bytes.length_ofWord] <;> omega

/-- The text of an entry is not empty. -/
theorem SpecEntry.toText_ne_nil (entry : SpecEntry) : entry.toText.toList ≠ [] := by
  intro empty
  have length := congrArg List.length empty
  rw [toText, Base64.encode, String.toList_ofList, List.length_map, Base64.length_encodeSymbols,
    List.length_nil] at length
  have written := entry.length_write_pos
  omega

theorem LineHolds.reads (holds : LineHolds line here) (sized : ∀ entry ∈ here, entry.Sized) :
    LineReads line here := by
  cases holds with
  | blank blank => exact .skipped (Text.trimBlankChars_of_blank blank)
  | entry entry blankBefore blankAfter =>
      have ink : ∀ c ∈ entry.toText.toList, Text.isBlank c = false :=
        fun _ member => Base64.ink_of_mem_encode member
      have trimmed := Text.trimBlankChars_surrounded blankBefore ink blankAfter
      apply LineReads.entry
      · rw [trimmed]
        exact entry.toText_ne_nil
      · rw [trimmed, String.ofList_toList]
        exact SpecEntry.ofText_toText (List.forall_mem_singleton.mp sized)

/-- A carriage return at the end of a line is one more blank. -/
theorem LineReads.append_return (reads : LineReads line here) :
    LineReads (line ++ ['\r']) here := by
  have same : Text.trimBlankChars (line ++ ['\r']) = Text.trimBlankChars line :=
    Text.trimBlankChars_append_blank (by decide) line
  cases reads with
  | skipped blank => exact .skipped (same.trans blank)
  | entry written read =>
      rw [← same] at written read
      exact .entry written read

theorem readEntryLines_of_holds {text : List Char} (holds : TextHolds text entries)
    (sized : ∀ entry ∈ entries, entry.Sized) (number : Nat) :
    readEntryLines number ((text.splitOn '\n').map String.ofList) = .ok entries := by
  induction holds generalizing number with
  | @last line entries one holds =>
      rw [List.splitOn_eq_singleton one, List.map_singleton,
        readEntryLines_of_reads (holds.reads sized), readEntryLines]
      exact congrArg Except.ok (List.append_nil entries)
  | @more line ending rest here entries one holds ends behind inductionHypothesis =>
      obtain ⟨sizedHere, sizedOthers⟩ := List.forall_mem_append.mp sized
      have reads := holds.reads sizedHere
      obtain ⟨whole, noFeed, split, readsWhole⟩ : ∃ whole, '\n' ∉ whole ∧
          line ++ (ending ++ rest) = whole ++ '\n' :: rest ∧ LineReads whole here := by
        rcases ends with rfl | rfl
        · exact ⟨line, one, rfl, reads⟩
        · refine ⟨line ++ ['\r'], ?_, ?_, reads.append_return⟩
          · rw [List.mem_append, List.mem_singleton]
            rintro (inside | ⟨⟨⟩⟩)
            exact one inside
          · rw [List.append_assoc]
            rfl
      rw [split, List.splitOn_append_cons_self_of_not_mem noFeed, List.map_cons,
        readEntryLines_of_reads readsWhole, inductionHypothesis sizedOthers]
      rfl

/-- What loading a base64 listing gives, whatever the text. -/
structure Base64Loading (text : String) : Prop where
  /-- A text that holds entries gives them, in order. -/
  holds : ∀ entries, (∀ entry ∈ entries, entry.Sized) → TextHolds text.toList entries →
    loadBase64Listing text = .ok ⟨entries⟩
  /-- Loading fails if and only if some line is not blank and holds no entry. -/
  fails : (∃ fault, loadBase64Listing text = .error fault) ↔
    ∃ line ∈ text.toList.splitOn '\n', ∃ reason, LineRefused line reason
  /-- The error has the number of the first such line, counted from one with the blank lines. -/
  reports : ∀ fault, loadBase64Listing text = .error fault ↔
    ∃ index reason, FirstLineRefused (text.toList.splitOn '\n') index reason ∧
      fault = .entry (index + 1) reason
  /-- Its message has the number too. -/
  message : ∀ index reason, FirstLineRefused (text.toList.splitOn '\n') index reason →
    ∃ fault, loadBase64Listing text = .error fault ∧
      fault.message = "Parse error: Failed to decode spec entry [format=base64, line=" ++
        toString (index + 1) ++ "]"

theorem loadBase64Listing_eq (text : String) :
    loadBase64Listing text =
      Listing.mk <$> readEntryLines 1 ((text.toList.splitOn '\n').map String.ofList) := by
  rw [loadBase64Listing, Text.splitLines, readEntryLines_lineChars]

theorem loadBase64Listing_eq_error_iff {text : String} :
    loadBase64Listing text = .error fault ↔
      ∃ index reason, FirstLineRefused (text.toList.splitOn '\n') index reason ∧
        fault = .entry (index + 1) reason := by
  rw [loadBase64Listing_eq, map_eq_error_iff]
  constructor
  · intro failed
    obtain ⟨index, reason, first, rfl⟩ := exists_firstLineRefused_of_error failed
    exact ⟨index, reason, first, by rw [Nat.add_comm]⟩
  · rintro ⟨index, reason, first, rfl⟩
    rw [first.readEntryLines_eq, Nat.add_comm]

/-- A base64 listing reads back from every text that has its entries on lines of their own.  Loading
stops at nothing but a line that is not blank and holds no entry, and reports the first. -/
theorem loadBase64Listing_exact (text : String) : Base64Loading text where
  holds entries sized holds := by
    rw [loadBase64Listing_eq, readEntryLines_of_holds holds sized]
    rfl
  fails := by
    constructor
    · rintro ⟨fault, failed⟩
      obtain ⟨_, reason, ⟨before, line, behind, split, _, _, refused⟩, _⟩ :=
        loadBase64Listing_eq_error_iff.mp failed
      refine ⟨line, ?_, reason, refused⟩
      rw [split]
      exact List.mem_append_right before List.mem_cons_self
    · rintro ⟨line, member, reason, refused⟩
      obtain ⟨index, first, found⟩ := exists_firstLineRefused member refused
      exact ⟨_, loadBase64Listing_eq_error_iff.mpr ⟨index, first, found, rfl⟩⟩
  reports _ := loadBase64Listing_eq_error_iff
  message index reason first :=
    ⟨.entry (index + 1) reason,
      loadBase64Listing_eq_error_iff.mpr ⟨index, reason, first, rfl⟩, rfl⟩

/-- A blank line, an entry between blanks in front of a carriage return and a line feed, and an
entry on a last line without an end. -/
theorem loadBase64Listing_exact_crlf :
    let kinds : SpecEnum := ⟨[], [], [0x4B], []⟩
    loadBase64Listing ("\n\t" ++ (SpecEntry.enum kinds).toText ++ " \r\n" ++
      (SpecEntry.errorEnum kinds).toText) = .ok ⟨[.enum kinds, .errorEnum kinds]⟩ := by
  intro kinds
  have small : kinds.Sized :=
    ⟨by decide, by decide, by decide, by decide, List.forall_mem_nil _⟩
  apply (loadBase64Listing_exact _).holds
  · exact List.forall_mem_cons.mpr ⟨small, List.forall_mem_singleton.mpr small⟩
  · have third := LineHolds.entry (.errorEnum kinds) (List.forall_mem_nil _) (List.forall_mem_nil _)
    rw [List.nil_append, List.append_nil] at third
    have second := @LineHolds.entry (.enum kinds) ['\t'] [' ']
      (List.forall_mem_singleton.mpr rfl) (List.forall_mem_singleton.mpr rfl)
    have first := LineHolds.blank (List.forall_mem_nil _)
    have held := TextHolds.more (by decide) first (.inl rfl)
      (.more (by decide) second (.inr rfl) (.last (by decide) third))
    simpa using held

end ContractEvents
