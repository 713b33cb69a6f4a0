/-
Module: ContractEvents.Proofs.FormatDetection
Purpose: A content that some format accepts is detected as that format, and as no other.
Main exports: Text.FirstInk, Xdr.Source.take_of_foreign, Json.bracket_of_array,
  ListingFormat.detect_exactly
-/
import ContractEvents.Listing.Loader
import ContractEvents.Proofs.BinaryReading
import ContractEvents.Proofs.Utf8RoundTrip
import Mathlib.Data.List.TakeWhile

namespace ContractEvents

/-!
Three readers look past blanks in front of a listing, each by a rule of its own.  Detection skips
five ASCII bytes, the JSON reader four of them, and base64 lines are trimmed of all that Unicode
calls blank, after they have been split.  The readers still agree with detection: JSON skips nothing
that detection does not skip, and what detection skips is blank on a line too, so that the byte that
detection finds stands in front of the first line that is not blank.
-/

/-! ### The first line that is not blank -/

namespace Text

/-- Blank lines, and behind them a line whose first character that is not blank is `c`. -/
inductive FirstInk (c : Char) : List (List Char) → Prop where
  | here {blanks : List Char} (blank : ∀ b ∈ blanks, isBlank b = true) (rest : List Char)
      (lines : List (List Char)) : FirstInk c ((blanks ++ c :: rest) :: lines)
  | later {line : List Char} (blank : ∀ b ∈ line, isBlank b = true) {lines : List (List Char)}
      (others : FirstInk c lines) : FirstInk c (line :: lines)

/-- A blank in front of the first of some lines. -/
theorem FirstInk.cons {c b : Char} {line : List Char} {lines : List (List Char)}
    (ink : FirstInk c (line :: lines)) (blank : isBlank b = true) :
    FirstInk c ((b :: line) :: lines) := by
  cases ink with
  | here blanks rest =>
      rw [← List.cons_append]
      exact FirstInk.here (List.forall_mem_cons.mpr ⟨blank, blanks⟩) rest lines
  | later blanks others =>
      exact FirstInk.later (List.forall_mem_cons.mpr ⟨blank, blanks⟩) others

/-- Lines keep the first character of a text that is not blank in its place. -/
theorem firstInk_lineChars {c : Char} (ink : isBlank c = false) {text blanks rest : List Char}
    (split : text = blanks ++ c :: rest) (blank : ∀ b ∈ blanks, isBlank b = true) :
    FirstInk c (lineChars text) := by
  have notFeed : c ≠ '\n' := by
    rintro rfl
    exact absurd ink (by decide)
  have notReturn : c ≠ '\r' := by
    rintro rfl
    exact absurd ink (by decide)
  induction text using lineChars.induct generalizing blanks with
  | case1 =>
      have impossible := congrArg List.length split
      simp at impossible
  | case2 text inductionHypothesis =>
      apply FirstInk.later (by simp)
      match blanks, split with
      | [], split => exact absurd (List.head_eq_of_cons_eq split).symm notReturn
      | [_], split =>
          injection split with _ tail
          exact absurd (List.head_eq_of_cons_eq tail).symm notFeed
      | _ :: _ :: blanks, split =>
          injection split with _ tail
          injection tail with _ tail
          exact inductionHypothesis tail fun b member =>
            blank b (List.mem_cons_of_mem _ (List.mem_cons_of_mem _ member))
  | case3 text inductionHypothesis =>
      apply FirstInk.later (by simp)
      cases blanks with
      | nil => exact absurd (List.head_eq_of_cons_eq split).symm notFeed
      | cons _ blanks =>
          injection split with _ tail
          exact inductionHypothesis tail fun b member => blank b (List.mem_cons_of_mem _ member)
  | case4 first text notPair notAlone noLine inductionHypothesis =>
      rw [lineChars.eq_4 _ _ notPair notAlone, noLine]
      cases blanks with
      | nil =>
          obtain rfl := List.head_eq_of_cons_eq split
          exact FirstInk.here blank [] []
      | cons _ blanks =>
          injection split with _ tail
          have others := inductionHypothesis tail fun b member =>
            blank b (List.mem_cons_of_mem _ member)
          rw [noLine] at others
          cases others
  | case5 first text notPair notAlone line lines found inductionHypothesis =>
      rw [lineChars.eq_4 _ _ notPair notAlone, found]
      cases blanks with
      | nil =>
          obtain rfl := List.head_eq_of_cons_eq split
          exact FirstInk.here blank line lines
      | cons _ blanks =>
          injection split with head tail
          have others := inductionHypothesis tail fun b member =>
            blank b (List.mem_cons_of_mem _ member)
          rw [found] at others
          rw [head]
          exact others.cons (blank _ List.mem_cons_self)

theorem trimBlankChars_of_blank {line : List Char} (blank : ∀ b ∈ line, isBlank b = true) :
    trimBlankChars line = [] := by
  rw [trimBlankChars, List.dropWhile_eq_nil_iff.mpr blank]
  rfl

/-- Trimming a line keeps its first character that is not blank, and drops what stands in front. -/
theorem exists_trimBlankChars {c : Char} (ink : isBlank c = false) {blanks : List Char}
    (blank : ∀ b ∈ blanks, isBlank b = true) (rest : List Char) :
    ∃ kept, trimBlankChars (blanks ++ c :: rest) = c :: kept := by
  rw [trimBlankChars, List.dropWhile_append_of_pos blank,
    List.dropWhile_cons_of_neg (by simp [ink]), List.reverse_cons, List.dropWhile_append]
  split
  · refine ⟨[], ?_⟩
    rw [List.dropWhile_cons_of_neg (by simp [ink])]
    rfl
  · exact ⟨_, List.reverse_concat ..⟩

end Text

/-! ### What base64 refuses -/

namespace Xdr

/-- A byte that is neither a symbol nor a pad nor skipped. -/
structure Foreign (b : UInt8) : Prop where
  notSymbol : Base64.value? b = none
  notPad : b ≠ Base64.pad
  notBlank : Text.isAsciiBlank b = false

variable {b : UInt8} {tail : Bytes} {source : Source}

theorem splitLast_of_foreign (foreign : Foreign b) (start : Nat) :
    Base64.splitLast start [] 0 (b :: tail) = .error (.symbol b start) := by
  rw [Base64.splitLast, if_neg foreign.notPad, if_neg (Nat.lt_irrefl 0), Base64.value,
    foreign.notSymbol]
  rfl

/-- Symbols cannot start with a foreign byte. -/
theorem decodeQuads_of_foreign (foreign : Foreign b) (start : Nat) :
    Base64.decodeQuads start (b :: tail) = .error (.symbol b start) := by
  have refused : Base64.value b start = .error (.symbol b start) := by
    rw [Base64.value, foreign.notSymbol]
  unfold Base64.decodeQuads
  split
  · contradiction
  · rename_i same
    injection same with head
    rw [← head, refused]
    rfl
  · rw [Base64.decodeLast, splitLast_of_foreign foreign]
    rfl

namespace Source

theorem decodeNext_of_foreign (foreign : Foreign b) {count : Nat}
    (window : source.window.take count = b :: tail) :
    ∃ fault, source.decodeNext count = .error fault := by
  rw [decodeNext, window, decodeQuads_of_foreign foreign]
  exact ⟨_, rfl⟩

theorem exists_take_of_window (window : source.window = b :: tail) {count : Nat}
    (some_taken : 0 < count) : ∃ others, source.window.take count = b :: others := by
  obtain ⟨count, rfl⟩ := Nat.exists_eq_succ_of_ne_zero (Nat.ne_of_gt some_taken)
  exact ⟨tail.take count, by rw [window, List.take_succ_cons]⟩

theorem waiting_pos (window : source.window = b :: tail) {count : Nat} (some_taken : 0 < count) :
    0 < source.waiting count := by
  obtain ⟨others, taken⟩ := exists_take_of_window window some_taken
  rw [waiting, taken]
  exact Nat.succ_pos _

theorem decodeFor_of_foreign (foreign : Foreign b) (window : source.window = b :: tail) (n : Nat) :
    ∃ fault, source.decodeFor n = .error fault := by
  rw [decodeFor, window, List.isEmpty_cons, if_neg Bool.false_ne_true]
  split
  · obtain ⟨others, taken⟩ := exists_take_of_window window (waiting_pos window (Nat.succ_pos 3))
    obtain ⟨fault, refused⟩ := decodeNext_of_foreign foreign taken
    rw [refused]
    exact ⟨fault, rfl⟩
  · have counted := waiting_pos window (show 0 < n / 3 * 4 by omega)
    have some_taken : 0 < if source.waiting (n / 3 * 4) < 4 then source.waiting (n / 3 * 4)
        else source.waiting (n / 3 * 4) / 4 * 4 := by
      split
      · exact counted
      · omega
    obtain ⟨others, taken⟩ := exists_take_of_window window some_taken
    exact decodeNext_of_foreign foreign taken

/-- Filling the window only adds behind what it holds. -/
theorem exists_window_fill (source : Source) :
    ∃ more, source.fill.window = source.window ++ more := by
  induction source using fill.induct with
  | case1 source room blank =>
      rw [fill, dif_pos room, if_pos blank]
      exact ⟨_, rfl⟩
  | case2 source room ink inductionHypothesis =>
      obtain ⟨more, filled⟩ := inductionHypothesis
      rw [fill, dif_pos room, if_neg ink, filled, advance, List.append_assoc]
      exact ⟨_, rfl⟩
  | case3 source full =>
      rw [fill, dif_neg full]
      exact ⟨[], (List.append_nil _).symm⟩

theorem fill_ofText_of_foreign (foreign : Foreign b) {text : String}
    (bytes : Utf8.encode text = b :: tail) :
    ∃ others, (ofText text).fill.window = b :: others := by
  have stretch : (ofText text).stretch =
      b :: (tail.take (windowSize - 1)).filter fun b => !Text.isAsciiBlank b := by
    rw [Source.stretch, ofText, bytes]
    exact List.filter_cons_of_pos (by simp [foreign.notBlank])
  have room : (ofText text).window.length < 4 ∧ (ofText text).beyond ≠ [] := by
    rw [ofText, bytes]
    exact ⟨Nat.succ_pos 3, List.cons_ne_nil _ _⟩
  obtain ⟨more, filled⟩ := exists_window_fill (ofText text).advance
  rw [fill, dif_pos room, stretch, List.isEmpty_cons, if_neg Bool.false_ne_true, filled, advance,
    stretch]
  exact ⟨_, rfl⟩

/-- Nothing can be taken from a text that starts with a foreign byte. -/
theorem take_of_foreign (foreign : Foreign b) {text : String}
    (bytes : Utf8.encode text = b :: tail) {n : Nat} (asked : 0 < n) :
    ∃ fault, (ofText text).take n = .error fault := by
  obtain ⟨others, window⟩ := fill_ofText_of_foreign foreign bytes
  obtain ⟨fault, refused⟩ := decodeFor_of_foreign foreign window n
  have requested : (ofText text).request n = .error fault := refused
  rw [take, if_neg (Nat.ne_of_gt asked), requested]
  exact ⟨_, rfl⟩

end Source

end Xdr

/-- No entry is read from a text that starts with a foreign byte. -/
theorem SpecEntry.ofText_of_foreign {b : UInt8} {tail : Bytes} (foreign : Xdr.Foreign b)
    {text : String} (bytes : Utf8.encode text = b :: tail) :
    ∃ fault, SpecEntry.ofText text = .error fault := by
  obtain ⟨fault, refused⟩ := Xdr.Source.take_of_foreign foreign bytes (Nat.succ_pos 3)
  have reader : SpecEntry.reader (Xdr.Source.ofText text).bound none (Xdr.Source.ofText text) =
      .error fault := by
    have word : Xdr.Reader.word none (Xdr.Source.ofText text) = .error fault :=
      Xdr.Reader.bind_error refused _
    have number : Xdr.Reader.choice some none (Xdr.Source.ofText text) = .error fault :=
      Xdr.Reader.bind_error word _
    exact Xdr.Reader.bind_error number _
  rw [SpecEntry.ofText, Xdr.Reader.runText, reader]
  exact ⟨fault, rfl⟩

/-- Entries are not read from lines of which the first that is not blank holds no entry. -/
theorem readEntryLines_of_firstInk {c : Char} (ink : Text.isBlank c = false)
    (refused : ∀ rest, ∃ fault, SpecEntry.ofText (String.ofList (c :: rest)) = .error fault)
    {lines : List (List Char)} (first : Text.FirstInk c lines) (number : Nat) :
    ∃ fault, readEntryLines number (lines.map String.ofList) = .error fault := by
  induction first generalizing number with
  | here blank rest lines =>
      obtain ⟨kept, trimmed⟩ := Text.exists_trimBlankChars ink blank rest
      obtain ⟨fault, refused⟩ := refused kept
      have written : (String.ofList (c :: kept)).isEmpty = false := by simp
      rw [List.map_cons, readEntryLines, Text.trimBlanks, String.toList_ofList, trimmed]
      simp only [written, refused]
      exact ⟨.entry number fault, rfl⟩
  | later blank others inductionHypothesis =>
      rw [List.map_cons, readEntryLines, Text.trimBlanks, String.toList_ofList,
        Text.trimBlankChars_of_blank blank]
      exact inductionHypothesis (number + 1)

/-! ### Where JSON has an array -/

namespace Json

variable {loosely : Bool} {fuel : Nat} {bs after : Bytes} {items : List Json}

theorem literal_eq_ok {value found : Json} {word : Bytes}
    (read : literal value word bs = .ok (found, after)) : found = value := by
  induction word generalizing bs with
  | nil =>
      cases read
      rfl
  | cons expected word inductionHypothesis =>
      cases bs with
      | nil => cases read
      | cons b rest =>
          rw [literal] at read
          split at read
          · exact inductionHypothesis read
          · cases read

/-- A value that was read loosely and is held has been read. -/
theorem read_of_orUnread {read : Except Stop (Json × Bytes)}
    (given : orUnread loosely fuel bs read = .ok (.array items, after)) :
    read = .ok (.array items, after) := by
  unfold orUnread at given
  split at given
  · exact given
  · split at given
    · cases given
    · cases given

/-- An array starts with a bracket. -/
theorem bracket_of_array {depth : Nat}
    (read : value loosely fuel depth bs = .ok (.array items, after)) :
    ∃ rest, skipSpace bs = 0x5B :: rest := by
  cases fuel with
  | zero =>
      rw [value] at read
      cases read
  | succ fuel =>
      rw [value] at read
      split at read
      · cases read
      · rename_i b rest skipped
        have given := read_of_orUnread read
        split_ifs at given with null yes no minus digit quote bracket brace
        · cases literal_eq_ok given
        · cases literal_eq_ok given
        · cases literal_eq_ok given
        · obtain ⟨_, _, number⟩ := bind_eq_ok_iff.mp given
          cases number
        · obtain ⟨_, _, number⟩ := bind_eq_ok_iff.mp given
          cases number
        · obtain ⟨_, _, string⟩ := bind_eq_ok_iff.mp given
          cases string
        · exact ⟨rest, bracket ▸ skipped⟩
        · cases depth with
          | zero => cases given
          | succ depth =>
              obtain ⟨_, _, object⟩ := bind_eq_ok_iff.mp given
              cases object

theorem bracket_of_parseLoosely {text : String} (parsed : parseLoosely text = .ok (.array items)) :
    ∃ rest, skipSpace (Utf8.encode text) = 0x5B :: rest := by
  rw [parseLoosely, parseBytes] at parsed
  split at parsed
  · rename_i found read
    cases parsed
    obtain ⟨⟨held, rest⟩, valueRead, ended⟩ := bind_eq_ok_iff.mp read
    dsimp only at ended
    split at ended
    · cases ended
      exact bracket_of_array valueRead
    · cases ended
  · cases parsed

theorem isAsciiBlank_of_isSpace {b : UInt8} (space : isSpace b = true) :
    Text.isAsciiBlank b = true := by
  simp only [isSpace, Bool.or_eq_true, beq_iff_eq] at space
  rcases space with ((rfl | rfl) | rfl) | rfl
  all_goals rfl

end Json

/-! ### What a content starts with -/

theorem Text.isBlank_of_isAsciiBlank {b : UInt8} (blank : isAsciiBlank b = true) :
    b < 0x80 ∧ isBlank (Char.ofNat b.toNat) = true := by
  simp only [isAsciiBlank, Bool.or_eq_true, beq_iff_eq] at blank
  rcases blank with (((rfl | rfl) | rfl) | rfl) | rfl
  all_goals exact ⟨by decide, by decide⟩

namespace ListingFormat

/-- The first byte of a content that detection does not skip. -/
def firstInk? (content : Bytes) : Option UInt8 :=
  content.find? fun b => !Text.isAsciiBlank b

/-- Base64 lines do not start with a foreign byte, whatever blanks stand in front of it. -/
theorem loadListing_of_foreign {content : Bytes} {b : UInt8} (found : firstInk? content = some b)
    (foreign : Xdr.Foreign b) (ascii : b < 0x80)
    (ink : Text.isBlank (Char.ofNat b.toNat) = false) (listing : Listing) :
    loadListing content .base64 ≠ .ok listing := by
  intro loaded
  obtain ⟨text, decoded, loaded⟩ := bind_eq_ok_iff.mp loaded
  obtain ⟨cs, read, rfl⟩ := map_eq_ok_iff.mp (mapError_eq_ok_iff.mp decoded)
  obtain ⟨entries, entriesRead, -⟩ := map_eq_ok_iff.mp loaded
  obtain ⟨-, blanks, rest, rfl, blank⟩ := List.find?_eq_some_iff_append.mp found
  replace blank : ∀ x ∈ blanks, Text.isAsciiBlank x = true := by simpa using blank
  have inAscii : ∀ x ∈ blanks ++ [b], x < 0x80 := by
    intro x member
    rcases List.mem_append.mp member with earlier | last
    · exact (Text.isBlank_of_isAsciiBlank (blank x earlier)).1
    · rw [List.mem_singleton.mp last]
      exact ascii
  rw [List.append_cons] at read
  obtain ⟨others, rfl⟩ := Utf8.exists_of_decodeFrom_append inAscii read
  have first : Text.FirstInk (Char.ofNat b.toNat) (Text.lineChars
      ((blanks ++ [b]).map (fun b => Char.ofNat b.toNat) ++ others)) := by
    rw [List.map_append, List.map_singleton, ← List.append_cons]
    refine Text.firstInk_lineChars ink rfl ?_
    intro c member
    obtain ⟨x, there, rfl⟩ := List.mem_map.mp member
    exact (Text.isBlank_of_isAsciiBlank (blank x there)).2
  have spelled (tail : List Char) :
      Utf8.encode (String.ofList (Char.ofNat b.toNat :: tail)) = b :: Utf8.encodeChars tail := by
    rw [Utf8.encode, String.toList_ofList]
    exact Utf8.encodeChars_cons_eq (Utf8.encodeChar_of_ascii (UInt8.lt_iff_toNat_lt.mp ascii)) rfl
  obtain ⟨fault, refused⟩ := readEntryLines_of_firstInk ink
    (fun tail => SpecEntry.ofText_of_foreign foreign (spelled tail)) first 1
  rw [Text.splitLines, String.toList_ofList, refused] at entriesRead
  cases entriesRead

theorem foreign_bracket : Xdr.Foreign 0x5B := ⟨rfl, by decide, rfl⟩

theorem foreign_nul : Xdr.Foreign 0x00 := ⟨rfl, by decide, rfl⟩

/-- A JSON listing starts, behind blanks, with a bracket. -/
theorem firstInk?_of_json {content : Bytes} {listing : Listing}
    (loaded : loadListing content .json = .ok listing) : firstInk? content = some 0x5B := by
  obtain ⟨text, decoded, loaded⟩ := bind_eq_ok_iff.mp loaded
  have bytes := Utf8.encode_of_decode (mapError_eq_ok_iff.mp decoded)
  rw [loadJsonListing] at loaded
  split at loaded
  · cases loaded
  · rename_i value parsed
    cases value with
    | array items =>
        obtain ⟨rest, skipped⟩ := Json.bracket_of_parseLoosely parsed
        rw [bytes, Json.skipSpace] at skipped
        rw [firstInk?, ← List.takeWhile_append_dropWhile (p := Json.isSpace) (l := content),
          skipped, List.find?_append, List.find?_eq_none.mpr]
        · rfl
        · intro b member
          have space := List.mem_takeWhile_imp member
          simp [Json.isAsciiBlank_of_isSpace space]
    | _ => cases loaded

theorem firstInk?_of_magic {content : Bytes} (magic : wasmMagic.isPrefixOf content = true) :
    firstInk? content = some 0x00 := by
  obtain ⟨rest, rfl⟩ := List.isPrefixOf_iff_prefix.mp magic
  rfl

/-- A compiled contract starts with the magic bytes. -/
theorem magic_of_wasm {content : Bytes} {listing : Listing}
    (loaded : loadListing content .wasm = .ok listing) :
    wasmMagic.isPrefixOf content = true := by
  by_contra other
  have header : Wasm.readHeader content = none := if_neg other
  have refused : loadListing content .wasm = .error (.wasm .unreadable) := by
    rw [loadListing, loadWasmListing, Wasm.readEntries, Wasm.sectionData, header]
    rfl
  rw [refused] at loaded
  cases loaded

/-! ### Detection -/

theorem detect_of_magic {content : Bytes} (magic : wasmMagic.isPrefixOf content = true) :
    detect content = .wasm := if_pos magic

theorem detect_of_bracket {content : Bytes} (found : firstInk? content = some 0x5B) :
    detect content = .json := by
  have other : ¬ wasmMagic.isPrefixOf content = true := by
    intro magic
    rw [firstInk?_of_magic magic] at found
    cases found
  rw [firstInk?] at found
  rw [detect, if_neg other, found]
  rfl

theorem detect_of_neither {content : Bytes} (notWasm : ¬ wasmMagic.isPrefixOf content = true)
    (notJson : firstInk? content ≠ some 0x5B) : detect content = .base64 := by
  rw [detect, if_neg notWasm]
  split
  · rename_i found
    exact absurd found notJson
  · rfl

theorem detect_of_loadListing {content : Bytes} {format : ListingFormat} {listing : Listing}
    (loaded : loadListing content format = .ok listing) : detect content = format := by
  cases format with
  | wasm => exact detect_of_magic (magic_of_wasm loaded)
  | json => exact detect_of_bracket (firstInk?_of_json loaded)
  | base64 =>
      apply detect_of_neither
      · intro magic
        exact loadListing_of_foreign (firstInk?_of_magic magic) foreign_nul (by decide)
          (by decide) listing loaded
      · intro found
        exact loadListing_of_foreign found foreign_bracket (by decide) (by decide) listing loaded

/-- A content that a format accepts is detected as that format.  So no two formats accept it, and a
file that can be read is loaded if some format accepts its content, with what that format gives. -/
theorem detect_exactly (content : Bytes) :
    (∀ format listing, loadListing content format = .ok listing → detect content = format) ∧
      (∀ one two first second, loadListing content one = .ok first →
        loadListing content two = .ok second → one = two) ∧
      ∀ path listing, loadListingFile path (.ok content) = .ok listing ↔
        ∃ format, loadListing content format = .ok listing := by
  refine ⟨fun _ _ loaded => detect_of_loadListing loaded, ?_, ?_⟩
  · intro one two first second loadedFirst loadedSecond
    rw [← detect_of_loadListing loadedFirst, ← detect_of_loadListing loadedSecond]
  · intro path listing
    constructor
    · intro loaded
      exact ⟨detect content, loaded⟩
    · rintro ⟨format, loaded⟩
      obtain rfl := detect_of_loadListing loaded
      exact loaded

/-- A vertical tab is blank on a line, though detection does not skip it. -/
example : loadListing [0x0B, 0x0A] .base64 = .ok ⟨[]⟩ ∧ detect [0x0B, 0x0A] = .base64 :=
  ⟨rfl, rfl⟩

end ListingFormat

end ContractEvents
