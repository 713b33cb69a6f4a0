/-
Module: ContractEvents.Proofs.TextSource
Purpose: Base64 text that is decoded as it is asked for gives the bytes that it spells.
Main exports: Xdr.Source.Holds, Xdr.Source.holds_ofText, Xdr.Source.exists_request,
  Xdr.Source.exists_take, Xdr.Reader.exists_finish
-/
import ContractEvents.Proofs.BinaryText
import ContractEvents.Xdr.Reader

namespace ContractEvents.Xdr

/-!
A source holds bytes if they are what it has yet to give: first those that are ready, then those
that the symbols in its window and in the text behind spell.  Every request takes a part of them
from the front, whatever quads it decodes on the way, and leaves a source that holds the rest.  A
pad can only have been decoded when nothing is left.
-/

namespace Source

variable {s : Source} {bs : Bytes}

/-- The bytes that a source has yet to give. -/
def Holds (s : Source) (bs : Bytes) : Prop :=
  ∃ behind, bs = s.ready ++ behind ∧ s.window ++ s.beyond = Base64.encodeSymbols behind ∧
    (s.padAt = none ∨ behind = [])

theorem holds_ofBytes (bs : Bytes) : (ofBytes bs).Holds bs :=
  ⟨[], (List.append_nil bs).symm, rfl, .inr rfl⟩

theorem holds_ofText (bs : Bytes) : (ofText (Base64.encode bs)).Holds bs :=
  ⟨bs, rfl, Base64.encode_utf8 bs, .inl rfl⟩

/-- Bytes that are put in front of a source that has none ready. -/
theorem Holds.behind (holds : s.Holds bs) (fresh : s.ready = []) (front : Bytes) :
    Holds { s with ready := front } (front ++ bs) := by
  obtain ⟨behind, parts, spelled, padded⟩ := holds
  rw [fresh, List.nil_append] at parts
  subst behind
  exact ⟨bs, rfl, spelled, padded⟩

/-! ### Filling the window -/

/-- Nothing in the text behind the window is skipped. -/
def Clean (s : Source) : Prop := ∀ b ∈ s.beyond, Text.isAsciiBlank b = false

theorem Clean.stretch_eq (clean : s.Clean) : s.stretch = s.beyond.take s.room := by
  rw [stretch, List.filter_eq_self]
  intro b member
  rw [clean b (List.mem_of_mem_take member)]
  rfl

theorem Clean.advance (clean : s.Clean) : s.advance.Clean :=
  fun b member => clean b (List.mem_of_mem_drop member)

theorem Clean.symbols_advance (clean : s.Clean) :
    s.advance.window ++ s.advance.beyond = s.window ++ s.beyond := by
  rw [Source.advance, clean.stretch_eq, List.append_assoc, List.take_append_drop]

/-- Two sources differ at most in how much of the text is in the window. -/
structure SameText (s after : Source) : Prop where
  ready : after.ready = s.ready
  symbols : after.window ++ after.beyond = s.window ++ s.beyond
  padAt : after.padAt = s.padAt

theorem SameText.holds {after : Source} (same : s.SameText after) (holds : s.Holds bs) :
    after.Holds bs := by
  obtain ⟨behind, parts, spelled, padded⟩ := holds
  exact ⟨behind, by rw [same.ready, parts], by rw [same.symbols, spelled],
    by rwa [same.padAt]⟩

/-- Filling brings a quad into the window unless the text ends before. -/
theorem Clean.fill (clean : s.Clean) :
    s.SameText s.fill ∧ (4 ≤ s.fill.window.length ∨ s.fill.beyond = []) := by
  induction s using fill.induct with
  | case1 s wanting empty =>
      have whole := clean.stretch_eq
      rw [List.isEmpty_iff.mp empty] at whole
      have none_taken := congrArg List.length whole
      have some_beyond := List.length_pos_iff.mpr wanting.2
      simp only [List.length_nil, List.length_take, room, windowSize] at none_taken
      omega
  | case2 s wanting nonempty inductionHypothesis =>
      obtain ⟨same, filled⟩ := inductionHypothesis clean.advance
      rw [Source.fill, dif_pos wanting, if_neg nonempty]
      exact ⟨⟨same.ready, same.symbols.trans clean.symbols_advance, same.padAt⟩, filled⟩
  | case3 s enough =>
      rw [Source.fill, dif_neg enough]
      refine ⟨⟨rfl, rfl, rfl⟩, ?_⟩
      by_cases quad : 4 ≤ s.window.length
      · exact .inl quad
      · refine .inr (Classical.byContradiction fun some_beyond => enough ⟨?_, some_beyond⟩)
        omega

theorem Holds.clean (holds : s.Holds bs) : s.Clean := by
  obtain ⟨behind, -, spelled, -⟩ := holds
  intro b member
  have inText : b ∈ Base64.encodeSymbols behind := by
    rw [← spelled]
    exact List.mem_append_right _ member
  have spells : ∀ b ∈ Base64.encodeSymbols behind, Text.isAsciiBlank b = false :=
    Base64.forall_mem_encodeSymbols (by decide) (by decide) behind
  exact spells b inText

/-! ### Requests -/

/-- Decoding whole quads of the window takes the bytes that they spell. -/
theorem exists_decodeNext {behind : Bytes} {quads : Nat}
    (spelled : s.window ++ s.beyond = Base64.encodeSymbols behind) (unpadded : s.padAt = none)
    (inWindow : quads * 4 ≤ s.window.length) :
    ∃ rest, s.decodeNext (quads * 4) = .ok (behind.take (quads * 3), rest) ∧ rest.ready = [] ∧
      rest.Holds (behind.drop (quads * 3)) := by
  obtain ⟨front, back⟩ := Base64.split_encodeSymbols quads behind
  rw [← spelled, List.take_append_of_le_length inWindow] at front
  rw [← spelled, List.drop_append_of_le_length inWindow] at back
  obtain ⟨padAt, decoded, padded⟩ :=
    Base64.decodeQuads_encodeSymbols s.consumed (behind.take (quads * 3))
  rw [← front] at decoded
  refine ⟨_, by rw [decodeNext, decoded, unpadded], rfl, behind.drop (quads * 3), rfl, back, ?_⟩
  rcases padded with none_here | short
  · exact .inl none_here
  · -- A last quad with a pad is the last one of the text.
    rw [List.length_take] at short
    exact .inr (List.drop_of_length_le (by omega))

/-- A request on a filled source. -/
theorem exists_decodeFor {n : Nat} (wanted : 0 < n) (fresh : s.ready = []) (holds : s.Holds bs)
    (filled : 4 ≤ s.window.length ∨ s.beyond = []) (more : bs ≠ []) :
    ∃ got left rest, s.decodeFor n = .ok (got, rest) ∧ bs = got ++ left ∧ got ≠ [] ∧
      got.length ≤ n ∧ rest.Holds left := by
  obtain ⟨behind, parts, spelled, padded⟩ := holds
  rw [fresh, List.nil_append] at parts
  subst behind
  have unpadded : s.padAt = none := padded.resolve_right more
  have quad : 4 ≤ s.window.length := by
    rcases filled with quad | ended
    · exact quad
    · have length := congrArg List.length spelled
      have some_bytes := List.length_pos_iff.mpr more
      rw [ended, List.append_nil, Base64.length_encodeSymbols] at length
      omega
  have nonempty : s.window.isEmpty = false := by
    cases window : s.window with
    | nil => simp [window] at quad
    | cons b window => rfl
  have some_front {count : Nat} (positive : 0 < count) : bs.take count ≠ [] := by
    simp [List.take_eq_nil_iff, more, Nat.pos_iff_ne_zero.mp positive]
  rw [decodeFor, nonempty]
  by_cases few : n < 3
  · have four : s.waiting 4 = 1 * 4 := by
      rw [waiting, List.length_take]
      omega
    obtain ⟨rest, decoded, fresh, holds⟩ := exists_decodeNext spelled unpadded
      (show 1 * 4 ≤ s.window.length by omega)
    refine ⟨(bs.take 3).take n, (bs.take 3).drop n ++ bs.drop 3, _, ?_, ?_, ?_, ?_,
      holds.behind fresh _⟩
    · rw [if_neg (by simp), if_pos few, four, decoded]
      rfl
    · rw [← List.append_assoc, List.take_append_drop, List.take_append_drop]
    · rw [List.take_take]
      exact some_front (by omega)
    · exact List.length_take_le ..
  · have width : s.waiting (n / 3 * 4) = min (n / 3 * 4) s.window.length := List.length_take
    obtain ⟨rest, decoded, -, holds⟩ := exists_decodeNext spelled unpadded
      (show s.waiting (n / 3 * 4) / 4 * 4 ≤ s.window.length by omega)
    refine ⟨_, _, rest, ?_, (List.take_append_drop ..).symm, some_front ?_, ?_, holds⟩
    · have enough : ¬ s.waiting (n / 3 * 4) < 4 := by omega
      simp only [Bool.false_eq_true, if_false, few, enough, decoded]
    · omega
    · rw [List.length_take]
      omega

/-- At the end a request gives nothing. -/
theorem exists_request_of_nil (n : Nat) (holds : s.Holds []) :
    ∃ rest, s.request n = .ok ([], rest) ∧ rest.Holds [] := by
  have ended := holds
  obtain ⟨behind, parts, -, -⟩ := ended
  obtain ⟨fresh, -⟩ := List.append_eq_nil_iff.mp parts.symm
  obtain ⟨same, -⟩ := holds.clean.fill
  have filled := same.holds holds
  refine ⟨s.fill, ?_, filled⟩
  obtain ⟨behind, parts, spelled, -⟩ := filled
  obtain ⟨-, rfl⟩ := List.append_eq_nil_iff.mp parts.symm
  obtain ⟨window, -⟩ := List.append_eq_nil_iff.mp spelled
  rw [request, fresh, decodeFor, window]
  rfl

/-- A request gives some bytes from the front, at most as many as it asks for. -/
theorem exists_request {n : Nat} (wanted : 0 < n) (holds : s.Holds bs) (more : bs ≠ []) :
    ∃ got left rest, s.request n = .ok (got, rest) ∧ bs = got ++ left ∧ got ≠ [] ∧
      got.length ≤ n ∧ rest.Holds left := by
  cases ready : s.ready with
  | nil =>
      obtain ⟨same, filled⟩ := holds.clean.fill
      rw [request, ready]
      exact exists_decodeFor wanted (same.ready.trans ready) (same.holds holds) filled more
  | cons b others =>
      obtain ⟨behind, rfl, spelled, padded⟩ := holds
      refine ⟨s.ready.take n, s.ready.drop n ++ behind, { s with ready := s.ready.drop n }, ?_, ?_,
        ?_, List.length_take_le .., behind, rfl, spelled, padded⟩
      · rw [request, ready]
        rfl
      · rw [← List.append_assoc, List.take_append_drop]
      · simp [ready, Nat.pos_iff_ne_zero.mp wanted]

/-- Bytes that are there are taken exactly. -/
theorem exists_take {front back : Bytes} (holds : s.Holds (front ++ back)) :
    ∃ rest, s.take front.length = .ok (front, rest) ∧ rest.Holds back := by
  obtain ⟨n, length⟩ : ∃ n, front.length = n := ⟨_, rfl⟩
  induction n using Nat.strongRecOn generalizing s front with
  | _ n inductionHypothesis =>
    by_cases empty : front = []
    · subst empty
      exact ⟨s, by rw [List.length_nil, take]; rfl, holds⟩
    · have wanted : 0 < front.length := List.length_pos_iff.mpr empty
      obtain ⟨got, left, middle, requested, parts, some_got, short, holdsLeft⟩ :=
        exists_request wanted holds (by simp [empty])
      -- What the request gives lies in front, for it is no longer than what was asked for.
      obtain ⟨others, rfl, rfl⟩ : ∃ others, front = got ++ others ∧ left = others ++ back := by
        obtain ⟨others, front_eq⟩ := List.prefix_of_prefix_length_le ⟨left, parts.symm⟩
          ⟨back, rfl⟩ short
        refine ⟨others, front_eq.symm, ?_⟩
        rw [← front_eq, List.append_assoc] at parts
        exact (List.append_cancel_left parts).symm
      have lengthGot : 0 < got.length := List.length_pos_iff.mpr some_got
      rw [List.length_append] at length requested wanted ⊢
      obtain ⟨rest, taken, holdsRest⟩ := inductionHypothesis others.length (by omega) holdsLeft rfl
      refine ⟨rest, ?_, holdsRest⟩
      have remaining : got.length + others.length - got.length = others.length := by omega
      rw [take, if_neg (by omega), requested]
      simp only [Nat.pos_iff_ne_zero.mp lengthGot, dite_false, remaining, taken]
      rfl

end Source

/-- Nothing is left of a source that holds nothing. -/
theorem Reader.exists_finish {s : Source} (holds : s.Holds []) (limit : Option Nat) :
    ∃ rest, finish limit s = .ok ((), rest) := by
  obtain ⟨rest, requested, -⟩ := Source.exists_request_of_nil 1 holds
  exact ⟨rest, by rw [finish, requested]⟩

end ContractEvents.Xdr
