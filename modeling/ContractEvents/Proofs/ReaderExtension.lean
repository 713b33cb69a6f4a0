/-
Module: ContractEvents.Proofs.ReaderExtension
Purpose: What a JSON reader takes does not hang on what stands behind it.
Main exports: Json.Extends, Json.EndsInside, Json.nesting, Json.Extendable, Json.extendable
-/
import ContractEvents.Json.Parser
import ContractEvents.Proofs.Outcomes
import Mathlib.Data.List.DropRight
import Mathlib.Data.List.TakeWhile
import Mathlib.Tactic.SplitIfs

namespace ContractEvents.Json

/-!
A reader that has taken a value has seen its end: the quote of a string, the bracket or the brace of
a container, the last letter of a word.  So it takes the same if more bytes stand behind.  Only the
end of a number shows by the byte behind it; inside a container there always is one.  More fuel
changes nothing, and of the room for open containers no more is needed than the value is nested.
-/

/-- The wider reader takes what the other one does, whatever stands behind. -/
def Extends {α : Type} (read wider : Step α) : Prop :=
  ∀ ⦃bs rest : Bytes⦄ ⦃found : α⦄, read bs = .ok (found, rest) →
    ∀ tail, wider (bs ++ tail) = .ok (found, rest ++ tail)

/-- The reader takes the same whatever stands behind, as long as it leaves something. -/
def EndsInside {α : Type} (read : Step α) : Prop :=
  ∀ ⦃bs rest : Bytes⦄ ⦃found : α⦄, read bs = .ok (found, rest) → rest ≠ [] →
    ∀ tail, read (bs ++ tail) = .ok (found, rest ++ tail)

section Prefixes

variable {p : UInt8 → Bool} {b : UInt8} {bs rest after tail : Bytes}

theorem dropWhile_append_of_left (left : bs.dropWhile p ≠ []) (tail : Bytes) :
    (bs ++ tail).dropWhile p = bs.dropWhile p ++ tail := by
  rw [List.dropWhile_append, if_neg (by simpa using left)]

theorem takeWhile_append_of_left (left : bs.dropWhile p ≠ []) (tail : Bytes) :
    (bs ++ tail).takeWhile p = bs.takeWhile p := by
  induction bs with
  | nil => exact absurd rfl left
  | cons b bs inductionHypothesis =>
      rw [List.cons_append, List.takeWhile_cons, List.takeWhile_cons]
      split
      · rename_i passed
        rw [List.dropWhile_cons, if_pos passed] at left
        rw [inductionHypothesis left]
      · rfl

/-- What bytes start with they still start with when more is put behind. -/
theorem starts_of_append (more : bs ≠ []) (same : bs ++ tail = b :: after) :
    ∃ rest, bs = b :: rest := by
  obtain ⟨first, rest, rfl⟩ := List.exists_cons_of_ne_nil more
  obtain ⟨rfl, -⟩ := List.cons.inj same
  exact ⟨rest, rfl⟩

theorem skipSpace_append (skipped : skipSpace bs = b :: rest) (tail : Bytes) :
    skipSpace (bs ++ tail) = b :: (rest ++ tail) := by
  have left : bs.dropWhile isSpace ≠ [] := by
    rw [← skipSpace, skipped]
    exact List.cons_ne_nil b rest
  rw [skipSpace, dropWhile_append_of_left left, ← skipSpace, skipped, List.cons_append]

end Prefixes

/-! ### Words and strings -/

theorem extends_literal (value : Json) (word : Bytes) :
    Extends (literal value word) (literal value word) := by
  intro bs rest found read tail
  induction word generalizing bs with
  | nil =>
      cases read
      rfl
  | cons expected word inductionHypothesis =>
      cases bs with
      | nil => cases read
      | cons b bs =>
          rw [literal] at read
          rw [List.cons_append, literal]
          split at read
          · rename_i same
            rw [if_pos same]
            exact inductionHypothesis read
          · cases read

theorem extends_hexEscape : Extends hexEscape hexEscape := by
  intro bs rest found read tail
  match bs with
  | a :: b :: c :: d :: bs =>
      simp only [List.cons_append, hexEscape] at read ⊢
      split at read
      · cases read
        simp only [*]
      · cases read
  | [] | [_] | [_, _] | [_, _, _] => cases read

theorem extends_surrogateLink (expected : UInt8) :
    Extends (surrogateLink expected) (surrogateLink expected) := by
  intro bs rest found read tail
  cases bs with
  | nil => cases read
  | cons b bs =>
      rw [surrogateLink] at read
      rw [List.cons_append, surrogateLink]
      split at read
      · rename_i same
        cases read
        rw [if_pos same]
      · cases read

theorem extends_codeEscape : Extends codeEscape codeEscape := by
  intro bs rest found read tail
  obtain ⟨⟨n, left⟩, digits, read⟩ := bind_eq_ok_iff.mp read
  rw [codeEscape, bind_eq_ok_iff]
  refine ⟨_, extends_hexEscape digits tail, ?_⟩
  dsimp only at read ⊢
  by_cases lone : (decide (0xDC00 ≤ n) && decide (n ≤ 0xDFFF)) = true
  · rw [if_pos lone] at read
    cases read
  rw [if_neg lone] at read ⊢
  split_ifs at read ⊢ with single
  · cases read
    rfl
  · obtain ⟨⟨_, left⟩, backslash, read⟩ := bind_eq_ok_iff.mp read
    obtain ⟨⟨_, left⟩, letter, read⟩ := bind_eq_ok_iff.mp read
    obtain ⟨⟨low, left⟩, digits, read⟩ := bind_eq_ok_iff.mp read
    refine bind_eq_ok_iff.mpr ⟨_, extends_surrogateLink _ backslash tail,
      bind_eq_ok_iff.mpr ⟨_, extends_surrogateLink _ letter tail,
        bind_eq_ok_iff.mpr ⟨_, extends_hexEscape digits tail, ?_⟩⟩⟩
    dsimp only at read ⊢
    split_ifs at read ⊢
    · cases read
    · obtain ⟨rfl, rfl⟩ := Prod.mk.inj (Except.ok.inj read)
      rfl

theorem extends_escape : Extends escape escape := by
  intro bs rest found read tail
  unfold escape at read
  split at read
  case h_10 =>
    obtain ⟨⟨c, left⟩, code, ⟨⟩⟩ := bind_eq_ok_iff.mp read
    exact bind_eq_ok_iff.mpr ⟨_, extends_codeEscape code tail, rfl⟩
  all_goals cases read
  all_goals rfl

theorem extends_stringBytes {fuel wider : Nat} (enough : fuel ≤ wider) :
    Extends (stringBytes fuel) (stringBytes wider) := by
  induction fuel generalizing wider with
  | zero =>
      intro bs rest found read
      cases bs <;> cases read
  | succ fuel inductionHypothesis =>
      obtain ⟨wider, rfl⟩ := Nat.exists_eq_succ_of_ne_zero (Nat.ne_of_gt (Nat.zero_lt_of_lt enough))
      have more := inductionHypothesis (Nat.le_of_succ_le_succ enough)
      intro bs rest found read tail
      cases bs with
      | nil => cases read
      | cons b bs =>
          rw [stringBytes] at read
          rw [List.cons_append, stringBytes]
          split_ifs at read ⊢ with quote backslash control
          · cases read
            rfl
          · obtain ⟨⟨escaped, left⟩, here, read⟩ := bind_eq_ok_iff.mp read
            obtain ⟨⟨others, left⟩, behind, ⟨⟩⟩ := bind_eq_ok_iff.mp read
            exact bind_eq_ok_iff.mpr ⟨_, extends_escape here tail,
              bind_eq_ok_iff.mpr ⟨_, more behind tail, rfl⟩⟩
          · obtain ⟨⟨others, left⟩, behind, ⟨⟩⟩ := bind_eq_ok_iff.mp read
            exact bind_eq_ok_iff.mpr ⟨_, more behind tail, rfl⟩

theorem extends_stringBody {fuel wider : Nat} (enough : fuel ≤ wider) :
    Extends (stringBody fuel) (stringBody wider) := by
  intro bs rest found read tail
  obtain ⟨⟨bytes, left⟩, held, read⟩ := bind_eq_ok_iff.mp read
  refine bind_eq_ok_iff.mpr ⟨_, extends_stringBytes enough held tail, ?_⟩
  dsimp only at read ⊢
  split at read
  · cases read
    rfl
  · cases read

/-! ### Numbers -/

variable {negative : Bool} {significand : Nat}

theorem exponentDigits_append {acc : Nat} {bs : Bytes} (left : (exponentDigits acc bs).2 ≠ [])
    (tail : Bytes) : exponentDigits acc (bs ++ tail) =
      ((exponentDigits acc bs).1, (exponentDigits acc bs).2 ++ tail) := by
  induction bs generalizing acc with
  | nil => exact absurd rfl left
  | cons b bs inductionHypothesis =>
      simp only [List.cons_append, exponentDigits] at left ⊢
      split_ifs at left ⊢ with digit beyond
      · rfl
      · exact inductionHypothesis left
      · rfl

theorem fractionDigits_append {significand count : Nat} {bs : Bytes}
    (left : (fractionDigits significand count bs).2.2 ≠ []) (tail : Bytes) :
    fractionDigits significand count (bs ++ tail) =
      ((fractionDigits significand count bs).1, (fractionDigits significand count bs).2.1,
        (fractionDigits significand count bs).2.2 ++ tail) := by
  induction bs generalizing significand count with
  | nil => exact absurd rfl left
  | cons b bs inductionHypothesis =>
      simp only [List.cons_append, fractionDigits] at left ⊢
      split_ifs at left ⊢ with digit beyond
      · rw [dropWhile_append_of_left left]
      · exact inductionHypothesis left
      · rfl

theorem scientific_eq_ok_iff {exponent : Int} {bs rest : Bytes} {found : JsonNumber} :
    scientific negative significand exponent bs = .ok (found, rest) ↔
      (∃ x, Double.ofScientific? negative significand exponent = some x ∧ .double x = found) ∧
        bs = rest := by
  rw [scientific]
  cases Double.ofScientific? negative significand exponent with
  | none => simp
  | some x => simp

theorem endsInside_unsignedExponent (negative : Bool) (significand : Nat) (shift : Int)
    (down : Bool) : EndsInside (unsignedExponent negative significand shift down) := by
  intro bs rest found read more tail
  cases bs with
  | nil => cases read
  | cons b bs =>
      simp only [unsignedExponent, List.cons_append] at read ⊢
      by_cases digit : (!isDigit b) = true
      · rw [if_pos digit] at read
        cases read
      rw [if_neg digit] at read ⊢
      cases digits : exponentDigits (digitValue b) bs with
      | mk exponent behind =>
          rw [digits] at read
          cases exponent with
          | some e =>
              obtain ⟨held, rfl⟩ := scientific_eq_ok_iff.mp read
              rw [exponentDigits_append (by rw [digits]; exact more) tail, digits]
              exact scientific_eq_ok_iff.mpr ⟨held, rfl⟩
          | none =>
              dsimp only at read
              split at read
              · cases read
              · rename_i bounded
                cases read
                have left : behind ≠ [] := by
                  rintro rfl
                  exact more rfl
                rw [exponentDigits_append (by rw [digits]; exact left) tail, digits]
                dsimp only
                rw [if_neg bounded, dropWhile_append_of_left more]

theorem endsInside_exponentPart (negative : Bool) (significand : Nat) (shift : Int) :
    EndsInside (exponentPart negative significand shift) := by
  intro bs rest found read more tail
  unfold exponentPart at read
  split at read
  · exact endsInside_unsignedExponent negative significand shift false read more tail
  · exact endsInside_unsignedExponent negative significand shift true read more tail
  · rename_i noPlus noMinus
    -- No sign stands in front, so none does when more is put behind.
    have some_left : bs ≠ [] := by
      rintro rfl
      cases read
    unfold exponentPart
    split
    · rename_i same
      obtain ⟨behind, rfl⟩ := starts_of_append some_left same
      exact absurd rfl (noPlus behind)
    · rename_i same
      obtain ⟨behind, rfl⟩ := starts_of_append some_left same
      exact absurd rfl (noMinus behind)
    · exact endsInside_unsignedExponent negative significand shift false read more tail

theorem endsInside_afterFraction (negative : Bool) (significand : Nat) (shift : Int) :
    EndsInside (afterFraction negative significand shift) := by
  intro bs rest found read more tail
  unfold afterFraction at read
  split at read
  · exact endsInside_exponentPart negative significand shift read more tail
  · exact endsInside_exponentPart negative significand shift read more tail
  · rename_i noSmall noLarge
    obtain ⟨held, rfl⟩ := scientific_eq_ok_iff.mp read
    unfold afterFraction
    split
    · rename_i same
      obtain ⟨behind, rfl⟩ := starts_of_append more same
      exact absurd rfl (noSmall behind)
    · rename_i same
      obtain ⟨behind, rfl⟩ := starts_of_append more same
      exact absurd rfl (noLarge behind)
    · exact scientific_eq_ok_iff.mpr ⟨held, rfl⟩

/-- At the end of the bytes nothing is left behind a number. -/
theorem afterFraction_nil {negative : Bool} {significand : Nat} {shift : Int} {rest : Bytes}
    {found : JsonNumber} (read : afterFraction negative significand shift [] = .ok (found, rest)) :
    rest = [] :=
  (scientific_eq_ok_iff.mp read).2.symm

theorem endsInside_fractionPart (negative : Bool) (significand : Nat) (shift : Int) :
    EndsInside (fractionPart negative significand shift) := by
  intro bs rest found read more tail
  cases bs with
  | nil => cases read
  | cons b bs =>
      simp only [fractionPart, List.cons_append] at read ⊢
      by_cases digit : (!isDigit b) = true
      · rw [if_pos digit] at read
        cases read
      rw [if_neg digit] at read ⊢
      have left : (fractionDigits significand 0 (b :: bs)).2.2 ≠ [] := by
        intro ended
        rw [ended] at read
        exact more (afterFraction_nil read)
      have grown := fractionDigits_append left tail
      rw [List.cons_append] at grown
      rw [grown]
      exact endsInside_afterFraction _ _ _ read more tail

theorem afterWhole_nil {negative : Bool} {significand : Nat} {rest : Bytes} {found : JsonNumber}
    (read : afterWhole negative significand [] = .ok (found, rest)) : rest = [] := by
  simp only [afterWhole] at read
  split_ifs at read
  · cases read
    rfl
  · exact (scientific_eq_ok_iff.mp read).2.symm
  · cases read
    rfl

theorem endsInside_afterWhole (negative : Bool) (significand : Nat) :
    EndsInside (afterWhole negative significand) := by
  intro bs rest found read more tail
  unfold afterWhole at read
  split at read
  · exact endsInside_fractionPart negative significand 0 read more tail
  · exact endsInside_exponentPart negative significand 0 read more tail
  · exact endsInside_exponentPart negative significand 0 read more tail
  · rename_i noPoint noSmall noLarge
    have left : bs = rest := by
      split_ifs at read
      · cases read
        rfl
      · exact (scientific_eq_ok_iff.mp read).2
      · cases read
        rfl
    subst bs
    unfold afterWhole
    split
    · rename_i same
      obtain ⟨behind, rfl⟩ := starts_of_append more same
      exact absurd rfl (noPoint behind)
    · rename_i same
      obtain ⟨behind, rfl⟩ := starts_of_append more same
      exact absurd rfl (noSmall behind)
    · rename_i same
      obtain ⟨behind, rfl⟩ := starts_of_append more same
      exact absurd rfl (noLarge behind)
    · split_ifs at read ⊢
      · cases read
        rfl
      · exact scientific_eq_ok_iff.mpr ⟨(scientific_eq_ok_iff.mp read).1, rfl⟩
      · cases read
        rfl

theorem endsInside_afterLongWhole (negative : Bool) (significand : Nat) :
    EndsInside (afterLongWhole negative significand) := by
  intro bs rest found read more tail
  have left : bs.dropWhile isDigit ≠ [] := by
    intro ended
    simp only [afterLongWhole, ended] at read
    exact more (afterFraction_nil read)
  simp only [afterLongWhole, takeWhile_append_of_left left, dropWhile_append_of_left left] at read ⊢
  split at read
  · rename_i point
    rw [point]
    exact endsInside_fractionPart _ _ _ read more tail
  · rename_i noPoint
    split
    · rename_i same
      obtain ⟨behind, starts⟩ := starts_of_append left same
      exact absurd starts (noPoint behind)
    · exact endsInside_afterFraction _ _ _ read more tail

theorem endsInside_wholeDigits (negative : Bool) (significand : Nat) :
    EndsInside (wholeDigits negative significand) := by
  intro bs rest found read more tail
  induction bs generalizing significand with
  | nil => exact absurd (afterWhole_nil read) more
  | cons b bs inductionHypothesis =>
      simp only [List.cons_append, wholeDigits] at read ⊢
      split_ifs at read ⊢ with digit long
      · exact endsInside_afterLongWhole negative significand read more tail
      · exact inductionHypothesis _ read
      · exact endsInside_afterWhole negative significand read more tail

/-- A number ends at the first byte that cannot go on with it. -/
theorem endsInside_numberBody (negative : Bool) : EndsInside (numberBody negative) := by
  intro bs rest found read more tail
  cases bs with
  | nil => cases read
  | cons b bs =>
      simp only [List.cons_append, numberBody] at read ⊢
      split_ifs at read ⊢ with zero digit
      · cases bs with
        | nil => exact absurd (afterWhole_nil read) more
        | cons next bs =>
            dsimp only [List.cons_append] at read ⊢
            split_ifs at read ⊢ with doubled
            · cases read
            · exact endsInside_afterWhole negative 0 read more tail
      · exact endsInside_wholeDigits negative _ read more tail

/-! ### Values -/

mutual

/-- How many containers stand inside each other at most. -/
def nesting : Json → Nat
  | .array items => nestingOfItems items + 1
  | .object members => nestingOfMembers members + 1
  | _ => 0

/-- The greatest nesting in an item list. -/
def nestingOfItems : List Json → Nat
  | [] => 0
  | item :: items => max item.nesting (nestingOfItems items)

/-- The greatest nesting in a member list. -/
def nestingOfMembers : List (String × Json) → Nat
  | [] => 0
  | (_, value) :: members => max value.nesting (nestingOfMembers members)

end

/-- With some fuel the readers of values take what they take with more, however many containers may
be opened beyond those that are. -/
structure Extendable (fuel : Nat) : Prop where
  value {wider depth room : Nat} {bs rest : Bytes} {found : Json} (enough : fuel ≤ wider)
    (read : value false fuel depth bs = .ok (found, rest)) (fits : found.nesting ≤ room)
    (ended : rest ≠ [] ∨ ∀ n, found ≠ .number n) (tail : Bytes) :
    value false wider room (bs ++ tail) = .ok (found, rest ++ tail)
  firstItem {wider depth room : Nat} {bs rest : Bytes} {items : List Json} (enough : fuel ≤ wider)
    (read : firstItem false fuel depth bs = .ok (items, rest)) (fits : nestingOfItems items ≤ room)
    (tail : Bytes) : firstItem false wider room (bs ++ tail) = .ok (items, rest ++ tail)
  moreItems {wider depth room : Nat} {bs rest : Bytes} {items : List Json} (enough : fuel ≤ wider)
    (read : moreItems false fuel depth bs = .ok (items, rest)) (fits : nestingOfItems items ≤ room)
    (tail : Bytes) : moreItems false wider room (bs ++ tail) = .ok (items, rest ++ tail)
  firstMember {wider depth room : Nat} {bs rest : Bytes} {members : List (String × Json)}
    (enough : fuel ≤ wider) (read : firstMember false fuel depth bs = .ok (members, rest))
    (fits : nestingOfMembers members ≤ room) (tail : Bytes) :
    firstMember false wider room (bs ++ tail) = .ok (members, rest ++ tail)
  moreMembers {wider depth room : Nat} {bs rest : Bytes} {members : List (String × Json)}
    (enough : fuel ≤ wider) (read : moreMembers false fuel depth bs = .ok (members, rest))
    (fits : nestingOfMembers members ≤ room) (tail : Bytes) :
    moreMembers false wider room (bs ++ tail) = .ok (members, rest ++ tail)
  memberBody {wider depth room : Nat} {bs rest : Bytes} {member : String × Json}
    (enough : fuel ≤ wider) (read : memberBody false fuel depth bs = .ok (member, rest))
    (fits : member.2.nesting ≤ room) (left : rest ≠ []) (tail : Bytes) :
    memberBody false wider room (bs ++ tail) = .ok (member, rest ++ tail)

theorem orUnread_strict (fuel : Nat) (bs : Bytes) (read : Except Stop (Json × Bytes)) :
    orUnread false fuel bs read = read := by
  cases read <;> rfl

/-- Items have not ended where the bytes have. -/
theorem left_of_moreItems {fuel depth : Nat} {bs : Bytes} {found : List Json × Bytes}
    (read : moreItems false fuel depth bs = .ok found) : bs ≠ [] := by
  rintro rfl
  cases fuel <;> (rw [moreItems] at read; cases read)

theorem left_of_moreMembers {fuel depth : Nat} {bs : Bytes} {found : List (String × Json) × Bytes}
    (read : moreMembers false fuel depth bs = .ok found) : bs ≠ [] := by
  rintro rfl
  cases fuel <;> (rw [moreMembers] at read; cases read)

theorem extendable_zero : Extendable 0 where
  value _ read := by rw [value] at read; cases read
  firstItem _ read := by rw [firstItem] at read; cases read
  moreItems _ read := by rw [moreItems] at read; cases read
  firstMember _ read := by rw [firstMember] at read; cases read
  moreMembers _ read := by rw [moreMembers] at read; cases read
  memberBody _ read := by rw [memberBody] at read; cases read

section Openings

variable {loosely : Bool} {fuel depth : Nat} {b : UInt8} {bs behind after : Bytes}

theorem firstItem_eq (opens : skipSpace bs = b :: behind) (noBracket : b ≠ 0x5D) :
    firstItem loosely (fuel + 1) depth bs = do
      let (item, rest) ← value loosely fuel depth (b :: behind)
      let (items, rest) ← moreItems loosely fuel depth rest
      return (item :: items, rest) := by
  rw [firstItem, opens]
  split
  · rename_i ended
    cases ended
  · rename_i same
    cases same
    exact absurd rfl noBracket
  · rfl

theorem moreItems_eq (comma : skipSpace bs = 0x2C :: behind) (opens : skipSpace behind = b :: after)
    (noBracket : b ≠ 0x5D) :
    moreItems loosely (fuel + 1) depth bs = do
      let (item, rest) ← value loosely fuel depth (b :: after)
      let (items, rest) ← moreItems loosely fuel depth rest
      return (item :: items, rest) := by
  rw [moreItems, comma]
  simp only [opens]
  split
  · rename_i ended
    cases ended
  · rename_i same
    cases same
    exact absurd rfl noBracket
  · rfl

theorem firstMember_eq (quote : skipSpace bs = 0x22 :: behind) :
    firstMember loosely (fuel + 1) depth bs = do
      let (member, rest) ← memberBody loosely fuel depth behind
      let (members, rest) ← moreMembers loosely fuel depth rest
      return (member :: members, rest) := by
  rw [firstMember, quote]
  rfl

theorem moreMembers_eq (comma : skipSpace bs = 0x2C :: behind)
    (quote : skipSpace behind = 0x22 :: after) :
    moreMembers loosely (fuel + 1) depth bs = do
      let (member, rest) ← memberBody loosely fuel depth after
      let (members, rest) ← moreMembers loosely fuel depth rest
      return (member :: members, rest) := by
  rw [moreMembers, comma]
  simp only [quote]

end Openings

section Step

variable {fuel wider depth room : Nat} {bs rest : Bytes}

theorem Extendable.value_succ (extendable : Extendable fuel) (enough : fuel ≤ wider) {found : Json}
    (read : Json.value false (fuel + 1) depth bs = .ok (found, rest)) (fits : found.nesting ≤ room)
    (ended : rest ≠ [] ∨ ∀ n, found ≠ .number n) (tail : Bytes) :
    Json.value false (wider + 1) room (bs ++ tail) = .ok (found, rest ++ tail) := by
  rw [Json.value] at read ⊢
  split at read
  · cases read
  · rename_i b behind skipped
    rw [skipSpace_append skipped]
    dsimp only
    rw [orUnread_strict] at read ⊢
    split_ifs at read ⊢ with null yes no minus digit quote bracket brace
    · exact extends_literal _ _ read tail
    · exact extends_literal _ _ read tail
    · exact extends_literal _ _ read tail
    · obtain ⟨⟨n, left⟩, number, ⟨⟩⟩ := bind_eq_ok_iff.mp read
      have more : rest ≠ [] := ended.resolve_right fun other => other n rfl
      exact bind_eq_ok_iff.mpr ⟨_, endsInside_numberBody true number more tail, rfl⟩
    · obtain ⟨⟨n, left⟩, number, ⟨⟩⟩ := bind_eq_ok_iff.mp read
      have more : rest ≠ [] := ended.resolve_right fun other => other n rfl
      exact bind_eq_ok_iff.mpr ⟨_, endsInside_numberBody false number more tail, rfl⟩
    · obtain ⟨⟨s, left⟩, string, ⟨⟩⟩ := bind_eq_ok_iff.mp read
      exact bind_eq_ok_iff.mpr ⟨_, extends_stringBody enough string tail, rfl⟩
    · cases depth with
      | zero => cases read
      | succ depth =>
          obtain ⟨⟨items, left⟩, held, ⟨⟩⟩ := bind_eq_ok_iff.mp read
          rw [nesting] at fits
          obtain ⟨room, rfl⟩ := Nat.exists_eq_add_of_le' (Nat.le_of_add_left_le fits)
          exact bind_eq_ok_iff.mpr
            ⟨_, extendable.firstItem enough held (Nat.le_of_succ_le_succ fits) tail, rfl⟩
    · cases depth with
      | zero => cases read
      | succ depth =>
          obtain ⟨⟨members, left⟩, held, ⟨⟩⟩ := bind_eq_ok_iff.mp read
          rw [nesting] at fits
          obtain ⟨room, rfl⟩ := Nat.exists_eq_add_of_le' (Nat.le_of_add_left_le fits)
          exact bind_eq_ok_iff.mpr
            ⟨_, extendable.firstMember enough held (Nat.le_of_succ_le_succ fits) tail, rfl⟩

theorem Extendable.itemsBehind (extendable : Extendable fuel) (enough : fuel ≤ wider)
    {items : List Json}
    (read : (do
      let (item, rest) ← Json.value false fuel depth bs
      let (items, rest) ← Json.moreItems false fuel depth rest
      return (item :: items, rest)) = Except.ok (items, rest))
    (fits : nestingOfItems items ≤ room) (tail : Bytes) :
    (do
      let (item, rest) ← Json.value false wider room (bs ++ tail)
      let (items, rest) ← Json.moreItems false wider room rest
      return (item :: items, rest)) = Except.ok (items, rest ++ tail) := by
  obtain ⟨⟨item, left⟩, here, read⟩ := bind_eq_ok_iff.mp read
  obtain ⟨⟨others, left⟩, behind, ⟨⟩⟩ := bind_eq_ok_iff.mp read
  rw [nestingOfItems, Nat.max_le] at fits
  exact bind_eq_ok_iff.mpr
    ⟨_, extendable.value enough here fits.1 (.inl (left_of_moreItems behind)) tail,
      bind_eq_ok_iff.mpr ⟨_, extendable.moreItems enough behind fits.2 tail, rfl⟩⟩

theorem Extendable.firstItem_succ (extendable : Extendable fuel) (enough : fuel ≤ wider)
    {items : List Json} (read : Json.firstItem false (fuel + 1) depth bs = .ok (items, rest))
    (fits : nestingOfItems items ≤ room) (tail : Bytes) :
    Json.firstItem false (wider + 1) room (bs ++ tail) = .ok (items, rest ++ tail) := by
  cases opens : skipSpace bs with
  | nil =>
      rw [Json.firstItem, opens] at read
      cases read
  | cons b behind =>
      by_cases bracket : b = 0x5D
      · subst bracket
        rw [Json.firstItem, opens] at read
        cases read
        rw [Json.firstItem, skipSpace_append opens]
        rfl
      · rw [firstItem_eq opens bracket] at read
        rw [firstItem_eq (skipSpace_append opens tail) bracket]
        exact extendable.itemsBehind enough read fits tail

theorem Extendable.moreItems_succ (extendable : Extendable fuel) (enough : fuel ≤ wider)
    {items : List Json} (read : Json.moreItems false (fuel + 1) depth bs = .ok (items, rest))
    (fits : nestingOfItems items ≤ room) (tail : Bytes) :
    Json.moreItems false (wider + 1) room (bs ++ tail) = .ok (items, rest ++ tail) := by
  rw [Json.moreItems] at read
  split at read
  · cases read
  · rename_i behind skipped
    cases read
    rw [Json.moreItems, skipSpace_append skipped]
    rfl
  · rename_i behind comma
    split at read
    · cases read
    · cases read
    · rename_i some_left noBracket
      obtain ⟨b, after, opens⟩ := List.exists_cons_of_ne_nil some_left
      have bracket : b ≠ 0x5D := by
        rintro rfl
        exact noBracket after opens
      rw [opens] at read
      rw [moreItems_eq (skipSpace_append comma tail) (skipSpace_append opens tail) bracket]
      exact extendable.itemsBehind enough read fits tail
  · cases read

theorem Extendable.membersBehind (extendable : Extendable fuel) (enough : fuel ≤ wider)
    {members : List (String × Json)}
    (read : (do
      let (member, rest) ← Json.memberBody false fuel depth bs
      let (members, rest) ← Json.moreMembers false fuel depth rest
      return (member :: members, rest)) = Except.ok (members, rest))
    (fits : nestingOfMembers members ≤ room) (tail : Bytes) :
    (do
      let (member, rest) ← Json.memberBody false wider room (bs ++ tail)
      let (members, rest) ← Json.moreMembers false wider room rest
      return (member :: members, rest)) = Except.ok (members, rest ++ tail) := by
  obtain ⟨⟨member, left⟩, here, read⟩ := bind_eq_ok_iff.mp read
  obtain ⟨⟨others, left⟩, behind, ⟨⟩⟩ := bind_eq_ok_iff.mp read
  rw [nestingOfMembers, Nat.max_le] at fits
  exact bind_eq_ok_iff.mpr
    ⟨_, extendable.memberBody enough here fits.1 (left_of_moreMembers behind) tail,
      bind_eq_ok_iff.mpr ⟨_, extendable.moreMembers enough behind fits.2 tail, rfl⟩⟩

theorem Extendable.firstMember_succ (extendable : Extendable fuel) (enough : fuel ≤ wider)
    {members : List (String × Json)}
    (read : Json.firstMember false (fuel + 1) depth bs = .ok (members, rest))
    (fits : nestingOfMembers members ≤ room) (tail : Bytes) :
    Json.firstMember false (wider + 1) room (bs ++ tail) = .ok (members, rest ++ tail) := by
  rw [Json.firstMember] at read
  split at read
  · cases read
  · rename_i behind skipped
    cases read
    rw [Json.firstMember, skipSpace_append skipped]
    rfl
  · rename_i behind quote
    rw [firstMember_eq (skipSpace_append quote tail)]
    exact extendable.membersBehind enough read fits tail
  · cases read

theorem Extendable.moreMembers_succ (extendable : Extendable fuel) (enough : fuel ≤ wider)
    {members : List (String × Json)}
    (read : Json.moreMembers false (fuel + 1) depth bs = .ok (members, rest))
    (fits : nestingOfMembers members ≤ room) (tail : Bytes) :
    Json.moreMembers false (wider + 1) room (bs ++ tail) = .ok (members, rest ++ tail) := by
  rw [Json.moreMembers] at read
  split at read
  · cases read
  · rename_i behind skipped
    cases read
    rw [Json.moreMembers, skipSpace_append skipped]
    rfl
  · rename_i behind comma
    split at read
    · cases read
    · cases read
    · rename_i after quote
      rw [moreMembers_eq (skipSpace_append comma tail) (skipSpace_append quote tail)]
      exact extendable.membersBehind enough read fits tail
    · cases read
  · cases read

theorem Extendable.memberBody_succ (extendable : Extendable fuel) (enough : fuel ≤ wider)
    {member : String × Json}
    (read : Json.memberBody false (fuel + 1) depth bs = .ok (member, rest))
    (fits : member.2.nesting ≤ room) (more : rest ≠ []) (tail : Bytes) :
    Json.memberBody false (wider + 1) room (bs ++ tail) = .ok (member, rest ++ tail) := by
  rw [Json.memberBody] at read ⊢
  obtain ⟨⟨name, left⟩, named, read⟩ := bind_eq_ok_iff.mp read
  refine bind_eq_ok_iff.mpr ⟨_, extends_stringBody enough named tail, ?_⟩
  dsimp only at read ⊢
  split at read
  · cases read
  · rename_i behind colon
    obtain ⟨⟨held, left⟩, here, ⟨⟩⟩ := bind_eq_ok_iff.mp read
    rw [skipSpace_append colon]
    exact bind_eq_ok_iff.mpr ⟨_, extendable.value enough here fits (.inl more) tail, rfl⟩
  · cases read

end Step

/-- The readers of values take the same with more fuel, with more behind and with any room for open
containers that is enough for what they take. -/
theorem extendable (fuel : Nat) : Extendable fuel := by
  -- Every reader calls the others with less fuel, so they are gone through together.
  induction fuel with
  | zero => exact extendable_zero
  | succ fuel inductionHypothesis =>
      have less {wider : Nat} (enough : fuel + 1 ≤ wider) :
          ∃ most, wider = most + 1 ∧ fuel ≤ most := ⟨wider - 1, by omega, by omega⟩
      constructor
      · intro wider depth room bs rest found enough read fits ended tail
        obtain ⟨most, rfl, enoughMost⟩ := less enough
        exact inductionHypothesis.value_succ enoughMost read fits ended tail
      · intro wider depth room bs rest items enough read fits tail
        obtain ⟨most, rfl, enoughMost⟩ := less enough
        exact inductionHypothesis.firstItem_succ enoughMost read fits tail
      · intro wider depth room bs rest items enough read fits tail
        obtain ⟨most, rfl, enoughMost⟩ := less enough
        exact inductionHypothesis.moreItems_succ enoughMost read fits tail
      · intro wider depth room bs rest members enough read fits tail
        obtain ⟨most, rfl, enoughMost⟩ := less enough
        exact inductionHypothesis.firstMember_succ enoughMost read fits tail
      · intro wider depth room bs rest members enough read fits tail
        obtain ⟨most, rfl, enoughMost⟩ := less enough
        exact inductionHypothesis.moreMembers_succ enoughMost read fits tail
      · intro wider depth room bs rest member enough read fits left tail
        obtain ⟨most, rfl, enoughMost⟩ := less enough
        exact inductionHypothesis.memberBody_succ enoughMost read fits left tail

end ContractEvents.Json
