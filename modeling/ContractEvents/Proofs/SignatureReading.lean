/-
Module: ContractEvents.Proofs.SignatureReading
Purpose: The signature of a wire type can be read in one way only.
Main exports: WireType.Contents, WireType.toList_text, WireType.names, WireType.NamesApart,
  WireType.ReadsOnce, WireType.readsOnce, WireType.text_eq_text_iff
-/
import ContractEvents.Types.Wire
import Mathlib.Data.List.Basic

namespace ContractEvents

/-!
A signature starts with the name of its constructor, in letters and digits, and goes on with what
the type is made of: arguments between angle brackets, with commas between them, or the name of an
unknown type in parentheses, or nothing.  Inside another signature it ends in front of a comma or a
closing bracket.  So the name of an unknown type may hold parentheses and opening brackets: as long
as it holds neither a comma nor a closing bracket, nothing in it is taken for the end.
-/

namespace WireType

/-! ### What a signature is made of -/

/-- What stands behind the name of a type's constructor. -/
inductive Contents where
  | nothing
  /-- The arguments, in angle brackets. -/
  | arguments (types : List WireType)
  /-- The name of an unknown type, in parentheses. -/
  | unknown (name : String)

/-- What a type is made of. -/
def contents : WireType → Contents
  | .vec item => .arguments [item]
  | .option inner => .arguments [inner]
  | .map key value => .arguments [key, value]
  | .tuple items => .arguments items
  | .unknown name => .unknown name
  | _ => .nothing

/-- The arguments of a type. -/
def Contents.types : Contents → List WireType
  | .arguments types => types
  | _ => []

/-- The signatures of further arguments, each behind a comma, and the closing bracket. -/
def furtherArguments : List WireType → List Char
  | [] => ['>']
  | type :: types => ',' :: (type.text.toList ++ furtherArguments types)

/-- The signatures of all arguments, and the closing bracket. -/
def allArguments : List WireType → List Char
  | [] => ['>']
  | type :: types => type.text.toList ++ furtherArguments types

/-- The characters behind the name of a constructor. -/
def Contents.chars : Contents → List Char
  | .nothing => []
  | .arguments types => '<' :: allArguments types
  | .unknown name => '(' :: (name.toList ++ [')'])

/-- A type is told by its constructor and by what it is made of. -/
theorem eq_of_kind_of_contents {one two : WireType} (kinds : one.kind = two.kind)
    (same : one.contents = two.contents) : one = two := by
  cases one <;> cases two <;> simp_all [kind, contents]

theorem toList_intercalate_textOfItems (type : WireType) (types : List WireType) :
    (",".intercalate (textOfItems (type :: types)) ++ ">").toList =
      allArguments (type :: types) := by
  induction types generalizing type with
  | nil => simp [textOfItems, allArguments, furtherArguments]
  | cons next types inductionHypothesis =>
      have rest := inductionHypothesis next
      simp only [textOfItems, allArguments, furtherArguments, String.intercalate_cons_cons,
        String.toList_append, List.append_assoc] at rest ⊢
      rw [rest]
      rfl

/-- A signature is the name of the constructor, and what the type is made of behind it. -/
theorem toList_text (type : WireType) :
    type.text.toList = type.kind.toList ++ type.contents.chars := by
  cases type with
  | vec item | option item =>
      simp [text, kind, contents, Contents.chars, allArguments, furtherArguments]
  | map key value => simp [text, kind, contents, Contents.chars, allArguments, furtherArguments]
  | unknown name => simp [text, kind, contents, Contents.chars]
  | tuple items =>
      cases items with
      | nil => rfl
      | cons item items =>
          have inside := toList_intercalate_textOfItems item items
          simp only [text, String.append_assoc, String.toList_append] at inside ⊢
          rw [inside]
          simp [kind, contents, Contents.chars]
  | _ => exact (List.append_nil _).symm

/-! ### Names of unknown types -/

mutual

/-- The names of the unknown types inside a type. -/
def names : WireType → List String
  | .vec item => item.names
  | .option inner => inner.names
  | .map key value => key.names ++ value.names
  | .tuple items => namesOfItems items
  | .unknown name => [name]
  | _ => []

/-- The names of the unknown types inside a list of types. -/
def namesOfItems : List WireType → List String
  | [] => []
  | item :: items => item.names ++ namesOfItems items

end

/-- No name of an unknown type holds a comma or a closing bracket. -/
def NamesApart (type : WireType) : Prop :=
  ∀ name ∈ type.names, ',' ∉ name.toList ∧ '>' ∉ name.toList

theorem mem_namesOfItems {name : String} {types : List WireType} :
    name ∈ namesOfItems types ↔ ∃ type ∈ types, name ∈ type.names := by
  induction types with
  | nil => simp [namesOfItems]
  | cons type types inductionHypothesis => simp [namesOfItems, inductionHypothesis]

/-- No name of an unknown type in what a type is made of holds a comma or a closing bracket. -/
structure Contents.Apart (contents : Contents) : Prop where
  arguments : ∀ argument ∈ contents.types, argument.NamesApart
  unknown : ∀ name, contents = .unknown name → ',' ∉ name.toList ∧ '>' ∉ name.toList

theorem NamesApart.contents {type : WireType} (apart : type.NamesApart) : type.contents.Apart where
  arguments := by
    intro argument member name inside
    apply apart name
    cases type with
    | vec item | option item =>
        rw [List.mem_singleton.mp member] at inside
        exact inside
    | map key value =>
        rcases List.mem_pair.mp member with rfl | rfl
        · exact List.mem_append_left _ inside
        · exact List.mem_append_right _ inside
    | tuple items => exact mem_namesOfItems.mpr ⟨argument, member, inside⟩
    | _ => cases member
  unknown := by
    intro name made
    cases type <;> cases made
    exact apart name (List.mem_singleton_self name)

mutual

/-- What holds of a type if it holds of its arguments holds of all types. -/
theorem induction_on_arguments {motive : WireType → Prop}
    (step : ∀ type, (∀ argument ∈ type.contents.types, motive argument) → motive type) :
    ∀ type, motive type
  | .vec item | .option item => by
      apply step
      intro argument member
      rw [List.mem_singleton.mp member]
      exact induction_on_arguments step item
  | .map key value => by
      apply step
      intro argument member
      rcases List.mem_pair.mp member with same | same
      · rw [same]
        exact induction_on_arguments step key
      · rw [same]
        exact induction_on_arguments step value
  | .tuple items => step _ (induction_on_items step items)
  | .bool | .i32 | .u32 | .i64 | .u64 | .timepoint | .duration | .i128 | .u128 | .i256 | .u256
  | .address | .muxedAddress | .string | .symbol | .unknown _ =>
      step _ fun _ member => nomatch member

/-- It holds of each type of a list. -/
theorem induction_on_items {motive : WireType → Prop}
    (step : ∀ type, (∀ argument ∈ type.contents.types, motive argument) → motive type) :
    ∀ items : List WireType, ∀ item ∈ items, motive item
  | [], _, member => nomatch member
  | first :: items, item, member => by
      rcases List.mem_cons.mp member with same | behind
      · rw [same]
        exact induction_on_arguments step first
      · exact induction_on_items step items item behind

end

/-! ### Reading from the start -/

/-- A signature ends in front of these characters. -/
def AtEnd (rest : List Char) : Prop := ∀ c ∈ rest.head?, c = ',' ∨ c = '>'

theorem AtEnd.of_cons {rest behind : List Char} (ended : AtEnd rest) (c : Char)
    (same : rest = c :: behind) : c = ',' ∨ c = '>' := by
  subst same
  exact ended c rfl

theorem atEnd_furtherArguments (types : List WireType) (rest : List Char) :
    AtEnd (furtherArguments types ++ rest) := by
  cases types <;> simp [AtEnd, furtherArguments]

section Runs

variable {p : Char → Bool} {run run' rest rest' : List Char}

/-- A run of characters ends in front of the first that cannot belong to it. -/
theorem takeWhile_run (inRun : ∀ c ∈ run, p c = true) (ended : ∀ c ∈ rest.head?, p c = false) :
    (run ++ rest).takeWhile p = run := by
  have none : rest.takeWhile p = [] := by
    cases rest with
    | nil => rfl
    | cons c rest => exact List.takeWhile_cons_of_neg (by simp [ended c rfl])
  rw [List.takeWhile_append_of_pos inRun, none, List.append_nil]

theorem eq_and_eq_of_run (inRun : ∀ c ∈ run, p c = true) (inRun' : ∀ c ∈ run', p c = true)
    (ended : ∀ c ∈ rest.head?, p c = false) (ended' : ∀ c ∈ rest'.head?, p c = false)
    (same : run ++ rest = run' ++ rest') : run = run' ∧ rest = rest' := by
  have runs : run = run' :=
    calc
      run = (run ++ rest).takeWhile p := (takeWhile_run inRun ended).symm
      _ = (run' ++ rest').takeWhile p := congrArg (List.takeWhile p) same
      _ = run' := takeWhile_run inRun' ended'
  subst runs
  exact ⟨rfl, List.append_cancel_left same⟩

end Runs

theorem isAlphanum_of_mem_kind {type : WireType} :
    ∀ c ∈ type.kind.toList, c.isAlphanum = true := by
  apply List.all_eq_true.mp
  cases type <;> simp only [kind] <;> decide

theorem kind_toList_ne_nil (type : WireType) : type.kind.toList ≠ [] := by
  cases type <;> simp [kind]

theorem not_isAlphanum_of_behind {contents : Contents} {rest : List Char} (ended : AtEnd rest) :
    ∀ c ∈ (contents.chars ++ rest).head?, c.isAlphanum = false := by
  intro c first
  cases contents with
  | nothing => rcases ended c first with rfl | rfl <;> rfl
  | arguments types =>
      cases first
      rfl
  | unknown name =>
      cases first
      rfl

/-- A signature of the type, wherever it ends, is that of no other type, and what stands behind it
is told from it. -/
def ReadsOnce (one : WireType) : Prop :=
  ∀ (two : WireType) (rest rest' : List Char), one.NamesApart → two.NamesApart → AtEnd rest →
    AtEnd rest' → one.text.toList ++ rest = two.text.toList ++ rest' → one = two ∧ rest = rest'

theorem furtherArguments_readsOnce {ones twos : List WireType} {rest rest' : List Char}
    (each : ∀ one ∈ ones, one.ReadsOnce) (apart : ∀ one ∈ ones, one.NamesApart)
    (apart' : ∀ two ∈ twos, two.NamesApart)
    (same : furtherArguments ones ++ rest = furtherArguments twos ++ rest') :
    ones = twos ∧ rest = rest' := by
  induction ones generalizing twos with
  | nil =>
      cases twos with
      | nil => exact ⟨rfl, (List.cons.inj same).2⟩
      | cons two twos => exact absurd (List.cons.inj same).1 (by decide)
  | cons one ones inductionHypothesis =>
      cases twos with
      | nil => exact absurd (List.cons.inj same).1 (by decide)
      | cons two twos =>
          rw [furtherArguments, furtherArguments, List.cons_append, List.cons_append,
            List.append_assoc, List.append_assoc] at same
          rcases each one List.mem_cons_self two _ _ (apart one List.mem_cons_self)
            (apart' two List.mem_cons_self) (atEnd_furtherArguments ones rest)
            (atEnd_furtherArguments twos rest') (List.cons.inj same).2 with ⟨rfl, further⟩
          rcases inductionHypothesis (fun one member => each one (List.mem_cons_of_mem _ member))
            (fun one member => apart one (List.mem_cons_of_mem _ member))
            (fun two member => apart' two (List.mem_cons_of_mem _ member)) further with ⟨rfl, rests⟩
          exact ⟨rfl, rests⟩

/-- No signature starts with a closing bracket. -/
theorem closing_ne_text {type : WireType} {rest rest' : List Char} (ended : AtEnd rest') :
    '>' :: rest ≠ type.text.toList ++ rest' := by
  intro same
  rw [toList_text, List.append_assoc] at same
  change [] ++ '>' :: rest = _ at same
  have noLetter : ∀ c ∈ ('>' :: rest).head?, c.isAlphanum = false := by
    intro c first
    cases first
    rfl
  rcases eq_and_eq_of_run (List.forall_mem_nil _) isAlphanum_of_mem_kind noLetter
    (not_isAlphanum_of_behind ended) same with ⟨none, -⟩
  exact type.kind_toList_ne_nil none.symm

theorem allArguments_readsOnce {ones twos : List WireType} {rest rest' : List Char}
    (each : ∀ one ∈ ones, one.ReadsOnce) (apart : ∀ one ∈ ones, one.NamesApart)
    (apart' : ∀ two ∈ twos, two.NamesApart)
    (same : allArguments ones ++ rest = allArguments twos ++ rest') :
    ones = twos ∧ rest = rest' := by
  cases ones with
  | nil =>
      cases twos with
      | nil => exact ⟨rfl, (List.cons.inj same).2⟩
      | cons two twos =>
          rw [allArguments, allArguments, List.append_assoc] at same
          exact absurd same (closing_ne_text (atEnd_furtherArguments twos rest'))
  | cons one ones =>
      cases twos with
      | nil =>
          rw [allArguments, allArguments, List.append_assoc] at same
          exact absurd same.symm (closing_ne_text (atEnd_furtherArguments ones rest))
      | cons two twos =>
          apply furtherArguments_readsOnce each apart apart'
          exact congrArg (',' :: ·) same

/-- The name of an unknown type goes up to the parenthesis in front of the end of the signature. -/
theorem unknown_readsOnce {name name' : String} {rest rest' : List Char}
    (apart : ',' ∉ name.toList ∧ '>' ∉ name.toList)
    (apart' : ',' ∉ name'.toList ∧ '>' ∉ name'.toList) (ended : AtEnd rest) (ended' : AtEnd rest')
    (same : name.toList ++ [')'] ++ rest = name'.toList ++ [')'] ++ rest') :
    name = name' ∧ rest = rest' := by
  have inside : ∀ {name : String}, ',' ∉ name.toList ∧ '>' ∉ name.toList →
      ∀ c ∈ name.toList ++ [')'], (c != ',' && c != '>') = true := by
    intro name apart c member
    rcases List.mem_append.mp member with inName | closing
    · have noComma := ne_of_mem_of_not_mem inName apart.1
      have noBracket := ne_of_mem_of_not_mem inName apart.2
      simp [noComma, noBracket]
    · rw [List.mem_singleton.mp closing]
      rfl
  have outside : ∀ {rest : List Char}, AtEnd rest →
      ∀ c ∈ rest.head?, (c != ',' && c != '>') = false := by
    intro rest ended c first
    rcases ended c first with rfl | rfl <;> rfl
  rcases eq_and_eq_of_run (inside apart) (inside apart') (outside ended) (outside ended') same
    with ⟨names, rests⟩
  exact ⟨String.toList_injective (List.append_cancel_right names), rests⟩

theorem contents_readsOnce {one two : Contents} {rest rest' : List Char}
    (each : ∀ argument ∈ one.types, argument.ReadsOnce) (apart : one.Apart) (apart' : two.Apart)
    (ended : AtEnd rest) (ended' : AtEnd rest')
    (same : one.chars ++ rest = two.chars ++ rest') : one = two ∧ rest = rest' := by
  cases one with
  | nothing =>
      cases two with
      | nothing => exact ⟨rfl, same⟩
      | arguments types => exact absurd (ended.of_cons '<' same) (by decide)
      | unknown name => exact absurd (ended.of_cons '(' same) (by decide)
  | arguments types =>
      cases two with
      | nothing => exact absurd (ended'.of_cons '<' same.symm) (by decide)
      | arguments types' =>
          rcases allArguments_readsOnce each apart.arguments apart'.arguments
            (List.cons.inj same).2 with ⟨rfl, rests⟩
          exact ⟨rfl, rests⟩
      | unknown name => exact absurd (List.cons.inj same).1 (by decide)
  | unknown name =>
      cases two with
      | nothing => exact absurd (ended'.of_cons '(' same.symm) (by decide)
      | arguments types => exact absurd (List.cons.inj same).1 (by decide)
      | unknown name' =>
          rcases unknown_readsOnce (apart.unknown name rfl) (apart'.unknown name' rfl) ended ended'
            (List.cons.inj same).2 with ⟨rfl, rests⟩
          exact ⟨rfl, rests⟩

/-- A signature, with the end of another one behind it, can be read in one way only. -/
theorem readsOnce (type : WireType) : type.ReadsOnce := by
  induction type using induction_on_arguments with
  | step one each =>
      intro two rest rest' apart apart' ended ended' same
      rw [toList_text, toList_text, List.append_assoc, List.append_assoc] at same
      rcases eq_and_eq_of_run isAlphanum_of_mem_kind isAlphanum_of_mem_kind
        (not_isAlphanum_of_behind ended) (not_isAlphanum_of_behind ended') same with
        ⟨kinds, behind⟩
      rcases contents_readsOnce each apart.contents apart'.contents ended ended' behind with
        ⟨made, rests⟩
      exact ⟨eq_of_kind_of_contents (String.toList_injective kinds) made, rests⟩

/-- Two types in which no name of an unknown type holds a comma or a closing bracket have one
signature exactly if they are the same type. -/
theorem text_eq_text_iff {one two : WireType} (apart : one.NamesApart) (apart' : two.NamesApart) :
    one.text = two.text ↔ one = two := by
  constructor
  · intro same
    have atEnd : AtEnd [] := fun c first => by cases first
    exact (one.readsOnce two [] [] apart apart' atEnd atEnd
      (congrArg (fun text => text.toList ++ []) same)).1
  · exact congrArg text

/-- An empty tuple in a tuple, and a type whose name looks like it. -/
theorem text_eq_text_iff_tuples :
    NamesApart (.tuple [.tuple []]) ∧ NamesApart (.tuple [.unknown "Tuple<)"]) ∧
      text (.tuple [.tuple []]) ≠ text (.tuple [.unknown "Tuple<)"]) := by
  have apart : NamesApart (.tuple [.tuple []]) := by
    intro name inside
    cases inside
  have apart' : NamesApart (.tuple [.unknown "Tuple<)"]) := by
    intro name inside
    rw [List.mem_singleton.mp inside]
    decide
  refine ⟨apart, apart', ?_⟩
  intro same
  cases (text_eq_text_iff apart apart').mp same

/-- A name with a comma can look like two types. -/
example : text (.tuple [.unknown "A),Unknown(B"]) = text (.tuple [.unknown "A", .unknown "B"]) := by
  decide +kernel

end WireType

end ContractEvents
