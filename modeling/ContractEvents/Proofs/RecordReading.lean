/-
Module: ContractEvents.Proofs.RecordReading
Purpose: A record is read by the names of its members, in whatever order they stand.
Main exports: Json.sortMembers_perm, Json.nodup_sortMembers, Json.mem_sortMembers_iff,
  Json.Fields.Lists, Json.record_object_eq, Json.record_ofMembers_eq, Json.tagged_kindOf,
  Json.tagged_bareKind, Json.listOf_map
-/
import ContractEvents.Types.Encoding

namespace ContractEvents

namespace Json

/-!
The members of an object are written sorted by name, and a record asks for them in the order of its
fields.  As long as the names are distinct the two orders do not meet: sorting permutes the members,
and a name leads to the same value in every permutation.  So a record of a written object is read as
if its members stood as they were listed.
-/

/-! ### Members by name -/

theorem insertMember_perm {name : String} {value : Json} {sorted : List (String × Json)}
    (fresh : name ∉ sorted.map Prod.fst) :
    (insertMember name value sorted).Perm ((name, value) :: sorted) := by
  induction sorted with
  | nil => exact .refl _
  | cons member rest inductionHypothesis =>
      obtain ⟨different, freshInRest⟩ := not_or.mp (mt List.mem_cons.mpr fresh)
      rw [insertMember, if_neg different]
      split
      · exact .refl _
      · exact ((inductionHypothesis freshInRest).cons member).trans (.swap _ _ _)

/-- Sorting puts one member after the other into those that are sorted already. -/
theorem foldl_insertMember_perm (members sorted : List (String × Json))
    (distinct : ((members ++ sorted).map Prod.fst).Nodup) :
    (members.foldl (fun held (name, value) => insertMember name value held) sorted).Perm
      (members ++ sorted) := by
  induction members generalizing sorted with
  | nil => exact .refl _
  | cons member members inductionHypothesis =>
      obtain ⟨fresh, distinctRest⟩ := List.nodup_cons.mp distinct
      have freshInSorted : member.1 ∉ sorted.map Prod.fst := by
        intro held
        apply fresh
        obtain ⟨other, held, same⟩ := List.mem_map.mp held
        exact List.mem_map.mpr ⟨other, List.mem_append_right _ held, same⟩
      -- The names stay distinct while members go over from one list to the other.
      have inserted : (members ++ insertMember member.1 member.2 sorted).Perm
          (member :: (members ++ sorted)) :=
        ((insertMember_perm freshInSorted).append_left members).trans List.perm_middle
      have distinctInserted :
          ((members ++ insertMember member.1 member.2 sorted).map Prod.fst).Nodup :=
        (inserted.map Prod.fst).nodup_iff.mpr distinct
      exact (inductionHypothesis _ distinctInserted).trans inserted

/-- Sorting loses no member and adds none, as long as no name occurs twice. -/
theorem sortMembers_perm {members : List (String × Json)}
    (distinct : (members.map Prod.fst).Nodup) : (sortMembers members).Perm members := by
  have sorted := foldl_insertMember_perm members [] (by rwa [List.append_nil])
  rwa [List.append_nil] at sorted

theorem lookup_eq_some_iff_mem {members : List (String × Json)}
    (distinct : (members.map Prod.fst).Nodup) {name : String} {value : Json} :
    members.lookup name = some value ↔ (name, value) ∈ members := by
  induction members with
  | nil => simp
  | cons member rest inductionHypothesis =>
      obtain ⟨other, held⟩ := member
      obtain ⟨fresh, distinctRest⟩ := List.nodup_cons.mp distinct
      rw [List.lookup_cons, List.mem_cons, ← inductionHypothesis distinctRest]
      by_cases same : name = other
      · subst same
        -- This member hides any of its name behind it, but there is none.
        have absent : rest.lookup name ≠ some value := by
          intro found
          apply fresh
          exact List.mem_map.mpr ⟨_, (inductionHypothesis distinctRest).mp found, rfl⟩
        simp [absent, eq_comm]
      · have check : (name == other) = false := beq_eq_false_iff_ne.mpr same
        simp [check, same]

/-- A name leads to the same value in whatever order the members stand. -/
theorem lookup_eq_of_perm {members listed : List (String × Json)} (perm : members.Perm listed)
    (distinct : (listed.map Prod.fst).Nodup) (name : String) :
    members.lookup name = listed.lookup name := by
  have distinctMembers := (perm.map Prod.fst).nodup_iff.mpr distinct
  apply Option.ext
  intro value
  rw [lookup_eq_some_iff_mem distinctMembers, perm.mem_iff, lookup_eq_some_iff_mem distinct]

theorem exists_uniqueMember? {members : List (String × Json)}
    (distinct : (members.map Prod.fst).Nodup) (name : String) :
    ∃ held, uniqueMember? members name = .ok held := by
  have named : ∀ m ∈ members.filter fun m => m.1 == name, m.1 = name := by
    intro m kept
    exact eq_of_beq (List.mem_filter.mp kept).2
  have distinctKept : ((members.filter fun m => m.1 == name).map Prod.fst).Nodup :=
    distinct.sublist (List.filter_sublist.map Prod.fst)
  rw [uniqueMember?]
  rcases kept : members.filter fun m => m.1 == name with _ | ⟨first, _ | ⟨second, rest⟩⟩
  · exact ⟨none, by rw [kept]⟩
  · exact ⟨some first.2, by rw [kept]⟩
  · exfalso
    rw [kept] at named distinctKept
    apply (List.nodup_cons.mp distinctKept).1
    rw [named first List.mem_cons_self, ← named second (List.mem_cons_of_mem _ List.mem_cons_self)]
    exact List.mem_cons_self

/-! ### Members of one name -/

theorem lookup_cons_eq_ite (asked name : String) (value : Json) (rest : List (String × Json)) :
    ((name, value) :: rest).lookup asked =
      if asked = name then some value else rest.lookup asked := by
  rw [List.lookup_cons]
  split
  · rename_i same
    rw [if_pos (eq_of_beq same)]
  · rename_i different
    rw [if_neg (ne_of_beq_false different)]

theorem lookup_insertMember (asked name : String) (value : Json) (sorted : List (String × Json)) :
    (insertMember name value sorted).lookup asked =
      if asked = name then some value else sorted.lookup asked := by
  induction sorted with
  | nil =>
      rw [insertMember, lookup_cons_eq_ite]
  | cons member rest inductionHypothesis =>
      obtain ⟨held, kept⟩ := member
      rw [insertMember]
      split
      · rw [lookup_cons_eq_ite]
      · split
        · rename_i same
          rw [lookup_cons_eq_ite, lookup_cons_eq_ite, same]
          split <;> rfl
        · rename_i different
          rw [lookup_cons_eq_ite, lookup_cons_eq_ite, inductionHypothesis]
          by_cases there : asked = held
          · rw [if_pos there, if_pos there, if_neg (there ▸ Ne.symm different)]
          · rw [if_neg there, if_neg there]

theorem lookup_foldl_insertMember (members sorted : List (String × Json)) (asked : String) :
    (members.foldl (fun held (name, value) => insertMember name value held) sorted).lookup asked =
      (members.reverse ++ sorted).lookup asked := by
  induction members generalizing sorted with
  | nil => rfl
  | cons member members inductionHypothesis =>
      rw [List.foldl_cons, inductionHypothesis, List.reverse_cons, List.append_assoc,
        List.lookup_append, List.lookup_append, lookup_insertMember, List.singleton_append,
        lookup_cons_eq_ite]

/-- Of several members of one name the last stands. -/
theorem lookup_sortMembers (members : List (String × Json)) (asked : String) :
    (sortMembers members).lookup asked = members.reverse.lookup asked := by
  rw [sortMembers, lookup_foldl_insertMember, List.append_nil]

/-- Members stand in the order of their names, and each name once. -/
def Sorted (members : List (String × Json)) : Prop := members.Pairwise fun one two => one.1 < two.1

theorem mem_insertMember {name : String} {value : Json} {sorted : List (String × Json)}
    {member : String × Json} (held : member ∈ insertMember name value sorted) :
    member = (name, value) ∨ member ∈ sorted := by
  induction sorted with
  | nil => exact .inl (List.mem_singleton.mp held)
  | cons first rest inductionHypothesis =>
      rw [insertMember] at held
      split at held
      · exact List.mem_cons.mp held
      · split at held
        · exact (List.mem_cons.mp held).imp_right (List.mem_cons_of_mem _)
        · rcases List.mem_cons.mp held with rfl | behind
          · exact .inr List.mem_cons_self
          · exact (inductionHypothesis behind).imp_right (List.mem_cons_of_mem _)

theorem sorted_insertMember {name : String} {value : Json} {members : List (String × Json)}
    (sorted : Sorted members) : Sorted (insertMember name value members) := by
  induction members with
  | nil => exact List.pairwise_singleton _ _
  | cons first rest inductionHypothesis =>
      obtain ⟨before, sortedRest⟩ := List.pairwise_cons.mp sorted
      rw [insertMember]
      split
      · rename_i earlier
        apply List.Pairwise.cons
        · intro member held
          rcases List.mem_cons.mp held with rfl | behind
          · exact earlier
          · exact String.lt_trans earlier (before member behind)
        · exact sorted
      · split
        · rename_i same
          subst same
          exact .cons before sortedRest
        · rename_i late different
          have behind : first.1 < name := Std.lt_of_le_of_ne late (Ne.symm different)
          apply List.Pairwise.cons
          · intro member held
            rcases mem_insertMember held with rfl | held
            · exact behind
            · exact before member held
          · exact inductionHypothesis sortedRest

theorem sorted_sortMembers (members : List (String × Json)) : Sorted (sortMembers members) := by
  have fold (held : List (String × Json)) (sorted : Sorted held) :
      Sorted (members.foldl (fun held (name, value) => insertMember name value held) held) := by
    induction members generalizing held with
    | nil => exact sorted
    | cons member members inductionHypothesis =>
        exact inductionHypothesis _ (sorted_insertMember sorted)
  exact fold [] List.Pairwise.nil

/-- No name stands twice in an object. -/
theorem nodup_sortMembers (members : List (String × Json)) :
    ((sortMembers members).map Prod.fst).Nodup := by
  rw [List.nodup_iff_pairwise_ne, List.pairwise_map]
  apply (sorted_sortMembers members).imp
  intro one two before same
  rw [same] at before
  exact String.lt_irrefl _ before

/-- If members of one name are alike, sorting keeps one of each name. -/
theorem mem_sortMembers_iff {members : List (String × Json)}
    (alike : ∀ one ∈ members, ∀ two ∈ members, one.1 = two.1 → one = two)
    (member : String × Json) : member ∈ sortMembers members ↔ member ∈ members := by
  have last (value : Json) (found : members.reverse.lookup member.1 = some value) :
      (member.1, value) ∈ members := by
    obtain ⟨front, behind, split, -⟩ := List.lookup_eq_some_iff.mp found
    rw [← List.mem_reverse, split]
    exact List.mem_append_right _ List.mem_cons_self
  rw [← lookup_eq_some_iff_mem (nodup_sortMembers members), lookup_sortMembers]
  constructor
  · exact last member.2
  · intro held
    have named : (members.reverse.lookup member.1).isSome = true :=
      List.lookup_isSome_iff.mpr ⟨member, List.mem_reverse.mpr held, by simp⟩
    obtain ⟨value, found⟩ := Option.isSome_iff_exists.mp named
    rw [found, ← alike _ (last value found) _ held rfl]

/-! ### Records -/

/-- Steps that each end well end well one after the other. -/
theorem forM_eq_ok {ε α : Type} {step : α → Except ε Unit} {items : List α}
    (each : ∀ item ∈ items, step item = .ok ()) : items.forM step = .ok () := by
  induction items with
  | nil => rfl
  | cons item items inductionHypothesis =>
      rw [List.forM_eq_forM, List.forM_cons, each item List.mem_cons_self]
      exact inductionHypothesis fun other held => each other (List.mem_cons_of_mem _ held)

/-- The fields of a record are those listed, each under a name of its own. -/
structure Fields.Lists (fields : Fields) (listed : List (String × Json)) : Prop where
  named : fields.positional = false
  distinct : (listed.map Prod.fst).Nodup
  members : fields.members.Perm listed

namespace Fields.Lists

variable {α : Type} {fields : Fields} {listed : List (String × Json)} {name : String} {value : Json}

theorem lookup_eq (lists : fields.Lists listed) (name : String) :
    fields.members.lookup name = listed.lookup name :=
  lookup_eq_of_perm lists.members lists.distinct name

theorem required_eq (lists : fields.Lists listed) {read : Json → Except Mismatch α} {result : α}
    (held : listed.lookup name = some value) (reads : read value = .ok result) :
    fields.required name read = .ok result := by
  rw [Fields.required, lists.lookup_eq, held]
  exact reads

theorem optional_eq_of_some (lists : fields.Lists listed) {read : Json → Except Mismatch α}
    {result : Option α} (held : listed.lookup name = some value)
    (reads : Json.optional read value = .ok result) : fields.optional name read = .ok result := by
  rw [Fields.optional, lists.lookup_eq, held]
  exact reads

theorem optional_eq_of_none (lists : fields.Lists listed) {read : Json → Except Mismatch α}
    (absent : listed.lookup name = none) : fields.optional name read = .ok none := by
  rw [Fields.optional, lists.lookup_eq, absent, lists.named]
  rfl

end Fields.Lists

variable {α : Type} {what : String} {names : List String} {listed members : List (String × Json)}

/-- An object that has members for some of a record's fields is read as the record of these. -/
theorem record_object_eq {body : Fields → Except Mismatch α} {result : Except Mismatch α}
    (perm : members.Perm listed) (distinct : names.Nodup)
    (declared : (listed.map Prod.fst).Sublist names)
    (reads : ∀ fields : Fields, fields.Lists listed → body fields = result) :
    record what names body (.object members) = result := by
  have distinctListed := distinct.sublist declared
  have distinctMembers : (members.map Prod.fst).Nodup :=
    (perm.map Prod.fst).nodup_iff.mpr distinctListed
  have unrepeated : names.forM (fun name => discard (uniqueMember? members name)) = .ok () := by
    apply forM_eq_ok
    intro name _
    obtain ⟨held, unique⟩ := exists_uniqueMember? distinctMembers name
    rw [unique]
    rfl
  have allKnown : (members.filter fun m => names.contains m.1) = members := by
    apply List.filter_eq_self.mpr
    intro member held
    have named : member.1 ∈ listed.map Prod.fst := List.mem_map_of_mem (perm.mem_iff.mp held)
    exact List.contains_iff_mem.mpr (declared.subset named)
  rw [record, unrepeated, allKnown]
  exact reads ⟨what, names, members, false⟩ ⟨rfl, distinctListed, perm⟩

/-- The same for an object that is written sorted. -/
theorem record_ofMembers_eq {body : Fields → Except Mismatch α} {result : Except Mismatch α}
    (distinct : names.Nodup) (declared : (listed.map Prod.fst).Sublist names)
    (reads : ∀ fields : Fields, fields.Lists listed → body fields = result) :
    record what names body (ofMembers listed) = result :=
  record_object_eq (sortMembers_perm (distinct.sublist declared)) distinct declared reads

/-- A member that is written only when there is something to hold has at most its own name. -/
theorem map_fst_optional_sublist {β : Type} (name : String) (write : β → Json) (held : Option β) :
    ((held.map fun b => (name, write b)).toList.map Prod.fst).Sublist [name] := by
  cases held with
  | none => exact List.nil_sublist _
  | some b => exact .refl _

/-! ### Variants and lists -/

theorem tagged_kindOf (body : String → Json → Except Mismatch α) (kind : String) (carried : Json) :
    tagged what body (kindOf kind carried) = body kind carried := by
  rw [tagged, kindOf]
  refine record_object_eq (.refl _) (by decide) (.refl ["kind", "of"]) fun fields lists => ?_
  have readKind : fields.required "kind" (choice what some) = .ok kind := lists.required_eq rfl rfl
  rw [readKind, lists.lookup_eq]
  rfl

/-- A constructor that carries nothing has no member for it. -/
theorem tagged_bareKind (body : String → Json → Except Mismatch α) (kind : String) :
    tagged what body (bareKind kind) = body kind .null := by
  have declared : ["kind"].Sublist ["kind", "of"] := by decide
  rw [tagged, bareKind]
  refine record_object_eq (.refl _) (by decide) declared fun fields lists => ?_
  have readKind : fields.required "kind" (choice what some) = .ok kind := lists.required_eq rfl rfl
  rw [readKind, lists.lookup_eq, lists.named]
  rfl

theorem listOf_map {read : Json → Except Mismatch α} {write : α → Json} {items : List α}
    (each : ∀ item ∈ items, read (write item) = .ok item) :
    listOf read (.array (items.map write)) = .ok items := by
  rw [listOf]
  induction items with
  | nil => rfl
  | cons item items inductionHypothesis =>
      have others := inductionHypothesis fun other held => each other (List.mem_cons_of_mem _ held)
      rw [List.map_cons, List.mapM_cons, each item List.mem_cons_self, others]
      rfl

end Json

end ContractEvents
