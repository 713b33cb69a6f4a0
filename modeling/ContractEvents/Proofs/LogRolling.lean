/-
Module: ContractEvents.Proofs.LogRolling
Purpose: The search for a log file with room ends, at the first numbered file that has it.
Main exports: rolledPath_injective, exists_hasRoom, firstWithRoom_eq, RollState.next?,
  RollState.settles_rollBySize
-/
import ContractEvents.Logging.Rolling
import Mathlib

namespace ContractEvents

/-!
The search looks at the start, and then at the numbered paths from index 2 on, until a file has
room.  Nothing but the files themselves bounds it: every numbered path that is passed over belongs
to a file, and different numbers make different paths, so there are at most as many of them as
files.  With fewer than `2 ^ 32 - 2` files the index stays below the end of its range.
-/

/-! ### Numbered paths -/

theorem point_notMem_toDigits (n : Nat) : '.' ∉ Nat.toDigits 10 n := by
  intro member
  have digit := Nat.isDigit_of_mem_toDigits (by decide) (by decide) member
  exact absurd digit (by decide)

/-- What stands behind the last point is told from what stands in front of it. -/
theorem eq_and_eq_of_point {front front' back back' : List Char} (noPoint : '.' ∉ back)
    (noPoint' : '.' ∉ back') (same : front ++ '.' :: back = front' ++ '.' :: back') :
    front = front' ∧ back = back' := by
  have parts := congrArg (fun cs => cs.reverse.splitOn '.') same
  simp only [List.reverse_append, List.reverse_cons, List.append_assoc,
    List.singleton_append] at parts
  rw [List.splitOn_append_cons_self_of_not_mem (by simpa using noPoint),
    List.splitOn_append_cons_self_of_not_mem (by simpa using noPoint')] at parts
  have backs : back = back' := List.reverse_injective (List.cons.inj parts).1
  subst backs
  exact ⟨List.append_cancel_right same, rfl⟩

/-- The numbered paths of one base are told apart by their dates and their indices. -/
theorem rolledPath_injective {base date date' : String} {index index' : UInt32}
    (same : rolledPath base date index = rolledPath base date' index') :
    date = date' ∧ index = index' := by
  have chars := congrArg String.toList same
  simp only [rolledPath, String.toList_append, List.append_assoc] at chars
  replace chars := List.append_cancel_left (List.append_cancel_left chars)
  simp only [← List.append_assoc] at chars
  replace chars := List.append_cancel_right chars
  simp only [List.append_assoc, Nat.toString_eq_repr, Nat.toList_repr] at chars
  obtain ⟨dates, digits⟩ :=
    eq_and_eq_of_point (point_notMem_toDigits _) (point_notMem_toDigits _) chars
  have numbers := congrArg (fun cs => Nat.ofDigitChars 10 cs 0) digits
  simp only [Nat.ofDigitChars_ten_toDigits] at numbers
  exact ⟨String.toList_injective dates, UInt32.toNat_inj.mp numbers⟩

section Search

variable {files : FileSizes} {limit : UInt64} {start base date path : String}

/-! ### Files with room -/

theorem hasRoom_iff : hasRoom files limit path = true ↔
    files.lookup path = none ∨ ∃ size, files.lookup path = some size ∧ size ≤ limit.toNat := by
  rw [hasRoom]
  cases files.lookup path with
  | none => simp
  | some size => simp

/-- A path without room is the path of a file. -/
theorem mem_paths_of_full (full : hasRoom files limit path = false) :
    path ∈ files.map Prod.fst := by
  by_contra absent
  have missing : files.lookup path = none := by
    rw [List.lookup_eq_none_iff]
    intro file member
    rw [bne_iff_ne]
    rintro rfl
    exact absent (List.mem_map_of_mem member)
  rw [hasRoom_iff.mpr (.inl missing)] at full
  cases full

/-- How many files there are. -/
def fileCount (files : FileSizes) : Nat := (files.map Prod.fst).toFinset.card

theorem fileCount_le_length (files : FileSizes) : fileCount files ≤ files.length := by
  have counted := (files.map Prod.fst).toFinset_card_le
  rwa [List.length_map] at counted

/-- The path of an index that is given as a number. -/
def numberedPath (base date : String) (n : Nat) : String := rolledPath base date (UInt32.ofNat n)

/-- Among more numbered paths than there are files, one has room. -/
theorem exists_hasRoom (limit : UInt64) (base date : String)
    (few : fileCount files < 2 ^ 32 - 2) :
    ∃ n, 2 ≤ n ∧ n ≤ fileCount files + 2 ∧
      hasRoom files limit (numberedPath base date n) = true := by
  by_contra none_has
  push Not at none_has
  have taken : Set.MapsTo (fun n => numberedPath base date (n + 2))
      (Finset.range (fileCount files + 1)) (files.map Prod.fst).toFinset := by
    intro n small
    rw [Finset.coe_range, Set.mem_Iio] at small
    rw [Finset.mem_coe, List.mem_toFinset]
    apply mem_paths_of_full
    rw [← Bool.not_eq_true]
    exact none_has (n + 2) (by omega) (by omega)
  have different : Set.InjOn (fun n => numberedPath base date (n + 2))
      (Finset.range (fileCount files + 1)) := by
    intro m smallM n smallN same
    rw [Finset.coe_range, Set.mem_Iio] at smallM smallN
    have indices := congrArg UInt32.toNat (rolledPath_injective same).2
    rw [UInt32.toNat_ofNat', UInt32.toNat_ofNat', Nat.mod_eq_of_lt (by omega),
      Nat.mod_eq_of_lt (by omega)] at indices
    omega
  have counted := Finset.card_le_card_of_injOn _ taken different
  rw [Finset.card_range, ← fileCount] at counted
  omega

/-- A number from which on no path has room until the first that does. -/
structure FirstRoom (files : FileSizes) (limit : UInt64) (base date : String) (n first : Nat) :
    Prop where
  reached : n ≤ first
  room : hasRoom files limit (numberedPath base date first) = true
  full : ∀ k, n ≤ k → k < first → hasRoom files limit (numberedPath base date k) = false

theorem FirstRoom.succ {n first : Nat} (found : FirstRoom files limit base date n first)
    (later : n ≠ first) : FirstRoom files limit base date (n + 1) first where
  reached := by
    have reached := found.reached
    omega
  room := found.room
  full := fun k above below => found.full k (by omega) below

theorem exists_firstRoom (limit : UInt64) (base date : String)
    (few : fileCount files < 2 ^ 32 - 2) :
    ∃ first, first ≤ fileCount files + 2 ∧ FirstRoom files limit base date 2 first := by
  have some_has := exists_hasRoom limit base date few
  obtain ⟨above, near, room⟩ := Nat.find_spec some_has
  refine ⟨Nat.find some_has, near, above, room, ?_⟩
  intro k atLeast below
  rw [← Bool.not_eq_true]
  intro roomBefore
  exact Nat.find_min some_has below ⟨atLeast, by omega, roomBefore⟩

/-- The search finds the first path with room if it lies within the fuel. -/
theorem firstWithRoom_eq {fuel n first : Nat} (found : FirstRoom files limit base date n first)
    (enough : first ≤ n + fuel) :
    firstWithRoom files limit base date fuel (UInt32.ofNat n) = numberedPath base date first := by
  induction fuel generalizing n with
  | zero =>
      obtain rfl : n = first := Nat.le_antisymm found.reached enough
      rfl
  | succ fuel inductionHypothesis =>
      rw [firstWithRoom]
      by_cases here : n = first
      · subst here
        exact if_pos found.room
      · have full := found.full n Nat.le.refl (Nat.lt_of_le_of_ne found.reached here)
        have next : UInt32.ofNat n + 1 = UInt32.ofNat (n + 1) := (UInt32.ofNat_add n 1).symm
        rw [if_neg (by rw [← numberedPath, full]; exact Bool.false_ne_true), next]
        exact inductionHypothesis (found.succ here) (by omega)

theorem rollBySize_of_hasRoom (room : hasRoom files limit start = true) :
    rollBySize files start base date limit = start := by
  rw [rollBySize, if_pos room]

theorem rollBySize_of_full {first : Nat} (full : hasRoom files limit start = false)
    (found : FirstRoom files limit base date 2 first) (few : first ≤ fileCount files + 2) :
    rollBySize files start base date limit = numberedPath base date first := by
  have counted := fileCount_le_length files
  rw [rollBySize, full]
  exact firstWithRoom_eq (n := 2) found (by omega)

end Search

/-! ### The search step by step -/

/-- Where the search stands: the path that it looks at, and its index. -/
structure RollState where
  path : String
  index : UInt32

namespace RollState

/-- A path without room is left for that of the next index. -/
def next? (files : FileSizes) (limit : UInt64) (base date : String) (state : RollState) :
    Option RollState :=
  if hasRoom files limit state.path then none
  else some ⟨rolledPath base date (state.index + 1), state.index + 1⟩

/-- The states that the search goes through one after the other. -/
def Reaches (files : FileSizes) (limit : UInt64) (base date : String) :
    RollState → RollState → Prop :=
  Relation.ReflTransGen fun one two => one.next? files limit base date = some two

variable {files : FileSizes} {limit : UInt64} {start base date : String} {first : Nat}

/-- The state at a numbered path. -/
def numbered (base date : String) (n : Nat) : RollState :=
  ⟨numberedPath base date n, UInt32.ofNat n⟩

theorem next?_eq_none_iff {state : RollState} :
    state.next? files limit base date = none ↔ hasRoom files limit state.path = true := by
  rw [next?]
  cases hasRoom files limit state.path <;> simp

theorem next?_eq_some_iff {state next : RollState} :
    state.next? files limit base date = some next ↔
      hasRoom files limit state.path = false ∧
        next = ⟨rolledPath base date (state.index + 1), state.index + 1⟩ := by
  rw [next?]
  cases hasRoom files limit state.path <;> simp [eq_comm]

theorem next?_numbered {n : Nat} (full : hasRoom files limit (numberedPath base date n) = false) :
    (numbered base date n).next? files limit base date = some (numbered base date (n + 1)) := by
  rw [next?_eq_some_iff]
  refine ⟨full, ?_⟩
  rw [numbered, numberedPath, UInt32.ofNat_add]
  rfl

/-- The search goes on to the first number with room. -/
theorem reaches_first {n : Nat} (found : FirstRoom files limit base date n first) :
    Reaches files limit base date (numbered base date n) (numbered base date first) := by
  obtain ⟨steps, rfl⟩ := Nat.exists_eq_add_of_le found.reached
  induction steps generalizing n with
  | zero => exact .refl
  | succ steps inductionHypothesis =>
      have full := found.full n Nat.le.refl (by omega)
      have behind := found.succ (by omega)
      rw [Nat.add_comm steps 1, ← Nat.add_assoc] at behind ⊢
      exact .head (next?_numbered full) (inductionHypothesis behind)

/-- A state of the search: the start, or a number up to the first with room. -/
def OnTheWay (start base date : String) (first : Nat) (state : RollState) : Prop :=
  state = ⟨start, 1⟩ ∨ ∃ n, 2 ≤ n ∧ n ≤ first ∧ state = numbered base date n

/-- A step stays on the way, and counts. -/
theorem OnTheWay.step (found : FirstRoom files limit base date 2 first) (small : first < 2 ^ 32)
    {state next : RollState} (onTheWay : OnTheWay start base date first state)
    (step : state.next? files limit base date = some next) :
    OnTheWay start base date first next ∧ next.index.toNat = state.index.toNat + 1 := by
  rcases onTheWay with rfl | ⟨n, above, below, rfl⟩
  · obtain ⟨-, rfl⟩ := next?_eq_some_iff.mp step
    exact ⟨.inr ⟨2, Nat.le.refl, found.reached, rfl⟩, rfl⟩
  · obtain ⟨full, -⟩ := next?_eq_some_iff.mp step
    have before : n ≠ first := by
      rintro rfl
      rw [numbered, found.room] at full
      cases full
    rw [next?_numbered full, Option.some.injEq] at step
    subst step
    refine ⟨.inr ⟨n + 1, by omega, by omega, rfl⟩, ?_⟩
    rw [numbered, numbered, UInt32.toNat_ofNat', UInt32.toNat_ofNat', Nat.mod_eq_of_lt (by omega),
      Nat.mod_eq_of_lt (by omega)]

theorem onTheWay_of_reaches (found : FirstRoom files limit base date 2 first)
    (small : first < 2 ^ 32) {state : RollState}
    (reached : Reaches files limit base date ⟨start, 1⟩ state) :
    OnTheWay start base date first state := by
  induction reached with
  | refl => exact .inl rfl
  | tail _ step inductionHypothesis => exact (inductionHypothesis.step found small step).1

/-- What is known of the search and of the path at which it ends. -/
structure Settles (files : FileSizes) (limit : UInt64) (start base date result : String) :
    Prop where
  /-- The search comes to a state without a next one, and that is at the path. -/
  ends : ∃ last, Reaches files limit base date ⟨start, 1⟩ last ∧
    last.next? files limit base date = none ∧ last.path = result
  /-- Every step adds one to the index, which never starts again from zero. -/
  counts : ∀ state next, Reaches files limit base date ⟨start, 1⟩ state →
    state.next? files limit base date = some next →
      next.index.toNat = state.index.toNat + 1
  /-- A start with room is the answer. -/
  stays : hasRoom files limit start = true → result = start
  /-- Otherwise it is the path of the least index from 2 on that has room. -/
  rolls : hasRoom files limit start = false →
    ∃ index : UInt32, 2 ≤ index ∧ result = rolledPath base date index ∧
      hasRoom files limit (rolledPath base date index) = true ∧
      ∀ lower : UInt32, 2 ≤ lower → lower < index →
        hasRoom files limit (rolledPath base date lower) = false
  /-- There is no file at the path, or one that is not larger than the limit. -/
  room : files.lookup result = none ∨
    ∃ size, files.lookup result = some size ∧ size ≤ limit.toNat

theorem settles_of_hasRoom (room : hasRoom files limit start = true) :
    Settles files limit start base date start where
  ends := ⟨⟨start, 1⟩, .refl, next?_eq_none_iff.mpr room, rfl⟩
  counts := by
    intro state next reached step
    rcases Relation.ReflTransGen.cases_head reached with rfl | ⟨second, first, -⟩
    · rw [next?_eq_none_iff.mpr room] at step
      cases step
    · rw [next?_eq_none_iff.mpr room] at first
      cases first
  stays := fun _ => rfl
  rolls := by
    intro full
    rw [room] at full
    cases full
  room := hasRoom_iff.mp room

theorem settles_of_full (full : hasRoom files limit start = false)
    (found : FirstRoom files limit base date 2 first) (small : first < 2 ^ 32) :
    Settles files limit start base date (numberedPath base date first) where
  ends := by
    refine ⟨numbered base date first, .head ?_ (reaches_first found),
      next?_eq_none_iff.mpr found.room, rfl⟩
    exact next?_eq_some_iff.mpr ⟨full, rfl⟩
  counts := fun _ _ reached step =>
    ((onTheWay_of_reaches found small reached).step found small step).2
  stays := by
    intro room
    rw [full] at room
    cases room
  rolls := by
    intro _
    have index : (UInt32.ofNat first).toNat = first := by
      rw [UInt32.toNat_ofNat', Nat.mod_eq_of_lt small]
    refine ⟨UInt32.ofNat first, ?_, rfl, found.room, ?_⟩
    · rw [UInt32.le_iff_toNat_le, index]
      exact found.reached
    · intro lower above below
      rw [UInt32.le_iff_toNat_le] at above
      rw [UInt32.lt_iff_toNat_lt, index] at below
      have passed := found.full lower.toNat above below
      rwa [numberedPath, UInt32.ofNat_toNat] at passed
  room := hasRoom_iff.mp found.room

/-- The search ends with the start if it has room, and otherwise at the least index from 2 on whose
path has room; its index never overflows.  Numbered paths of one base repeat neither for another
date nor for another index. -/
theorem settles_rollBySize (files : FileSizes) (limit : UInt64) (start base date : String)
    (few : fileCount files < 2 ^ 32 - 2) :
    Settles files limit start base date (rollBySize files start base date limit) ∧
      ∀ (date date' : String) (index index' : UInt32),
        rolledPath base date index = rolledPath base date' index' →
          date = date' ∧ index = index' := by
  refine ⟨?_, fun _ _ _ _ => rolledPath_injective⟩
  cases room : hasRoom files limit start with
  | true =>
      rw [rollBySize_of_hasRoom room]
      exact settles_of_hasRoom room
  | false =>
      obtain ⟨first, near, found⟩ := exists_firstRoom limit base date few
      rw [rollBySize_of_full room found near]
      exact settles_of_full room found (by omega)

/-- The start may be one of the numbered files: the search passes it again. -/
theorem settles_rollBySize_again :
    ∃ files : FileSizes, files = [("logs/d-1970.3.log", 9), ("logs/d-1970.2.log", 6)] ∧
      fileCount files < 2 ^ 32 - 2 ∧
      rollBySize files "logs/d-1970.3.log" "logs/d.log" "1970" 5 = "logs/d-1970.4.log" ∧
      Settles files 5 "logs/d-1970.3.log" "logs/d.log" "1970" "logs/d-1970.4.log" := by
  have few : fileCount [("logs/d-1970.3.log", 9), ("logs/d-1970.2.log", 6)] < 2 ^ 32 - 2 :=
    Nat.lt_of_le_of_lt (fileCount_le_length _) (by decide)
  have known := (settles_rollBySize _ 5 "logs/d-1970.3.log" "logs/d.log" "1970" few).1
  have result : rollBySize [("logs/d-1970.3.log", 9), ("logs/d-1970.2.log", 6)]
      "logs/d-1970.3.log" "logs/d.log" "1970" 5 = "logs/d-1970.4.log" := by decide
  rw [result] at known
  exact ⟨_, rfl, few, result, known⟩

end RollState

end ContractEvents
