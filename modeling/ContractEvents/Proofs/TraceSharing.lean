/-
Module: ContractEvents.Proofs.TraceSharing
Purpose: Which levels of an error share a trace id.
Main exports: Report.Layer, Report.ofLayers, Report.Linked, Report.TracesShared,
  Report.tracesShared_of_ofLayers
-/
import ContractEvents.Report
import Mathlib.Data.Nat.Find

namespace ContractEvents.Report

/-!
An error is made from the innermost level out, and each level decides once, when it is made, which
trace id it carries: the one that a bounded walk down its source finds, or a fresh one.  A walk ends
at the first level that carries an id, so the decisions form a chain from carrier to carrier, which
is broken exactly where too many plain levels stand between two of them.
-/

/-- What one level of an error is made from. -/
inductive Layer where
  /-- A context, with the details that it is made with and those that are added to it. -/
  | context (text : String) (details added : List (String × String))
  | listing (kind : ListingErrorKind) (text : String) (details : List (String × String))
  | plain (text : String)
deriving DecidableEq, Repr, Inhabited

namespace Layer

/-- Does the level that a layer makes carry a trace id? -/
def carries : Layer → Bool
  | .plain _ => false
  | _ => true

/-- The error that a layer makes around a source. -/
def wrap (fresh : TraceId) (source : Option Report) : Layer → Report
  | .context text details added =>
      added.foldl (fun report (key, value) => report.withDetail key value)
        (newContext fresh text source details)
  | .listing kind text details => newListing fresh kind text source details
  | .plain text => .plain text source

end Layer

/-- The error that layers make, given from the outermost to the innermost.  A level around `n`
others is offered the fresh id of number `n`. -/
def ofLayers (ids : Nat → TraceId) : List Layer → Option Report
  | [] => none
  | layer :: inner => some (layer.wrap (ids inner.length) (ofLayers ids inner))

/-- The trace id of the level at a position, counted from the outermost one. -/
def traceIdAt? (report : Report) (position : Nat) : Option TraceId :=
  report.levels[position]?.bind traceId?

/-! ### The trace ids of all levels -/

/-- The trace ids of the levels, outermost first. -/
def traceIds (report : Report) : List (Option TraceId) := report.levels.map traceId?

/-- The trace ids of the levels of a source, if there is one. -/
def idsBehind (source : Option Report) : List (Option TraceId) := source.elim [] traceIds

theorem traceIdAt?_eq (report : Report) (position : Nat) :
    report.traceIdAt? position = report.traceIds[position]?.join := by
  rw [traceIdAt?, traceIds, List.getElem?_map]
  cases report.levels[position]? <;> rfl

theorem wrap_context (fresh : TraceId) (source : Option Report) (text : String)
    (details added : List (String × String)) :
    (Layer.context text details added).wrap fresh source =
      .context text (detailsOf (details ++ added)) source (inheritTraceId fresh source) := by
  have added_eq : ∀ held : List (String × String),
      added.foldl (fun report (key, value) => report.withDetail key value)
          (context text held source (inheritTraceId fresh source)) =
        context text (added.foldl (fun held (key, value) => insertDetail key value held) held)
          source (inheritTraceId fresh source) := by
    induction added with
    | nil => exact fun _ => rfl
    | cons pair added inductionHypothesis => exact fun held => inductionHypothesis _
  rw [Layer.wrap, newContext, added_eq, detailsOf, detailsOf, List.foldl_append]

/-- A walk gives the first id among as many levels as it looks at.  What a listing error hides from
it stands behind the id of that error itself. -/
theorem findTraceId_eq (count : Nat) (report : Report) :
    report.findTraceId count = (report.traceIds.take count).findSome? id := by
  induction count generalizing report with
  | zero => rfl
  | succ count inductionHypothesis =>
      cases report with
      | plain text source =>
          cases source with
          | none => cases count <;> rfl
          | some source => exact inductionHypothesis source
      | context text details source id => cases source <;> rfl
      | listing kind text details source id => cases source <;> rfl

theorem inheritTraceId_eq (fresh : TraceId) (source : Option Report) :
    inheritTraceId fresh source =
      (((idsBehind source).take traceDepth).findSome? id).getD fresh := by
  cases source with
  | none => rfl
  | some source => rw [inheritTraceId, Option.bind_some, findTraceId_eq]; rfl

/-- A layer puts one level in front of those of its source. -/
theorem traceIds_wrap (fresh : TraceId) (source : Option Report) (layer : Layer) :
    (layer.wrap fresh source).traceIds =
      (if layer.carries then some (inheritTraceId fresh source) else none) ::
        idsBehind source := by
  cases layer with
  | context text details added => rw [wrap_context]; cases source <;> rfl
  | listing kind text details => cases source <;> rfl
  | plain text => cases source <;> rfl

/-! ### Where walks end -/

/-- A walk over a list finds the first entry that is there, if it looks that far. -/
theorem findSome?_take_of_first {held : List (Option TraceId)} {first : Nat}
    {carried : TraceId} (here : held[first]? = some (some carried))
    (before : ∀ i < first, held[i]? = some none) (count : Nat) :
    (held.take count).findSome? id = if first < count then some carried else none := by
  induction first generalizing held count with
  | zero =>
      cases held with
      | nil => cases here
      | cons entry held =>
          obtain rfl : entry = some carried := by simpa using here
          cases count <;> rfl
  | succ first inductionHypothesis =>
      cases held with
      | nil => cases here
      | cons entry held =>
          obtain rfl : entry = none := by simpa using before 0 (Nat.succ_pos first)
          cases count with
          | zero => rfl
          | succ count =>
              have hereBehind : held[first]? = some (some carried) := by simpa using here
              have beforeBehind : ∀ i < first, held[i]? = some none := fun i less => by
                simpa using before (i + 1) (Nat.succ_lt_succ less)
              rw [List.take_succ_cons, List.findSome?_cons, id,
                inductionHypothesis hereBehind beforeBehind]
              simp only [Nat.succ_lt_succ_iff]

/-- The level at a position carries a trace id. -/
def CarriesAt (layers : List Layer) (position : Nat) : Prop :=
  layers[position]?.any Layer.carries = true

instance (layers : List Layer) (position : Nat) : Decidable (CarriesAt layers position) :=
  inferInstanceAs (Decidable (_ = true))

/-- Two levels that carry trace ids, and none between them that does. -/
structure Consecutive (layers : List Layer) (outer inner : Nat) : Prop where
  lt : outer < inner
  outerCarries : CarriesAt layers outer
  innerCarries : CarriesAt layers inner
  plainBetween : ∀ position, outer < position → position < inner → ¬ CarriesAt layers position

/-- From one level to another, at most three plain levels stand between every two consecutive ones
that carry trace ids. -/
def Linked (layers : List Layer) (outermost innermost : Nat) : Prop :=
  ∀ outer inner, outermost ≤ outer → inner ≤ innermost → Consecutive layers outer inner →
    inner - outer - 1 ≤ 3

section Positions

variable {layer : Layer} {layers : List Layer}

@[simp] theorem carriesAt_zero : CarriesAt (layer :: layers) 0 ↔ layer.carries = true := by
  simp [CarriesAt]

@[simp] theorem carriesAt_succ {position : Nat} :
    CarriesAt (layer :: layers) (position + 1) ↔ CarriesAt layers position := by
  simp [CarriesAt]

theorem consecutive_succ {outer inner : Nat} :
    Consecutive (layer :: layers) (outer + 1) (inner + 1) ↔ Consecutive layers outer inner := by
  constructor
  · intro consecutive
    refine ⟨Nat.lt_of_succ_lt_succ consecutive.lt, carriesAt_succ.mp consecutive.outerCarries,
      carriesAt_succ.mp consecutive.innerCarries, ?_⟩
    intro position behind inFront carries
    exact consecutive.plainBetween (position + 1) (by omega) (by omega)
      (carriesAt_succ.mpr carries)
  · intro consecutive
    refine ⟨Nat.succ_lt_succ consecutive.lt, carriesAt_succ.mpr consecutive.outerCarries,
      carriesAt_succ.mpr consecutive.innerCarries, ?_⟩
    intro position behind inFront carries
    obtain ⟨position, rfl⟩ := Nat.exists_eq_add_of_lt (Nat.zero_lt_of_lt behind)
    rw [Nat.zero_add] at behind inFront carries
    exact consecutive.plainBetween position (by omega) (by omega) (carriesAt_succ.mp carries)

theorem linked_succ {outermost innermost : Nat} :
    Linked (layer :: layers) (outermost + 1) (innermost + 1) ↔
      Linked layers outermost innermost := by
  constructor
  · intro linked outer inner behind inFront consecutive
    have gap := linked (outer + 1) (inner + 1) (by omega) (by omega)
      (consecutive_succ.mpr consecutive)
    omega
  · intro linked outer inner behind inFront consecutive
    have lt := consecutive.lt
    obtain ⟨outer, rfl⟩ := Nat.exists_eq_add_of_le' (Nat.le_of_add_left_le behind)
    obtain ⟨inner, rfl⟩ := Nat.exists_eq_add_of_le' (show 1 ≤ inner by omega)
    have gap := linked outer inner (by omega) (by omega) (consecutive_succ.mp consecutive)
    omega

/-- The level that is first among those behind a carrier is linked to it by its distance. -/
theorem linked_zero_iff {first innermost : Nat} (carries : layer.carries = true)
    (carriesFirst : CarriesAt layers first) (plain : ∀ i < first, ¬ CarriesAt layers i)
    (inside : first ≤ innermost) :
    Linked (layer :: layers) 0 (innermost + 1) ↔ first ≤ 3 ∧ Linked layers first innermost := by
  have consecutive : Consecutive (layer :: layers) 0 (first + 1) := by
    refine ⟨Nat.succ_pos first, carriesAt_zero.mpr carries, carriesAt_succ.mpr carriesFirst, ?_⟩
    intro position behind inFront
    obtain ⟨position, rfl⟩ := Nat.exists_eq_add_of_le' behind
    rw [carriesAt_succ]
    exact plain position (Nat.lt_of_succ_lt_succ inFront)
  constructor
  · intro linked
    refine ⟨linked 0 (first + 1) (Nat.le_refl 0) (by omega) consecutive, ?_⟩
    intro outer inner behind inFront between
    have gap := linked (outer + 1) (inner + 1) (Nat.zero_le _) (by omega)
      (consecutive_succ.mpr between)
    omega
  · rintro ⟨near, linked⟩ outer inner - inFront between
    have lt := between.lt
    obtain ⟨inner, rfl⟩ := Nat.exists_eq_add_of_le' (show 1 ≤ inner by omega)
    cases outer with
    | zero =>
        -- The next carrier is the first one, as there is none between the two.
        have next : inner ≤ first := by
          by_contra beyond
          exact between.plainBetween (first + 1) (by omega) (by omega)
            (carriesAt_succ.mpr carriesFirst)
        omega
    | succ outer =>
        have between := consecutive_succ.mp between
        have behind : first ≤ outer := by
          by_contra before
          exact plain outer (by omega) between.outerCarries
        have gap := linked outer inner behind (by omega) between
        omega

/-- Among levels of which one carries a trace id, one is the first that does. -/
theorem exists_first_carrier {position : Nat} (carries : CarriesAt layers position) :
    ∃ first ≤ position, CarriesAt layers first ∧ ∀ i < first, ¬ CarriesAt layers i :=
  have some_carries : ∃ i, CarriesAt layers i := ⟨position, carries⟩
  ⟨Nat.find some_carries, Nat.find_min' some_carries carries, Nat.find_spec some_carries,
    fun _ => Nat.find_min some_carries⟩

end Positions

/-! ### The trace ids that layers lead to -/

section Ids

variable {ids : Nat → TraceId} {layer : Layer} {layers : List Layer}

/-- The trace ids of the levels that layers make, outermost first. -/
def idsOf (ids : Nat → TraceId) (layers : List Layer) : List (Option TraceId) :=
  idsBehind (ofLayers ids layers)

/-- The trace id of one of the levels that layers make. -/
def idAt? (ids : Nat → TraceId) (layers : List Layer) (position : Nat) : Option TraceId :=
  (idsOf ids layers)[position]?.join

theorem idsOf_cons :
    idsOf ids (layer :: layers) =
      (if layer.carries then
        some (inheritTraceId (ids layers.length) (ofLayers ids layers)) else none) ::
          idsOf ids layers :=
  traceIds_wrap _ _ layer

theorem length_idsOf : (idsOf ids layers).length = layers.length := by
  induction layers with
  | nil => rfl
  | cons layer layers inductionHypothesis => simp [idsOf_cons, inductionHypothesis]

@[simp] theorem idAt?_succ (position : Nat) :
    idAt? ids (layer :: layers) (position + 1) = idAt? ids layers position := by
  simp [idAt?, idsOf_cons]

theorem idAt?_zero :
    idAt? ids (layer :: layers) 0 =
      if layer.carries then
        some ((((idsOf ids layers).take traceDepth).findSome? id).getD (ids layers.length))
      else none := by
  rw [idAt?, idsOf_cons, inheritTraceId_eq]
  rfl

theorem isSome_idAt? (ids : Nat → TraceId) {position : Nat} :
    (idAt? ids layers position).isSome = true ↔ CarriesAt layers position := by
  induction layers generalizing position with
  | nil => simp [idAt?, idsOf, ofLayers, idsBehind, CarriesAt]
  | cons layer layers inductionHypothesis =>
      cases position with
      | zero => cases carries : layer.carries <;> simp [idAt?_zero, carries]
      | succ position => rw [idAt?_succ, carriesAt_succ, inductionHypothesis]

theorem getElem?_idsOf_of_idAt? {position : Nat} {carried : TraceId}
    (here : idAt? ids layers position = some carried) :
    (idsOf ids layers)[position]? = some (some carried) :=
  Option.join_eq_some_iff.mp here

theorem getElem?_idsOf_of_plain {position : Nat} (inside : position < layers.length)
    (plain : ¬ CarriesAt layers position) : (idsOf ids layers)[position]? = some none := by
  have within : position < (idsOf ids layers).length := by rwa [length_idsOf]
  rw [← isSome_idAt? ids, idAt?, List.getElem?_eq_getElem within] at plain
  rw [List.getElem?_eq_getElem within, Option.some_inj]
  simpa using plain

/-- A carrier takes the id of the first carrier behind it if that is near, and a fresh one
otherwise. -/
theorem idAt?_zero_of_first {first : Nat} (carries : layer.carries = true)
    (carriesFirst : CarriesAt layers first) (plain : ∀ i < first, ¬ CarriesAt layers i) :
    idAt? ids (layer :: layers) 0 =
      if first ≤ 3 then idAt? ids layers first else some (ids layers.length) := by
  obtain ⟨carried, here⟩ := Option.isSome_iff_exists.mp ((isSome_idAt? ids).mpr carriesFirst)
  have entry := getElem?_idsOf_of_idAt? here
  have inside : first < layers.length := by
    obtain ⟨inside, -⟩ := List.getElem?_eq_some_iff.mp entry
    rwa [length_idsOf] at inside
  have before : ∀ i < first, (idsOf ids layers)[i]? = some none := fun i less =>
    getElem?_idsOf_of_plain (Nat.lt_trans less inside) (plain i less)
  rw [idAt?_zero, if_pos carries, findSome?_take_of_first entry before, here, traceDepth]
  by_cases near : first ≤ 3
  · rw [if_pos near, if_pos (Nat.lt_succ_of_le near), Option.getD_some]
  · rw [if_neg near, if_neg (fun less => near (Nat.le_of_lt_succ less)), Option.getD_none]

/-- A carrier in front of plain levels takes a fresh id. -/
theorem idAt?_zero_of_innermost (carries : layer.carries = true)
    (plain : ∀ position, ¬ CarriesAt layers position) :
    idAt? ids (layer :: layers) 0 = some (ids layers.length) := by
  have none_found : ((idsOf ids layers).take traceDepth).findSome? id = none := by
    rw [List.findSome?_eq_none_iff]
    intro entry member
    obtain ⟨position, here⟩ := List.mem_iff_getElem?.mp (List.mem_of_mem_take member)
    have inside : position < layers.length := by
      obtain ⟨inside, -⟩ := List.getElem?_eq_some_iff.mp here
      rwa [length_idsOf] at inside
    rw [getElem?_idsOf_of_plain inside (plain position), Option.some_inj] at here
    exact here.symm
  rw [idAt?_zero, if_pos carries, none_found, Option.getD_none]

/-- Every id was fresh when some level was made. -/
theorem exists_number_of_idAt? {position : Nat} {carried : TraceId}
    (here : idAt? ids layers position = some carried) :
    ∃ number < layers.length, carried = ids number := by
  induction layers generalizing position with
  | nil => cases here
  | cons layer layers inductionHypothesis =>
      have behind : ∀ {position}, idAt? ids layers position = some carried →
          ∃ number < (layer :: layers).length, carried = ids number := by
        intro position here
        obtain ⟨number, less, drawn⟩ := inductionHypothesis here
        exact ⟨number, Nat.lt_succ_of_lt less, drawn⟩
      cases position with
      | succ position => exact behind (idAt?_succ position ▸ here)
      | zero =>
          rw [idAt?_zero] at here
          split at here
          · cases walked : ((idsOf ids layers).take traceDepth).findSome? id with
            | none =>
                rw [walked, Option.getD_none, Option.some_inj] at here
                exact ⟨layers.length, Nat.lt_succ_self _, here.symm⟩
            | some inherited =>
                rw [walked, Option.getD_some] at here
                obtain ⟨entry, member, rfl⟩ := List.exists_of_findSome?_eq_some (walked.trans here)
                obtain ⟨position, entryAt⟩ :=
                  List.mem_iff_getElem?.mp (List.mem_of_mem_take member)
                exact behind (Option.join_eq_some_iff.mpr entryAt)
          · cases here

/-- Two carriers share an id exactly if no gap on the way from one to the other is too long. -/
theorem idAt?_eq_iff_linked (distinct : Function.Injective ids) {outer inner : Nat}
    (ordered : outer ≤ inner) (outerCarries : CarriesAt layers outer)
    (innerCarries : CarriesAt layers inner) :
    idAt? ids layers outer = idAt? ids layers inner ↔ Linked layers outer inner := by
  induction layers generalizing outer inner with
  | nil => cases outerCarries
  | cons layer layers inductionHypothesis =>
      cases inner with
      | zero =>
          obtain rfl := Nat.le_zero.mp ordered
          refine iff_of_true rfl ?_
          rintro outer inner - atRoot consecutive
          have lt := consecutive.lt
          omega
      | succ inner =>
          rw [carriesAt_succ] at innerCarries
          cases outer with
          | succ outer =>
              rw [idAt?_succ, idAt?_succ, linked_succ]
              exact inductionHypothesis (Nat.le_of_succ_le_succ ordered)
                (carriesAt_succ.mp outerCarries) innerCarries
          | zero =>
              have carries := carriesAt_zero.mp outerCarries
              obtain ⟨first, inside, carriesFirst, plain⟩ := exists_first_carrier innerCarries
              rw [linked_zero_iff carries carriesFirst plain inside, idAt?_succ,
                idAt?_zero_of_first carries carriesFirst plain,
                ← inductionHypothesis inside carriesFirst innerCarries]
              by_cases near : first ≤ 3
              · rw [if_pos near, and_iff_right near]
              · rw [if_neg near]
                -- The outer level starts anew, with a number that no level behind it was offered.
                refine iff_of_false ?_ fun both => near both.1
                intro same
                obtain ⟨number, less, drawn⟩ := exists_number_of_idAt? same.symm
                have same_number := distinct drawn
                omega

/-- The innermost carrier has the fresh id that it was offered. -/
theorem idAt?_innermost {innermost : Nat} (carries : CarriesAt layers innermost)
    (plain : ∀ position, innermost < position → ¬ CarriesAt layers position) :
    idAt? ids layers innermost = some (ids (layers.length - 1 - innermost)) := by
  induction layers generalizing innermost with
  | nil => cases carries
  | cons layer layers inductionHypothesis =>
      cases innermost with
      | zero =>
          have plainBehind : ∀ position, ¬ CarriesAt layers position := fun position carries =>
            plain (position + 1) (Nat.succ_pos position) (carriesAt_succ.mpr carries)
          rw [idAt?_zero_of_innermost (carriesAt_zero.mp carries) plainBehind]
          rfl
      | succ innermost =>
          have number : (layer :: layers).length - 1 - (innermost + 1) =
              layers.length - 1 - innermost := by
            rw [List.length_cons]
            omega
          rw [idAt?_succ, number]
          refine inductionHypothesis (carriesAt_succ.mp carries) ?_
          intro position behind carriesBehind
          exact plain (position + 1) (Nat.succ_lt_succ behind) (carriesAt_succ.mpr carriesBehind)

theorem Linked.mono {outermost outer innermost : Nat} (linked : Linked layers outermost innermost)
    (behind : outermost ≤ outer) : Linked layers outer innermost :=
  fun _ _ here => linked _ _ (Nat.le_trans behind here)

theorem traceIdAt?_of_ofLayers {report : Report} (built : ofLayers ids layers = some report)
    (position : Nat) : report.traceIdAt? position = idAt? ids layers position := by
  rw [traceIdAt?_eq, idAt?, idsOf, built]
  rfl

end Ids

/-- What the trace ids of an error tell of the layers that it was made from. -/
structure TracesShared (ids : Nat → TraceId) (layers : List Layer) (report : Report) : Prop where
  /-- Contexts and listing errors carry a trace id, and no other level does. -/
  carried : ∀ position,
    (report.traceIdAt? position).isSome = true ↔ CarriesAt layers position
  /-- Two of them carry the same one exactly if no gap on the way is too long. -/
  shared : ∀ outer inner, outer ≤ inner → CarriesAt layers outer → CarriesAt layers inner →
    (report.traceIdAt? outer = report.traceIdAt? inner ↔ Linked layers outer inner)
  /-- Where no gap is too long, all carry the id that the innermost of them was offered. -/
  single : ∀ innermost, CarriesAt layers innermost →
    (∀ position, innermost < position → ¬ CarriesAt layers position) →
      Linked layers 0 innermost → ∀ position, CarriesAt layers position →
        report.traceIdAt? position = some (ids (layers.length - 1 - innermost))

/-- If fresh ids are all different, two levels of an error that carry trace ids share one exactly if
at most three plain levels stand between every two consecutive carriers from one to the other. -/
theorem tracesShared_of_ofLayers {ids : Nat → TraceId} (distinct : Function.Injective ids)
    {layers : List Layer} {report : Report} (built : ofLayers ids layers = some report) :
    TracesShared ids layers report where
  carried := by
    intro position
    rw [traceIdAt?_of_ofLayers built, isSome_idAt?]
  shared := by
    intro outer inner ordered outerCarries innerCarries
    rw [traceIdAt?_of_ofLayers built, traceIdAt?_of_ofLayers built]
    exact idAt?_eq_iff_linked distinct ordered outerCarries innerCarries
  single := by
    intro innermost innermostCarries plain linked position carries
    have inside : position ≤ innermost := by
      by_contra beyond
      exact plain position (Nat.lt_of_not_le beyond) carries
    have same := (idAt?_eq_iff_linked distinct inside carries innermostCarries).mpr
      (linked.mono (Nat.zero_le position))
    rw [traceIdAt?_of_ofLayers built, same, idAt?_innermost innermostCarries plain]

/-- Three plain levels in front of a listing error, and four behind it. -/
private def gapped : List Layer :=
  [.context "a" [] [("key", "value")], .plain "b", .plain "c", .plain "d",
    .listing .parse "e" [], .plain "f", .plain "g", .plain "h", .plain "i", .context "j" [] [],
    .plain "k"]

/-- The outer context shares the id of the listing error, which does not share that of the inner
context. -/
theorem tracesShared_of_ofLayers_gapped :
    ∃ report, ofLayers (fun number => number) gapped = some report ∧
      TracesShared (fun number => number) gapped report ∧
      report.traceIds =
        [some 6, none, none, none, some 6, none, none, none, none, some 1, none] :=
  ⟨_, rfl, tracesShared_of_ofLayers (fun _ _ same => same) rfl, rfl⟩

end ContractEvents.Report
