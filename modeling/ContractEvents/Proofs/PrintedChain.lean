/-
Module: ContractEvents.Proofs.PrintedChain
Purpose: Which levels of an error its printed chain tells.
Main exports: Report.hidesSource, Report.told, Report.printed, Report.ChainTold, Report.chainTold,
  Report.listing_error_hides_cause
-/
import ContractEvents.Program.Run

namespace ContractEvents

/-!
The printed chain goes from level to level by the sources that the levels show.  A context and a
plain error show the source that they were given; a listing error does not.  So the chain tells the
levels down to the first listing error, and whatever caused that one is held but not told.
-/

namespace Report

/-- Does a level keep its source to itself? -/
def hidesSource : Report → Bool
  | .listing .. => true
  | _ => false

/-- The levels down to the first that keeps its source to itself, that one included. -/
def told : List Report → List Report
  | [] => []
  | level :: behind => level :: if level.hidesSource then [] else told behind

/-- Messages as a chain prints them. -/
def printed (texts : List String) : String := "\n\tCaused by: ".intercalate texts

/-- Walking the shown sources leads through the told levels. -/
theorem messages_eq : ∀ report : Report, report.messages = (told report.levels).map message
  | .context _ _ none _ => rfl
  | .context _ _ (some source) _ => congrArg _ (messages_eq source)
  | .listing _ _ _ none _ => rfl
  | .listing _ _ _ (some _) _ => rfl
  | .plain _ none => rfl
  | .plain _ (some source) => congrArg _ (messages_eq source)

theorem levels_ne_nil (report : Report) : report.levels ≠ [] := by
  cases report with
  | context text details source id => cases source <;> exact List.cons_ne_nil _ _
  | listing kind text details source id => cases source <;> exact List.cons_ne_nil _ _
  | plain text source => cases source <;> exact List.cons_ne_nil _ _

theorem told_eq_nil_iff (levels : List Report) : told levels = [] ↔ levels = [] := by
  cases levels <;> simp [told]

/-- Levels that are not told stand behind a told one that keeps its source to itself. -/
theorem exists_hidden (levels : List Report) :
    ∃ hidden, levels = told levels ++ hidden ∧
      (hidden ≠ [] → ∃ last, (told levels).getLast? = some last ∧ last.hidesSource = true) := by
  induction levels with
  | nil => exact ⟨[], rfl, fun some_hidden => absurd rfl some_hidden⟩
  | cons level behind inductionHypothesis =>
      obtain ⟨hidden, split, last⟩ := inductionHypothesis
      cases hides : level.hidesSource with
      | true => exact ⟨behind, by simp [told, hides], fun _ => ⟨level, by simp [told, hides]⟩⟩
      | false =>
          refine ⟨hidden, ?_, ?_⟩
          · rw [told, hides, if_neg Bool.false_ne_true, List.cons_append, ← split]
          · intro some_hidden
            obtain ⟨last, at_end, hidesLast⟩ := last some_hidden
            refine ⟨last, ?_, hidesLast⟩
            rw [told, hides, if_neg Bool.false_ne_true, List.getLast?_cons, at_end,
              Option.getD_some]

theorem told_eq_self_iff (levels : List Report) :
    told levels = levels ↔ ∀ level ∈ levels.dropLast, level.hidesSource = false := by
  induction levels with
  | nil => simp [told]
  | cons level behind inductionHypothesis =>
      cases behind with
      | nil => simp [told]
      | cons next behind =>
          rw [List.dropLast_cons_cons, List.forall_mem_cons, ← inductionHypothesis, told]
          cases level.hidesSource <;> simp

/-- A chain that goes on is longer. -/
theorem printed_append_ne {texts more : List String} (some_texts : texts ≠ [])
    (some_more : more ≠ []) : printed (texts ++ more) ≠ printed texts := by
  intro same
  have lengths := congrArg String.length same
  rw [printed, printed, String.intercalate_append_of_ne_nil some_texts some_more,
    String.length_append, String.length_append] at lengths
  have separator : "\n\tCaused by: ".length = 13 := rfl
  omega

theorem chain_eq (report : Report) : report.chain = printed ((told report.levels).map message) :=
  congrArg printed report.messages_eq

/-- The chain is that of all levels only if all levels are told. -/
theorem chain_eq_printed_levels_iff (report : Report) :
    report.chain = printed (report.levels.map message) ↔ told report.levels = report.levels := by
  rw [chain_eq]
  constructor
  · intro same
    obtain ⟨hidden, split, -⟩ := exists_hidden report.levels
    cases hidden with
    | nil =>
        rw [List.append_nil] at split
        exact split.symm
    | cons level behind =>
        have some_told : (told report.levels).map message ≠ [] := by
          rw [Ne, List.map_eq_nil_iff, told_eq_nil_iff]
          exact report.levels_ne_nil
        have all := congrArg (List.map message) split
        rw [List.map_append] at all
        rw [all] at same
        exact absurd same.symm (printed_append_ne some_told (List.cons_ne_nil _ _))
  · intro whole
    rw [whole]

end Report

/-! ### A listing that is not loaded -/

/-- What made the loading of a listing fail, if that was another error. -/
def ListingFault.cause? : ListingFault → Option String
  | .unreadable _ reason => some reason
  | .wasm _ => none
  | .notText _ fault => some fault.message
  | .json fault => some fault.message
  | .entry _ fault => some fault.message

/-- The error of a fault holds its cause, and does not tell it. -/
theorem ListingFault.levels_report (fault : ListingFault) :
    (fault.report 0).levels.map Report.message = fault.message :: fault.cause?.toList ∧
      (fault.report 0).messages = [fault.message] := by
  cases fault <;> exact ⟨rfl, rfl⟩

theorem loadCatalog_eq_error_iff {files : Files} {path : String} {report : Report} :
    loadCatalog files path = .error report ↔
      ∃ fault, loadListingFile path ((files path).mapError FileFault.message) = .error fault ∧
        report = .plain ("Failed to load listing " ++ path) (some (fault.report 0)) := by
  rw [loadCatalog]
  cases loadListingFile path ((files path).mapError FileFault.message) with
  | ok listing => simp
  | error fault => simp [eq_comm]

/-- A command whose listing is not loaded prints the chain of the error, if the log goes to a
file. -/
theorem errors_of_loadCatalog {command : Command} {files : Files} {settings : LogSettings}
    {report : Report} (failed : loadCatalog files command.listing = .error report)
    (logged : settings.mode = .file) :
    (command.run files settings).errors = report.chain ++ "\n" := by
  simp [Command.run, Command.perform, failed, logged]

namespace Report

/-- What the printed chain tells of an error. -/
structure ChainTold (report : Report) : Prop where
  /-- It tells the levels, outermost first, down to the first that keeps its source to itself. -/
  chain : report.chain = printed ((told report.levels).map message)
  hidden : ∃ hidden, report.levels = told report.levels ++ hidden ∧
    (hidden ≠ [] → ∃ last, (told report.levels).getLast? = some last ∧ last.hidesSource = true)
  /-- It tells all levels exactly if no listing error stands around another error. -/
  whole : report.chain = printed (report.levels.map message) ↔
    ∀ level ∈ report.levels.dropLast, level.hidesSource = false
  /-- If it is that of a listing that is not loaded, it names the listing and what was wrong with
  it, but not what caused that. -/
  unloaded : ∀ (command : Command) (files : Files) (settings : LogSettings),
    loadCatalog files command.listing = .error report → settings.mode = .file →
      ∃ fault, loadListingFile command.listing
            ((files command.listing).mapError FileFault.message) = .error fault ∧
        report.levels.map message =
          ("Failed to load listing " ++ command.listing) :: fault.message ::
            fault.cause?.toList ∧
        (command.run files settings).errors =
          printed ["Failed to load listing " ++ command.listing, fault.message] ++ "\n"

/-- The printed chain of an error tells its levels in order, but none behind a listing error, and so
never the cause of a listing that is not loaded. -/
theorem chainTold (report : Report) : ChainTold report where
  chain := report.chain_eq
  hidden := exists_hidden report.levels
  whole := by rw [chain_eq_printed_levels_iff, told_eq_self_iff]
  unloaded := by
    intro command files settings failed logged
    rw [errors_of_loadCatalog failed logged]
    obtain ⟨fault, faulted, rfl⟩ := loadCatalog_eq_error_iff.mp failed
    obtain ⟨held, shown⟩ := fault.levels_report
    refine ⟨fault, faulted, ?_, ?_⟩
    · rw [levels, List.map_cons, held]
      rfl
    · rw [chain, messages, shown]
      rfl

/-- A context around a listing error whose cause is a third error. -/
private def unreadableListing : Report :=
  newContext 1 "Listing loading failed"
    (some (newListing 0 .file "Failed to read listing file"
      (some (.plain "Permission denied" none)) [("path", "spec.wasm")])) []

/-- The cause of a listing error is held, but not printed. -/
theorem listing_error_hides_cause :
    unreadableListing.levels.map message =
        ["Listing loading failed", "File error: Failed to read listing file [path=spec.wasm]",
          "Permission denied"] ∧
      unreadableListing.chain =
        printed ["Listing loading failed",
          "File error: Failed to read listing file [path=spec.wasm]"] ∧
      unreadableListing.chain ≠ printed (unreadableListing.levels.map message) := by
  refine ⟨rfl, rfl, ?_⟩
  rw [Ne, chain_eq_printed_levels_iff, told_eq_self_iff]
  decide

end Report

end ContractEvents
