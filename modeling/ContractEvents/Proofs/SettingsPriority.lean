/-
Module: ContractEvents.Proofs.SettingsPriority
Purpose: Which of the places that decide about logging has the last word.
Main exports: Environment.effective?, LogFlags.get?_apply, WritesLong, readLong?_eq_some_iff,
  SizeLimitFrom, SizeLimitRefused, LogSettings.ResolvedFrom, resolveSettings_eq_ok_iff,
  resolveSettings_eq_error_iff, LoggingDecided, LogSettings.resolved_by_priority
-/
import ContractEvents.Program.Run
import ContractEvents.Proofs.Outcomes

namespace ContractEvents

/-!
An option has the last word about what it decides, then the environment file, then the environment,
and in the end there is a default.  All of them meet in the environment: the options are written
into it as texts, over what the file has assigned, and the settings are read from there.  So a size
limit goes through its decimal and back, and is never refused if it comes from an option.
-/

/-! ### Variables -/

namespace Environment

variable {environment : Environment} {file : Option Bytes} {name : String}

theorem bindings_assign (environment : Environment) (assignments : List (String × String)) :
    (environment.assign assignments).bindings = assignments.reverse ++ environment.bindings := by
  induction assignments generalizing environment with
  | nil => rfl
  | cons assignment assignments inductionHypothesis =>
      calc
        (environment.assign (assignment :: assignments)).bindings
            = ((environment.set assignment.1 assignment.2).assign assignments).bindings := rfl
        _ = assignments.reverse ++ assignment :: environment.bindings := inductionHypothesis _
        _ = (assignment :: assignments).reverse ++ environment.bindings := by
            rw [List.reverse_cons, List.append_assoc, List.singleton_append]

/-- The value of a variable in a run: the one that the environment file assigns last, or else the
one that it had before. -/
def effective? (environment : Environment) (file : Option Bytes) (name : String) :
    Option String :=
  (file.bind fun content =>
    (EnvironmentFile.assignments environment content).reverse.lookup name).or
    (environment.get? name)

theorem get?_load : (environment.load file).get? name = environment.effective? file name := by
  cases file with
  | none => rfl
  | some content =>
      rw [load, get?, bindings_assign, List.lookup_append]
      rfl

theorem get?_setSome (environment : Environment) (name : String) (value : Option String)
    (other : String) :
    (environment.setSome name value).get? other =
      if other = name then value.or (environment.get? other) else environment.get? other := by
  cases value with
  | none => exact (ite_self _).symm
  | some value => exact get?_set environment name value other

end Environment

/-! ### Options -/

/-- The text that options write into a variable.  The level of one variable is written into another
before the level of the options. -/
def LogFlags.written? (flags : LogFlags) (environment : Environment) : String → Option String
  | "LOG_MODE" => if flags.toFile then some "file" else .none
  | "LOG_LEVEL" => flags.level.or (environment.get? "RUST_LOG")
  | "RUST_LOG" => flags.level
  | "LOG_DATA_DIR" => flags.directory
  | "LOG_MAX_SIZE" => flags.sizeLimit.map fun limit => toString limit.toNat
  | _ => .none

theorem LogFlags.get?_apply (flags : LogFlags) (environment : Environment) (name : String) :
    (flags.apply environment).get? name =
      (flags.written? environment name).or (environment.get? name) := by
  have mode : (if flags.toFile then environment.set "LOG_MODE" "file" else environment) =
      environment.setSome "LOG_MODE" (if flags.toFile then some "file" else .none) := by
    cases flags.toFile <;> rfl
  unfold written?
  split <;> simp_all [apply, Environment.get?_setSome, Option.or_assoc]

/-! ### Numbers of 64 bits -/

/-- A text writes a number of 64 bits: decimal digits, at least one, perhaps behind a plus sign. -/
def WritesLong (text : String) (n : UInt64) : Prop :=
  ∃ digits : List Char, (text.toList = digits ∨ text.toList = '+' :: digits) ∧ digits ≠ [] ∧
    (∀ c ∈ digits, c.isDigit = true) ∧ Nat.ofDigitChars 10 digits 0 = n.toNat

theorem decimalValue?_eq_some_iff {value n : Nat} {digits : List Char} :
    decimalValue? value digits = some n ↔
      (∀ c ∈ digits, c.isDigit = true) ∧ Nat.ofDigitChars 10 digits value = n := by
  induction digits generalizing value with
  | nil => simp [decimalValue?]
  | cons c digits inductionHypothesis =>
      rw [decimalValue?, Nat.ofDigitChars_cons, Nat.mul_comm 10 value, List.forall_mem_cons]
      by_cases digit : c.isDigit = true
      · rw [if_pos digit, inductionHypothesis]
        simp [digit]
      · rw [if_neg digit]
        simp [digit]

/-- The characters behind a plus sign, if there is one. -/
def unsigned : List Char → List Char
  | '+' :: rest => rest
  | cs => cs

theorem unsigned_eq_iff {cs digits : List Char} (allDigits : ∀ c ∈ digits, c.isDigit = true) :
    unsigned cs = digits ↔ cs = digits ∨ cs = '+' :: digits := by
  unfold unsigned
  split
  next rest =>
    -- A sign is no digit, so it is not the first of them.
    have sign : '+' :: rest ≠ digits := by
      rintro rfl
      exact absurd (allDigits '+' List.mem_cons_self) (by decide)
    simp [sign]
  next noSign =>
    constructor
    · exact .inl
    · rintro (same | signed)
      · exact same
      · exact absurd signed (noSign digits)

theorem ofNat_eq_some_iff {m : Nat} {n : UInt64} :
    (if m < 0x10000000000000000 then some (UInt64.ofNat m) else none) = some n ↔ m = n.toNat := by
  constructor
  · intro small
    split at small
    next bound =>
      rw [← Option.some.inj small]
      exact (UInt64.toNat_ofNat_of_lt' bound).symm
    next => cases small
  · rintro rfl
    rw [if_pos n.toNat_lt, UInt64.ofNat_toNat]

theorem readLong?_eq_some_iff {text : String} {n : UInt64} :
    readLong? text = some n ↔ WritesLong text n := by
  have behindSign : readLong? text =
      if (unsigned text.toList).isEmpty then none
      else (decimalValue? 0 (unsigned text.toList)).bind fun m =>
        if m < 0x10000000000000000 then some (UInt64.ofNat m) else none := rfl
  rw [behindSign]
  constructor
  · intro read
    split at read
    next => cases read
    next some_digits =>
      rcases Option.bind_eq_some_iff.mp read with ⟨m, value, small⟩
      rcases decimalValue?_eq_some_iff.mp value with ⟨allDigits, spelled⟩
      refine ⟨unsigned text.toList, (unsigned_eq_iff allDigits).mp rfl, ?_, allDigits, ?_⟩
      · simpa using some_digits
      · rw [spelled, ofNat_eq_some_iff.mp small]
  · rintro ⟨digits, signed, some_digits, allDigits, spelled⟩
    rw [(unsigned_eq_iff allDigits).mpr signed, if_neg (by simpa using some_digits)]
    apply Option.bind_eq_some_iff.mpr
    exact ⟨n.toNat, decimalValue?_eq_some_iff.mpr ⟨allDigits, spelled⟩,
      ofNat_eq_some_iff.mpr rfl⟩

theorem writesLong_toString (n : UInt64) : WritesLong (toString n.toNat) n := by
  refine ⟨Nat.toDigits 10 n.toNat, .inl Nat.toList_repr, Nat.toDigits_ne_nil, ?_,
    Nat.ofDigitChars_ten_toDigits⟩
  intro c member
  exact Nat.isDigit_of_mem_toDigits (by decide) (by decide) member

/-! ### Settings -/

/-- What a size limit comes from: the options, or else the number that the variable writes, or else
the default. -/
inductive SizeLimitFrom : Option UInt64 → Option String → UInt64 → Prop where
  | option (limit : UInt64) (set : Option String) : SizeLimitFrom (some limit) set limit
  | written {text : String} {limit : UInt64} (writes : WritesLong text limit) :
      SizeLimitFrom none (some text) limit
  | standard : SizeLimitFrom none none LogSettings.standard.sizeLimit

/-- The options hold no size limit, and the variable is set to a text that writes no number. -/
structure SizeLimitRefused (option : Option UInt64) (set : Option String) (text : String) :
    Prop where
  unasked : option = none
  there : set = some text
  unwritten : ∀ limit, ¬WritesLong text limit

/-- Settings in which everything is decided by what comes first: the options, the variables, the
defaults. -/
structure LogSettings.ResolvedFrom (value? : String → Option String) (flags : LogFlags)
    (settings : LogSettings) : Prop where
  mode : settings.mode = .file ↔
    flags.toFile = true ∨ ∃ text, value? "LOG_MODE" = some text ∧ text.toLower = "file"
  level : settings.level =
    (((flags.level.or (value? "RUST_LOG")).or (value? "LOG_LEVEL")).map
      LogLevel.ofText).getD .info
  directory : settings.directory =
    (flags.directory.or (value? "LOG_DATA_DIR")).getD LogSettings.standard.directory
  sizeLimit : SizeLimitFrom flags.sizeLimit (value? "LOG_MAX_SIZE") settings.sizeLimit

section SizeLimit

variable {option : Option UInt64} {set : Option String} {limit : UInt64} {text : String}

theorem sizeLimitFrom_or_refused (option : Option UInt64) (set : Option String) :
    (∃ limit, SizeLimitFrom option set limit) ∨ ∃ text, SizeLimitRefused option set text := by
  cases option with
  | some limit => exact .inl ⟨limit, .option limit set⟩
  | none =>
      cases set with
      | none => exact .inl ⟨_, .standard⟩
      | some text =>
          by_cases written : ∃ limit, WritesLong text limit
          · rcases written with ⟨limit, writes⟩
            exact .inl ⟨limit, .written writes⟩
          · exact .inr ⟨text, rfl, rfl, not_exists.mp written⟩

theorem SizeLimitFrom.not_refused (found : SizeLimitFrom option set limit) :
    ¬SizeLimitRefused option set text := by
  rintro ⟨unasked, there, unwritten⟩
  cases found with
  | option limit set => cases unasked
  | written writes =>
      cases there
      exact unwritten limit writes
  | standard => cases there

/-- The limit of the options is not lost in the text that is written for it. -/
theorem sizeLimitFrom_text_iff :
    SizeLimitFrom none ((option.map fun limit => toString limit.toNat).or set) limit ↔
      SizeLimitFrom option set limit := by
  cases option with
  | none => rfl
  | some asked =>
      constructor
      · intro found
        change SizeLimitFrom none (some (toString asked.toNat)) limit at found
        cases found with
        | written writes =>
            have same := readLong?_eq_some_iff.mpr writes
            rw [readLong?_eq_some_iff.mpr (writesLong_toString asked)] at same
            cases same
            exact .option limit set
      · intro found
        cases found
        exact SizeLimitFrom.written (writesLong_toString limit)

/-- A text that is written for the options is not refused. -/
theorem sizeLimitRefused_text_iff :
    SizeLimitRefused none ((option.map fun limit => toString limit.toNat).or set) text ↔
      SizeLimitRefused option set text := by
  cases option with
  | none => rfl
  | some asked =>
      constructor
      · rintro ⟨-, there, unwritten⟩
        cases there
        exact absurd (writesLong_toString asked) (unwritten asked)
      · rintro ⟨unasked, -, -⟩
        cases unasked

end SizeLimit

/-- The options ask for a file in the way that the variable does. -/
theorem mode_eq_iff {mode : LogMode} {toFile : Bool} {set : Option String} :
    mode = (((if toFile then some "file" else none).or set).map LogMode.ofText).getD .stdout ↔
      (mode = .file ↔ toFile = true ∨ ∃ text, set = some text ∧ text.toLower = "file") := by
  have two_modes : ∀ other : LogMode, mode = other ↔ (mode = .file ↔ other = .file) := by
    intro other
    cases mode <;> cases other <;> decide
  have ofText_eq_file_iff : ∀ text, LogMode.ofText text = .file ↔ text.toLower = "file" := by
    intro text
    by_cases file : text.toLower = "file" <;> simp [LogMode.ofText, file]
  rw [two_modes]
  apply iff_congr Iff.rfl
  cases toFile with
  | true =>
      have file : LogMode.ofText "file" = .file := by decide +kernel
      simp [file]
  | false => cases set <;> simp [ofText_eq_file_iff]

namespace LogSettings

theorem ofEnvironment_of_sizeLimit {environment : Environment} {limit : UInt64}
    (found : SizeLimitFrom none (environment.get? "LOG_MAX_SIZE") limit) :
    ofEnvironment environment = .ok
      { mode := ((environment.get? "LOG_MODE").map LogMode.ofText).getD .stdout
        level := ((environment.get? "LOG_LEVEL").map LogLevel.ofText).getD .info
        directory := (environment.get? "LOG_DATA_DIR").getD standard.directory
        sizeLimit := limit } := by
  generalize set : environment.get? "LOG_MAX_SIZE" = text at found
  cases found with
  | written writes =>
      simp only [ofEnvironment, set, readLong?_eq_some_iff.mpr writes]
      rfl
  | standard =>
      simp only [ofEnvironment, set]
      rfl

theorem ofEnvironment_of_refused {environment : Environment} {text : String}
    (refused : SizeLimitRefused none (environment.get? "LOG_MAX_SIZE") text) :
    ofEnvironment environment = .error ⟨text⟩ := by
  have unread : readLong? text = none := by
    apply Option.eq_none_iff_forall_ne_some.mpr
    intro limit read
    exact refused.unwritten limit (readLong?_eq_some_iff.mp read)
  simp only [ofEnvironment, refused.there, unread]
  rfl

end LogSettings

section Resolution

variable {environment : Environment} {file : Option Bytes} {flags : LogFlags}

/-- What the settings are read from is what the options write, or else what the variable holds. -/
theorem get?_apply_load (name : String) :
    (flags.apply (environment.load file)).get? name =
      (flags.written? (environment.load file) name).or (environment.effective? file name) := by
  rw [LogFlags.get?_apply, Environment.get?_load]

theorem resolveSettings_of_sizeLimit {limit : UInt64}
    (found : SizeLimitFrom flags.sizeLimit (environment.effective? file "LOG_MAX_SIZE") limit) :
    resolveSettings environment file flags = .ok
      { mode := (((if flags.toFile then some "file" else none).or
          (environment.effective? file "LOG_MODE")).map LogMode.ofText).getD .stdout
        level := (((flags.level.or (environment.effective? file "RUST_LOG")).or
          (environment.effective? file "LOG_LEVEL")).map LogLevel.ofText).getD .info
        directory := (flags.directory.or
          (environment.effective? file "LOG_DATA_DIR")).getD LogSettings.standard.directory
        sizeLimit := limit } := by
  rw [← sizeLimitFrom_text_iff] at found
  have inForce : SizeLimitFrom none
      ((flags.apply (environment.load file)).get? "LOG_MAX_SIZE") limit := by
    rw [get?_apply_load]
    exact found
  rw [resolveSettings, LogSettings.ofEnvironment_of_sizeLimit inForce]
  simp only [get?_apply_load, LogFlags.written?, Environment.get?_load]

theorem resolveSettings_of_refused {text : String}
    (refused : SizeLimitRefused flags.sizeLimit
      (environment.effective? file "LOG_MAX_SIZE") text) :
    resolveSettings environment file flags = .error ⟨text⟩ := by
  rw [← sizeLimitRefused_text_iff] at refused
  apply LogSettings.ofEnvironment_of_refused
  rw [get?_apply_load]
  exact refused

theorem resolveSettings_eq_ok_iff {settings : LogSettings} :
    resolveSettings environment file flags = .ok settings ↔
      settings.ResolvedFrom (environment.effective? file) flags := by
  constructor
  · intro resolved
    rcases sizeLimitFrom_or_refused flags.sizeLimit
      (environment.effective? file "LOG_MAX_SIZE") with ⟨limit, found⟩ | ⟨text, refused⟩
    · rw [resolveSettings_of_sizeLimit found, Except.ok.injEq] at resolved
      subst resolved
      exact ⟨mode_eq_iff.mp rfl, rfl, rfl, found⟩
    · cases resolved.symm.trans (resolveSettings_of_refused refused)
  · rintro ⟨mode, level, directory, found⟩
    rw [resolveSettings_of_sizeLimit found, ← mode_eq_iff.mpr mode, ← level, ← directory]

theorem resolveSettings_eq_error_iff {text : String} :
    resolveSettings environment file flags = .error ⟨text⟩ ↔
      SizeLimitRefused flags.sizeLimit (environment.effective? file "LOG_MAX_SIZE") text := by
  constructor
  · intro failed
    rcases sizeLimitFrom_or_refused flags.sizeLimit
      (environment.effective? file "LOG_MAX_SIZE") with ⟨limit, found⟩ | ⟨other, refused⟩
    · cases failed.symm.trans (resolveSettings_of_sizeLimit found)
    · cases failed.symm.trans (resolveSettings_of_refused refused)
      exact refused
  · exact resolveSettings_of_refused

end Resolution

/-! ### Runs -/

/-- The value of a variable in a run. -/
def Surroundings.value? (surroundings : Surroundings) (name : String) : Option String :=
  surroundings.environment.effective? surroundings.environmentFile name

/-- All assignments of the environment file are carried out, for an environment can hold every value
without a NUL. -/
def Surroundings.AppliesFile (surroundings : Surroundings) : Prop :=
  ∀ content, surroundings.environmentFile = some content →
    ∀ assignment ∈ EnvironmentFile.assignments surroundings.environment content,
      '\x00' ∉ assignment.2.toList

/-- What is known of a run on arguments with certain options: which settings it plans to log with,
which ones it has logged with, and when and how it ends before its command for want of settings. -/
structure LoggingDecided (surroundings : Surroundings) (flags : LogFlags)
    (arguments : List String) : Prop where
  planned : ∀ settings,
    plannedLog arguments surroundings.environment surroundings.environmentFile = some settings ↔
      settings.ResolvedFrom surroundings.value? flags
  logged : ∀ log, (runProgram arguments surroundings).log = some log →
    log.settings.ResolvedFrom surroundings.value? flags
  refused : (runProgram arguments surroundings).exitCode = 2 ↔
    ∃ text, SizeLimitRefused flags.sizeLimit (surroundings.value? "LOG_MAX_SIZE") text
  explained : ∀ text,
    SizeLimitRefused flags.sizeLimit (surroundings.value? "LOG_MAX_SIZE") text →
      runProgram arguments surroundings = (SetupFault.settings ⟨text⟩).outcome

section Runs

variable {surroundings : Surroundings} {flags : LogFlags} {command : Command}
  {arguments : List String}

theorem Command.exitCode_run (command : Command) (files : Files) (settings : LogSettings) :
    (command.run files settings).exitCode = 0 ∨ (command.run files settings).exitCode = 1 := by
  rw [run]
  split
  · exact .inl rfl
  · exact .inr rfl

theorem Command.log_run (command : Command) (files : Files) (settings : LogSettings) :
    ∃ lines, (command.run files settings).log = some (logOutput settings lines) := by
  rw [run]
  split
  · exact ⟨_, rfl⟩
  · exact ⟨_, rfl⟩

theorem settings_of_applied (applied : surroundings.AppliesFile) :
    Invocation.settings ⟨flags, command⟩ surroundings.environment surroundings.environmentFile =
      (resolveSettings surroundings.environment surroundings.environmentFile flags).mapError
        .settings := by
  have storable : surroundings.environmentFile.bind
      (EnvironmentFile.unstorable? surroundings.environment) = none := by
    apply Option.bind_eq_none_iff.mpr
    intro content there
    apply Option.map_eq_none_iff.mpr
    apply List.find?_eq_none.mpr
    rintro ⟨name, value⟩ made
    simp only [String.contains_char_eq, decide_eq_true_iff]
    exact applied content there (name, value) made
  rw [Invocation.settings, storable]

/-- A run without settings ends before its command. -/
theorem runProgram_of_error {fault : SetupFault}
    (asked : readArguments arguments = .ok ⟨flags, command⟩)
    (failed : Invocation.settings ⟨flags, command⟩ surroundings.environment
      surroundings.environmentFile = .error fault) :
    runProgram arguments surroundings = fault.outcome := by
  simp only [runProgram, asked, Invocation.run, failed]

/-- A run that has settings logs with them, if it logs at all, and ends with no code that stands for
missing settings. -/
theorem runProgram_of_ok {settings : LogSettings}
    (asked : readArguments arguments = .ok ⟨flags, command⟩)
    (configured : Invocation.settings ⟨flags, command⟩ surroundings.environment
      surroundings.environmentFile = .ok settings) :
    (runProgram arguments surroundings).exitCode ≠ 2 ∧
      ∀ log, (runProgram arguments surroundings).log = some log → log.settings = settings := by
  have codes : (command.run surroundings.files settings).exitCode ≠ 2 := by
    rcases command.exitCode_run surroundings.files settings with fine | failed
    · rw [fine]
      decide
    · rw [failed]
      decide
  simp only [runProgram, asked, Invocation.run, configured]
  cases opened : setUpLogging surroundings settings with
  | ok done =>
      refine ⟨codes, ?_⟩
      intro log logged
      rcases command.log_run surroundings.files settings with ⟨lines, written⟩
      cases written.symm.trans logged
      rfl
  | error fault =>
      cases fault with
      | directory fault => exact ⟨codes, fun log logged => by cases logged⟩
      | file fault => exact ⟨(by decide : (101 : UInt32) ≠ 2), fun log logged => by cases logged⟩

theorem plannedLog_eq_some_iff (applied : surroundings.AppliesFile)
    (asked : readArguments arguments = .ok ⟨flags, command⟩) {settings : LogSettings} :
    plannedLog arguments surroundings.environment surroundings.environmentFile = some settings ↔
      settings.ResolvedFrom surroundings.value? flags := by
  simp only [plannedLog, asked, toOption_eq_some_iff, settings_of_applied applied,
    mapError_eq_ok_iff]
  exact resolveSettings_eq_ok_iff

theorem loggingDecided (applied : surroundings.AppliesFile)
    (asked : readArguments arguments = .ok ⟨flags, command⟩) :
    LoggingDecided surroundings flags arguments := by
  have settled : Invocation.settings ⟨flags, command⟩ surroundings.environment
      surroundings.environmentFile = _ := settings_of_applied applied
  have planned := fun settings => @plannedLog_eq_some_iff _ _ _ _ applied asked settings
  cases resolved :
      resolveSettings surroundings.environment surroundings.environmentFile flags with
  | ok settings =>
      rw [resolved] at settled
      have decided := resolveSettings_eq_ok_iff.mp resolved
      rcases runProgram_of_ok asked settled with ⟨code, logged⟩
      refine ⟨planned, ?_, ?_, ?_⟩
      · intro log written
        rw [logged log written]
        exact decided
      · apply iff_of_false code
        rintro ⟨text, refused⟩
        exact decided.sizeLimit.not_refused refused
      · intro text refused
        exact absurd refused decided.sizeLimit.not_refused
  | error fault =>
      rw [resolved] at settled
      have ended : runProgram arguments surroundings = (SetupFault.settings fault).outcome :=
        runProgram_of_error asked settled
      refine ⟨planned, ?_, ?_, ?_⟩
      · intro log written
        rw [ended] at written
        cases written
      · rw [ended]
        exact iff_of_true rfl ⟨fault.text, resolveSettings_eq_error_iff.mp resolved⟩
      · intro text refused
        cases resolved.symm.trans (resolveSettings_eq_error_iff.mpr refused)
        exact ended

end Runs

/-- Everything about logging is decided by the options, or else by the environment file, or else by
the environment, or else by a default.  A run ends before its command for want of settings exactly
if there is no option for the size limit and the variable for it is set to what is no number. -/
theorem LogSettings.resolved_by_priority (surroundings : Surroundings) (flags : LogFlags) :
    (∀ settings,
        resolveSettings surroundings.environment surroundings.environmentFile flags =
            .ok settings ↔
          settings.ResolvedFrom surroundings.value? flags) ∧
      ∀ arguments command, surroundings.AppliesFile →
        readArguments arguments = .ok ⟨flags, command⟩ →
          LoggingDecided surroundings flags arguments := by
  refine ⟨fun settings => resolveSettings_eq_ok_iff, ?_⟩
  intro arguments command applied asked
  exact loggingDecided applied asked

/-- An environment file that assigns a size which is no number, over one that is. -/
def unsizedSurroundings : Surroundings where
  environment := ⟨[("LOG_MAX_SIZE", "4096"), ("LOG_LEVEL", "warn")]⟩
  environmentFile := some (Utf8.encode "RUST_LOG=debug\nLOG_MAX_SIZE=ten\n")
  files := fun _ => .error .missing
  openLog := fun _ => .ok ()

/-- It ends a run, unless an option gives the size limit. -/
theorem LogSettings.resolved_by_priority_unsized :
    unsizedSurroundings.AppliesFile ∧
      (runProgram ["events", "spec.wasm"] unsizedSurroundings).exitCode = 2 ∧
      (runProgram ["--log-max-size=1KB", "events", "spec.wasm"] unsizedSurroundings).exitCode ≠ 2 ∧
      plannedLog ["--log-max-size=1KB", "events", "spec.wasm"] unsizedSurroundings.environment
          unsizedSurroundings.environmentFile = some ⟨.stdout, .debug, "logs/", 1000⟩ := by
  have applied : unsizedSurroundings.AppliesFile := by
    have assigned : EnvironmentFile.assignments unsizedSurroundings.environment
        (Utf8.encode "RUST_LOG=debug\nLOG_MAX_SIZE=ten\n") =
          [("RUST_LOG", "debug"), ("LOG_MAX_SIZE", "ten")] := by decide +kernel
    intro content there assignment made
    rw [← Option.some.inj there, assigned] at made
    rcases List.mem_pair.mp made with rfl | rfl
    · decide
    · decide
  have size : unsizedSurroundings.value? "LOG_MAX_SIZE" = some "ten" := by decide +kernel
  have level : unsizedSurroundings.value? "RUST_LOG" = some "debug" := by decide +kernel
  have mode : unsizedSurroundings.value? "LOG_MODE" = none := by decide +kernel
  have directory : unsizedSurroundings.value? "LOG_DATA_DIR" = none := by decide +kernel
  have unwritten : ∀ limit, ¬WritesLong "ten" limit := by
    intro limit writes
    have unread : readLong? "ten" = none := by decide +kernel
    cases unread.symm.trans (readLong?_eq_some_iff.mpr writes)
  have plain : readArguments ["events", "spec.wasm"] = .ok ⟨.none, .events "spec.wasm"⟩ := rfl
  have sized : readArguments ["--log-max-size=1KB", "events", "spec.wasm"] =
      .ok ⟨⟨false, none, none, some 1000⟩, .events "spec.wasm"⟩ := by decide +kernel
  have refusing := (resolved_by_priority unsizedSurroundings _).2 _ _ applied plain
  have repaired := (resolved_by_priority unsizedSurroundings _).2 _ _ applied sized
  refine ⟨applied, refusing.refused.mpr ⟨"ten", rfl, size, unwritten⟩, ?_, ?_⟩
  · intro ended
    rcases repaired.refused.mp ended with ⟨text, refused⟩
    cases refused.unasked
  · apply (repaired.planned _).mpr
    refine ⟨?_, ?_, ?_, .option 1000 _⟩
    · simp [mode]
    · rw [level]
      decide +kernel
    · rw [directory]
      rfl

end ContractEvents
