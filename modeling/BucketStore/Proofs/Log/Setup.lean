import BucketStore.Log.Output
import BucketStore.Proofs.Config.Lemmas.Records
import BucketStore.Proofs.Log.Lemmas.Levels
import Mathlib.Data.List.Induction

/-!
# Setting the output up

Without a log file the output can be set up again and again: each time the handlers make way for one
of the console, and it and the root have the level that the settings state. Two names are refused
that belong to other things than levels; then everything stays as it was.
-/

namespace BucketStore

open BucketStore.Config

/-! ## The level of settings -/

namespace Settings

theorem logLevelName_eq_ok_iff {v : Value} {name : String} :
    logLevelName v = .ok name ↔ ∃ t, v = .text t ∧ name = Text.upper (Text.trim t) := by
  cases v with
  | text t =>
    have hname : logLevelName (.text t) = .ok (Text.upper (Text.trim t)) := rfl
    rw [hname]
    simp [eq_comm]
  | _ => exact ⟨nofun, nofun⟩

/-- The name of a level is the text for it, or else that of the default one, without blanks around
it and in capitals. -/
theorem logLevel_of_load {env kwargs : Fields} {s : Settings} (h : load env kwargs = .ok s) :
    ∃ t, (source env kwargs "log_level").getD (.text "INFO") = .text t ∧
      s.logLevel = Text.upper (Text.trim t) := by
  have hread : readField (merge env kwargs) logLevelName "log_level" "INFO" = .ok s.logLevel := by
    have htake : ∃ s', ofFields (merge env kwargs) = .ok s' ∧ s' = s := ⟨s, h, rfl⟩
    simp only [ofFields, exists_take_iff] at htake
    -- of the sixteen fields the name of the level is the fourth
    obtain ⟨_, -, _, -, _, -, _, -, _, -, _, -, _, -, _, -, _, -, _, -, _, -, _, -, _, hlevel, _, -,
      _, -, _, -, _, hmk, rfl⟩ := htake
    cases hmk
    exact hlevel
  have hmerge : Fields.get? (merge env kwargs) "log_level" = source env kwargs "log_level" :=
    get?_merge (by decide)
  cases hsource : source env kwargs "log_level" with
  | none =>
    rw [readField, hmerge, hsource] at hread
    exact ⟨"INFO", rfl, (Except.ok.inj hread).symm.trans (by decide +kernel)⟩
  | some v =>
    have hname : logLevelName v = .ok s.logLevel :=
      (readField_eq_ok_iff (hmerge.trans hsource)).mp hread
    exact logLevelName_eq_ok_iff.mp hname

end Settings

namespace Log

/-- Settings that are accepted, with no log file and the default format of lines. -/
structure ConsoleSettings extends Settings where
  env : Fields
  kwargs : Fields
  accepted : Settings.loadIn env kwargs = .ok toSettings
  no_file : logFile.getD "" = ""
  default_format : logFormat = Settings.defaultLogFormat

namespace ConsoleSettings

/-- The level that settings state: that of debugging if it is on, the standard one of the name, and
that of ordinary messages for any other name but the two that are refused. -/
def level (s : ConsoleSettings) : Result Int :=
  if s.appDebug then .ok 10
  else
    match levelFault? s.logLevel with
    | some e => .error e
    | none => .ok ((standardLevels.lookup s.logLevel).getD 20)

theorem inCapitals_logLevel (s : ConsoleSettings) : Text.inCapitals s.logLevel = true := by
  obtain ⟨t, -, ht⟩ := Settings.logLevel_of_load (Settings.load_of_loadIn s.accepted)
  rw [ht]
  exact Text.inCapitals_upper _

theorem configuredLevel_eq (s : ConsoleSettings) :
    Output.configuredLevel s.toFields = s.level := by
  have hlevel : Output.configuredLevel s.toFields =
      if s.appDebug then .ok 10 else levelOfName s.logLevel :=
    rfl
  rw [hlevel, levelOfName_of_inCapitals s.inCapitals_logLevel]
  rfl

theorem configuredFormat_eq (s : ConsoleSettings) :
    Output.configuredFormat s.toFields = .ok Settings.defaultLogFormat := by
  have hfield : Fields.get s.toFields "log_format" = .text Settings.defaultLogFormat :=
    congrArg Value.text s.default_format
  have hdirective : holdsDirective Settings.defaultLogFormat.toList = true := by decide +kernel
  rw [Output.configuredFormat, hfield]
  change checkFormat Settings.defaultLogFormat = _
  rw [checkFormat, if_neg (by decide), if_pos hdirective]

theorem isTruthy_logFile (s : ConsoleSettings) :
    (Fields.get s.toFields "log_file").isTruthy = false := by
  have hfile : Fields.get s.toFields "log_file" = Settings.optionalValue s.logFile := rfl
  have hempty := s.no_file
  rw [hfile]
  cases hlog : s.logFile with
  | none => rfl
  | some file =>
    rw [hlog] at hempty
    cases hempty
    rfl

end ConsoleSettings

namespace Output

variable {top : Path} {fields : Fields}

/-! ## One set-up -/

theorem run_setUp_error {e : Failure} (h : configuredLevel fields = .error e) (out : Output) :
    (setUp top fields).run.run out = (.error e, out) := by
  rw [setUp, h]
  rfl

/-- The output after a record that is written if it counts. -/
def announced (out : Output) (r : Record) : Output :=
  if out.wants r.logger r.level then out.emit r else out

theorem run_setUp_ok {level : Int} {format : String} (hlevel : configuredLevel fields = .ok level)
    (hformat : configuredFormat fields = .ok format)
    (hfile : (Fields.get fields "log_file").isTruthy = false) (out : Output) :
    (setUp top fields).run.run out = (.ok (), announced
      { out with
        rootLevel := level, clientLevel := 30, handlers := [⟨.console, level, some format⟩] }
      setUpRecord) := by
  simp only [setUp, hlevel, hformat, hfile]
  rfl

/-- What writes a line changes neither the level of the root nor the handlers. -/
theorem writeLine_keeps (out : Output) (line : String) (sink : Sink) :
    (out.writeLine line sink).rootLevel = out.rootLevel ∧
      (out.writeLine line sink).handlers = out.handlers := by
  cases sink <;> exact ⟨rfl, rfl⟩

theorem handle_keeps (r : Record) (out : Output) (h : Handler) :
    (handle r out h).rootLevel = out.rootLevel ∧ (handle r out h).handlers = out.handlers := by
  rw [handle]
  split
  · split
    · exact out.writeLine_keeps _ _
    · exact ⟨rfl, rfl⟩
  · exact ⟨rfl, rfl⟩

theorem emit_keeps (r : Record) (out : Output) :
    (out.emit r).rootLevel = out.rootLevel ∧ (out.emit r).handlers = out.handlers := by
  refine List.foldlRecOn out.handlers (handle r)
    (motive := fun s => s.rootLevel = out.rootLevel ∧ s.handlers = out.handlers)
    ⟨rfl, rfl⟩ fun s hs h _ => ?_
  obtain ⟨hroot, hhandlers⟩ := handle_keeps r s h
  exact ⟨hroot.trans hs.1, hhandlers.trans hs.2⟩

theorem announced_keeps (r : Record) (out : Output) :
    (out.announced r).rootLevel = out.rootLevel ∧ (out.announced r).handlers = out.handlers := by
  rw [announced]
  split
  · exact emit_keeps r out
  · exact ⟨rfl, rfl⟩

/-- The root and one handler, that of the console, have the level. -/
structure Settled (out : Output) (level : Int) : Prop where
  rootLevel : out.rootLevel = level
  handlers : out.handlers = [⟨.console, level, some Settings.defaultLogFormat⟩]

theorem run_setUp_settled (top : Path) {s : ConsoleSettings} {level : Int}
    (h : s.level = .ok level) (out : Output) :
    ∃ after, (setUp top s.toFields).run.run out = (.ok (), after) ∧ after.Settled level := by
  have hlevel : configuredLevel s.toFields = .ok level := s.configuredLevel_eq.trans h
  obtain ⟨hroot, hhandlers⟩ := announced_keeps setUpRecord
    { out with
      rootLevel := level, clientLevel := 30
      handlers := [⟨.console, level, some Settings.defaultLogFormat⟩] }
  exact ⟨_, run_setUp_ok hlevel s.configuredFormat_eq s.isTruthy_logFile out, hroot, hhandlers⟩

theorem run_setUp_refused (top : Path) {s : ConsoleSettings} {e : Failure} (h : s.level = .error e)
    (out : Output) : (setUp top s.toFields).run.run out = (.error e, out) :=
  run_setUp_error (s.configuredLevel_eq.trans h) out

/-! ## Many set-ups -/

/-- The output after the set-ups of a history, whether they fail or not. -/
def setUpAll (top : Path) (history : List ConsoleSettings) (start : Output) : Output :=
  history.foldl (fun out s => ((setUp top s.toFields).run.run out).2) start

/-- The levels of the set-ups that are not refused. -/
def levels (history : List ConsoleSettings) : List Int :=
  history.filterMap fun s => s.level.toOption

theorem setUpAll_concat (top : Path) (history : List ConsoleSettings) (s : ConsoleSettings)
    (start : Output) :
    setUpAll top (history ++ [s]) start =
      ((setUp top s.toFields).run.run (setUpAll top history start)).2 := by
  rw [setUpAll, List.foldl_append, setUpAll]
  rfl

theorem levels_concat (history : List ConsoleSettings) (s : ConsoleSettings) :
    levels (history ++ [s]) = levels history ++ s.level.toOption.toList := by
  rw [levels, List.filterMap_append, ← levels]
  cases hlevel : s.level.toOption <;> simp [hlevel]

/-- After a history the output is as the last set-up left it that was not refused. -/
theorem setUpAll_settled (top : Path) (history : List ConsoleSettings) (start : Output) :
    match (levels history).getLast? with
    | some level => (setUpAll top history start).Settled level
    | none => setUpAll top history start = start := by
  induction history using List.reverseRecOn with
  | nil => rfl
  | append_singleton history s ih =>
    rw [setUpAll_concat, levels_concat]
    cases hlevel : s.level with
    | error e =>
      -- nothing is added to the levels, and nothing changes
      rw [run_setUp_refused top hlevel, Except.toOption, Option.toList_none, List.append_nil]
      exact ih
    | ok level =>
      -- whatever was there before gives way
      obtain ⟨after, hafter, hsettled⟩ := run_setUp_settled top hlevel (setUpAll top history start)
      rw [hafter, Except.toOption, Option.toList_some, List.getLast?_concat]
      exact hsettled

/-- Whatever set-ups there were, one with no log file and the default format puts one handler in the
place of all, that of the console, and gives it and the root the level that the settings state: that
of debugging, the standard level of the name, which is the text for it without blanks around it and
in capitals, or that of ordinary messages. Only where that name belongs to one of two other things
does it fail, and then nothing changes. -/
theorem setUp_settles (top : Path) (history : List ConsoleSettings) (start : Output) :
    (∀ s : ConsoleSettings,
      (∃ t, (Settings.source s.env s.kwargs "log_level").getD (.text "INFO") = .text t ∧
        s.logLevel = Text.upper (Text.trim t)) ∧
      (∀ level, s.level = .ok level →
        ∃ after, (setUp top s.toFields).run.run (setUpAll top history start) = (.ok (), after) ∧
          after.Settled level) ∧
      ∀ e, s.level = .error e →
        (setUp top s.toFields).run.run (setUpAll top history start) =
          (.error e, setUpAll top history start)) ∧
    match (levels history).getLast? with
    | some level => (setUpAll top history start).Settled level
    | none => setUpAll top history start = start :=
  ⟨fun s => ⟨Settings.logLevel_of_load (Settings.load_of_loadIn s.accepted),
      fun _ h => run_setUp_settled top h _, fun _ h => run_setUp_refused top h _⟩,
    setUpAll_settled top history start⟩

end Output

/-- The settings of an application that names a level and leaves all else as it is. -/
def settingsOfLevel (name : String) : Settings where
  appName := "objstore"
  appDebug := false
  appEnv := "development"
  logLevel := name
  logFile := none
  logFormat := Settings.defaultLogFormat
  cosSecretId := ""
  cosSecretKey := ""
  cosBucket := ""
  cosEndpoint := ""
  cosRegion := ""
  cosTimeout := 30
  cosUrlExpires := BucketConfig.defaultUrlExpires
  cosListPageSize := BucketConfig.defaultListPageSize
  cosListMaxObjects := BucketConfig.defaultListMaxObjects
  cosFanoutConcurrency := BucketConfig.defaultFanoutConcurrency

/-- A level in small letters, with blanks around it. -/
def warningSettings : ConsoleSettings where
  toSettings := settingsOfLevel "WARNING"
  env := []
  kwargs := [("log_level", .text " warning\n")]
  accepted := Settings.loadIn_nil_eq_ok_iff.mpr (by decide +kernel)
  no_file := rfl
  default_format := rfl

/-- A name that is no level's. -/
def formatSettings : ConsoleSettings where
  toSettings := settingsOfLevel "BASIC_FORMAT"
  env := []
  kwargs := [("log_level", .text "basic_format")]
  accepted := Settings.loadIn_nil_eq_ok_iff.mpr (by decide +kernel)
  no_file := rfl
  default_format := rfl

namespace Output

theorem setUp_settles_warning :
    let out := setUpAll ⟨"/", []⟩ [formatSettings, warningSettings, formatSettings]
      { handlers := [.null, .null] }
    out.Settled 30 ∧
    (∃ after, (setUp ⟨"/", []⟩ warningSettings.toFields).run.run out = (.ok (), after) ∧
      after.Settled 30) ∧
    ∃ e, (setUp ⟨"/", []⟩ formatSettings.toFields).run.run out = (.error e, out) := by
  intro out
  obtain ⟨hstep, hrun⟩ := setUp_settles ⟨"/", []⟩
    [formatSettings, warningSettings, formatSettings] { handlers := [.null, .null] }
  exact ⟨hrun, (hstep warningSettings).2.1 30 rfl, _, (hstep formatSettings).2.2 _ rfl⟩

/-- The name is unknown among the levels, but it does not stand for that of ordinary messages. -/
theorem setUp_basicFormat :
    formatSettings.appDebug = false ∧ standardLevels.lookup formatSettings.logLevel = none ∧
    (setUp ⟨"/", []⟩ formatSettings.toFields).run.run {} =
      (.error (.invalidValue "Unknown level: '%(levelname)s:%(name)s:%(message)s'"), {}) :=
  ⟨rfl, rfl, run_setUp_refused _ rfl _⟩

end Output

end Log

end BucketStore
