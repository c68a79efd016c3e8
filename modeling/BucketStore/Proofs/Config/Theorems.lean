import BucketStore.Proofs.Config.Lemmas.Records
import BucketStore.Proofs.Registry.Theorems

/-!
# From settings to the configuration of a bucket

Settings that are accepted always make a configuration, and it holds what they hold. The numbers
that bound a listing are checked twice, by the settings and by the configuration, and the two checks
accept the same values.
-/

namespace BucketStore

open BucketStore.Config

/-- The configuration that holds what the settings hold. -/
def Settings.bucketConfig (s : Settings) : BucketConfig where
  secretId := s.cosSecretId
  secretKey := s.cosSecretKey
  bucket := s.cosBucket
  endpoint := s.cosEndpoint
  region := s.cosRegion
  timeout := s.cosTimeout
  urlExpires := s.cosUrlExpires
  listPageSize := s.cosListPageSize
  listMaxObjects := s.cosListMaxObjects
  fanoutConcurrency := s.cosFanoutConcurrency

/-- One of the positive numbers that bound a listing. -/
inductive ListBound where
  | pageSize
  | maxObjects
  | concurrency
deriving DecidableEq, Repr

namespace ListBound

/-- Its name among the settings. -/
def setting : ListBound → String
  | .pageSize => "cos_list_page_size"
  | .maxObjects => "cos_list_max_objects"
  | .concurrency => "cos_fanout_concurrency"

/-- Its name among the fields of a bucket's configuration. -/
def field : ListBound → String
  | .pageSize => "list_page_size"
  | .maxObjects => "list_max_objects"
  | .concurrency => "fanout_concurrency"

def default : ListBound → Positive
  | .pageSize => BucketConfig.defaultListPageSize
  | .maxObjects => BucketConfig.defaultListMaxObjects
  | .concurrency => BucketConfig.defaultFanoutConcurrency

def ofSettings (s : Settings) : ListBound → Positive
  | .pageSize => s.cosListPageSize
  | .maxObjects => s.cosListMaxObjects
  | .concurrency => s.cosFanoutConcurrency

def ofConfig (c : BucketConfig) : ListBound → Positive
  | .pageSize => c.listPageSize
  | .maxObjects => c.listMaxObjects
  | .concurrency => c.fanoutConcurrency

variable {b : ListBound} {fields env kwargs : Fields} {v : Value}

theorem setting_mem_names (b : ListBound) : b.setting ∈ Settings.names := by
  cases b <;> decide

theorem lower_setting (b : ListBound) : Text.lower b.setting = b.setting := by
  cases b <;> rfl

/-! ## In the settings -/

theorem refuses_settings_iff :
    Refuses (Settings.ofFields fields) b.setting ↔
      ∃ v cause, Fields.get? fields b.setting = some v ∧ positive .notPositive v = .error cause := by
  cases b <;>
  simp [Settings.ofFields, refuses_take, refuses_ok, readField_blames_iff, setting]

theorem readField_ofSettings {s : Settings} (h : Settings.ofFields fields = .ok s) :
    readField fields (positive .notPositive) b.setting b.default = .ok (b.ofSettings s) := by
  have htake : ∃ s', Settings.ofFields fields = .ok s' ∧ s' = s := ⟨s, h, rfl⟩
  simp only [Settings.ofFields, exists_take_iff] at htake
  -- the three bounds are the last fields, and the thirteen before them do not matter
  obtain ⟨_, hconcurrency, _, hmax, _, hpage, _, -, _, -, _, -, _, -, _, -, _, -, _, -, _, -, _, -,
    _, -, _, -, _, -, _, -, _, hmk, rfl⟩ := htake
  cases hmk
  cases b with
  | pageSize => exact hpage
  | maxObjects => exact hmax
  | concurrency => exact hconcurrency

theorem settings_alone_iff {p : Positive} :
    (∃ s, Settings.ofFields [(b.setting, v)] = .ok s ∧ b.ofSettings s = p) ↔
      positive .notPositive v = .ok p := by
  cases hv : positive .notPositive v <;> cases b <;>
  simp [Settings.ofFields, exists_take_iff, readField, Fields.get?, List.lookup_cons, setting,
    ofSettings, hv]

theorem source_alone (name : String) :
    Settings.source [] [(b.setting, v)] name = if b.setting = name then some v else none := by
  by_cases h : b.setting = name
  · subst h
    simp [Settings.source, Settings.firstOf, lower_setting]
  · simp [Settings.source, Settings.lastOf, Settings.firstOf, lower_setting, h]

theorem merge_alone : Settings.merge [] [(b.setting, v)] = [(b.setting, v)] := by
  simp only [Settings.merge, source_alone]
  cases b <;> simp [Settings.names, setting]

/-! ## In the configuration -/

theorem refuses_config_iff :
    Refuses (BucketConfig.ofFields fields) b.field ↔
      ∃ v cause, Fields.get? fields b.field = some v ∧ positive .greaterThan v = .error cause := by
  cases b <;>
  simp [BucketConfig.ofFields, refuses_take, refuses_ok, readField_blames_iff, field]

theorem readField_ofConfig {c : BucketConfig} (h : BucketConfig.ofFields fields = .ok c) :
    readField fields (positive .greaterThan) b.field b.default = .ok (b.ofConfig c) := by
  have htake : ∃ c', BucketConfig.ofFields fields = .ok c' ∧ c' = c := ⟨c, h, rfl⟩
  simp only [BucketConfig.ofFields, exists_take_iff] at htake
  obtain ⟨_, hconcurrency, _, hmax, _, hpage, _, -, _, -, _, -, _, -, _, -, _, -, _, -, _, hmk,
    rfl⟩ := htake
  cases hmk
  cases b with
  | pageSize => exact hpage
  | maxObjects => exact hmax
  | concurrency => exact hconcurrency

theorem config_alone_iff {p : Positive} :
    (∃ c, BucketConfig.ofFields [(b.field, v)] = .ok c ∧ b.ofConfig c = p) ↔
      positive .greaterThan v = .ok p := by
  cases hv : positive .greaterThan v <;> cases b <;>
  simp [BucketConfig.ofFields, exists_take_iff, readField, Fields.get?, List.lookup_cons, field,
    ofConfig, hv]

end ListBound

theorem BucketConfig.ofSettings_toFields (s : Settings) :
    ofSettings s.toFields = .ok s.bucketConfig := by
  have hread (p : Positive) : positive .greaterThan (.int p.val) = .ok p :=
    positive_eq_ok_iff.mpr rfl
  simp [ofSettings, Settings.bucketFields, Settings.toFields, ofFields, readField, Fields.get?,
    Fields.get, List.lookup_cons, text, int, hread, take, Settings.bucketConfig]

/-- The two checks of a bound refuse the same values. -/
theorem ListBound.refuses_iff {b : ListBound} {env kwargs fields : Fields} {v : Value}
    (hsource : Settings.source env kwargs b.setting = some v)
    (hfield : Fields.get? fields b.field = some v) :
    Refuses (Settings.load env kwargs) b.setting ↔ Refuses (BucketConfig.ofFields fields) b.field := by
  have hmerge : Fields.get? (Settings.merge env kwargs) b.setting = some v := by
    rw [Settings.get?_merge b.setting_mem_names, hsource]
  rw [Settings.load, refuses_settings_iff, refuses_config_iff, hmerge, hfield]
  simp only [Option.some.injEq, exists_and_left, exists_eq_left']
  rw [positive_eq_error_iff, positive_eq_error_iff]

/-- The two checks of a bound read a value as the same number. -/
theorem ListBound.ofSettings_eq_ofConfig {b : ListBound} {env kwargs fields : Fields} {v : Value}
    {s : Settings} {c : BucketConfig} (hsource : Settings.source env kwargs b.setting = some v)
    (hfield : Fields.get? fields b.field = some v) (hs : Settings.load env kwargs = .ok s)
    (hc : BucketConfig.ofFields fields = .ok c) : b.ofSettings s = b.ofConfig c := by
  have hmerge : Fields.get? (Settings.merge env kwargs) b.setting = some v := by
    rw [Settings.get?_merge b.setting_mem_names, hsource]
  have hsetting := positive_eq_ok_iff.mp ((readField_eq_ok_iff hmerge).mp (readField_ofSettings hs))
  have hconfig := positive_eq_ok_iff.mp ((readField_eq_ok_iff hfield).mp (readField_ofConfig hc))
  exact Positive.ext (Except.ok.inj (hsetting.symm.trans hconfig))

/-- Settings that are accepted make a configuration that holds what they hold, and it is complete
just if the credentials and the bucket are set and one of the host and the region. A bound of a
listing is accepted as a setting just if it is accepted as a field of a configuration, alone or
among other fields, and it is the same number in both. -/
theorem Settings.configures (env kwargs : Fields) :
    (∀ s, loadIn env kwargs = .ok s →
      Adapter.configOf s.toFields = .ok s.bucketConfig ∧
      (s.bucketConfig.isComplete = true ↔
        s.isCosEnabled = true ∧ (s.cosEndpoint ≠ "" ∨ s.cosRegion ≠ ""))) ∧
    ∀ (b : ListBound) (v : Value),
      (∀ p, (∃ s, loadIn [] [(b.setting, v)] = .ok s ∧ b.ofSettings s = p) ↔
        ∃ c, BucketConfig.ofFields [(b.field, v)] = .ok c ∧ b.ofConfig c = p) ∧
      ∀ fields, source env kwargs b.setting = some v → Fields.get? fields b.field = some v →
        (Refuses (load env kwargs) b.setting ↔ Refuses (BucketConfig.ofFields fields) b.field) ∧
        ∀ s c, loadIn env kwargs = .ok s → BucketConfig.ofFields fields = .ok c →
          b.ofSettings s = b.ofConfig c := by
  refine ⟨fun s _ => ⟨?carried, ?complete⟩, fun b v => ⟨fun p => ?alone, ?among⟩⟩
  case carried =>
    rw [Adapter.configOf, BucketConfig.ofSettings_toFields]
    rfl
  case complete =>
    rw [BucketConfig.isComplete_iff]
    simp [isCosEnabled, bucketConfig, and_assoc]
  case alone =>
    simp only [loadIn_nil_eq_ok_iff, load, b.merge_alone]
    rw [b.settings_alone_iff, b.config_alone_iff, positive_eq_ok_iff, positive_eq_ok_iff]
  case among =>
    intro fields hsource hfield
    refine ⟨ListBound.refuses_iff hsource hfield, fun s c hs hc => ?_⟩
    exact ListBound.ofSettings_eq_ofConfig hsource hfield (load_of_loadIn hs) hc

/-- Variables in capitals, one of them a number with blanks, a sign, a zero and a fraction. -/
def Settings.paddedVariables : Fields :=
  [("COS_SECRET_ID", .text "id"), ("COS_SECRET_KEY", .text "key"), ("COS_BUCKET", .text "demo"),
    ("COS_REGION", .text "ap-beijing"), ("COS_LIST_PAGE_SIZE", .text " +0_7.0 ")]

/-- The settings that the variables make, beside an argument that is a truth value. -/
def Settings.padded : Settings where
  appName := "objstore"
  appDebug := false
  appEnv := "development"
  logLevel := "INFO"
  logFile := none
  logFormat := defaultLogFormat
  cosSecretId := "id"
  cosSecretKey := "key"
  cosBucket := "demo"
  cosEndpoint := ""
  cosRegion := "ap-beijing"
  cosTimeout := 30
  cosUrlExpires := BucketConfig.defaultUrlExpires
  cosListPageSize := ⟨7, by decide⟩
  cosListMaxObjects := BucketConfig.defaultListMaxObjects
  cosFanoutConcurrency := ⟨1, Int.zero_lt_one⟩

theorem Settings.loadIn_paddedVariables :
    loadIn paddedVariables [("cos_fanout_concurrency", .bool true)] = .ok padded := by
  have hload : load paddedVariables [("cos_fanout_concurrency", .bool true)] = .ok padded := by
    decide +kernel
  have hsound : paddedVariables.findSome? (fun field => variableFault? field.1 field.2) = none := by
    simp [paddedVariables, variableFault?]
  rw [loadIn, hsound, hload]
  rfl

theorem Settings.configures_padded :
    Adapter.configOf padded.toFields = .ok padded.bucketConfig ∧
    padded.bucketConfig.isComplete = true ∧
    ∃ c, BucketConfig.ofFields [("list_page_size", .text " +0_7.0 ")] = .ok c ∧
      padded.cosListPageSize = c.listPageSize := by
  have h := configures paddedVariables [("cos_fanout_concurrency", .bool true)]
  obtain ⟨hconfig, hcomplete⟩ := h.1 padded loadIn_paddedVariables
  obtain ⟨-, hamong⟩ := h.2 .pageSize (.text " +0_7.0 ")
  obtain ⟨c, hc, -⟩ := (ListBound.config_alone_iff (b := .pageSize)).mpr
    (show positive .greaterThan (.text " +0_7.0 ") = .ok ⟨7, by decide⟩ by decide +kernel)
  have hequal := (hamong _ rfl rfl).2 padded c loadIn_paddedVariables hc
  exact ⟨hconfig, hcomplete.mpr ⟨rfl, .inr (by decide)⟩, c, hc, hequal⟩

end BucketStore
