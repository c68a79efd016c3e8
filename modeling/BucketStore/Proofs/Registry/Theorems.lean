import BucketStore.Proofs.Endpoint.Lemmas.Missing
import BucketStore.Proofs.Store.Lemmas.Fails
import BucketStore.Registry

/-!
# Complete configurations

A configuration is complete just if its credentials are there and resolving its endpoint finds no
part missing, unless its host is white space and there is no region: then it counts as complete, but
no store can be made of it.
-/

namespace BucketStore

open BucketStore.Action BucketStore.Endpoint

/-- The configured host is white space, and no region stands in for it. -/
def BucketConfig.HostIsBlank (c : BucketConfig) : Prop :=
  c.endpoint ≠ "" ∧ Text.trim c.endpoint = "" ∧ c.region = ""

/-- The failure says that the bucket, or the host and the region, are missing. -/
def Failure.SaysMissing (f : Failure) : Prop :=
  ∃ e : ResolveError, e.IsMissing ∧ f = e.toFailure

theorem BucketConfig.isComplete_iff (c : BucketConfig) :
    c.isComplete = true ↔
      c.secretId ≠ "" ∧ c.secretKey ≠ "" ∧ c.bucket ≠ "" ∧ (c.endpoint ≠ "" ∨ c.region ≠ "") := by
  simp [isComplete, and_assoc]

theorem BucketConfig.resolve_isMissing_iff_hostIsBlank {c : BucketConfig}
    (h : c.isComplete = true) :
    (∃ e, resolve c.bucket c.endpoint c.region = .error e ∧ e.IsMissing) ↔ c.HostIsBlank := by
  obtain ⟨-, -, hbucket, hhost⟩ := c.isComplete_iff.mp h
  rw [resolve_isMissing_iff]
  constructor
  · rintro (hempty | ⟨hblank, hregion⟩)
    · exact absurd hempty hbucket
    · exact ⟨hhost.resolve_right fun h => h hregion, hblank, hregion⟩
  · exact fun hblank => .inr hblank.2

/-! ## Making a store -/

theorem Failure.SaysMissing.isConfiguration {f : Failure} (h : f.SaysMissing) :
    f.isConfiguration = true := by
  obtain ⟨e, -, rfl⟩ := h
  rfl

theorem Failure.not_saysMissing {f : Failure} (h : f.isConfiguration = false) :
    ¬ f.SaysMissing := by
  intro hmissing
  rw [hmissing.isConfiguration] at h
  cases h

/-- What is wrong with a connection is never a part that is missing of the endpoint. -/
theorem Connection.not_saysMissing {c : BucketConfig} {endpoint : Endpoint} {f : Failure}
    {refusal? : Connection → Option String}
    (h : (Connection.build refusal? c endpoint).mapError Failure.storage = .error f) :
    ¬ f.SaysMissing := by
  rintro ⟨e, hmissing, rfl⟩
  simp only [Connection.build] at h
  split at h
  · cases h
  · rename_i text _
    have htext : "创建COS客户端失败: " ++ text = e.message := by
      injection h with h
      injection h with h
      injection h with _ h _ _
      injection h
    have hhead : e.message.toList.head? = some '创' := by
      rw [← htext]
      exact ResolveError.head?_toList_append (by decide) _
    rcases hmissing with hmissing | hmissing
    · rw [hmissing] at hhead
      exact absurd hhead (by decide)
    · rw [hmissing] at hhead
      exact absurd hhead (by decide)

namespace Adapter

variable {σ : Type} {service : Service σ} {debug : Bool} {settings : Fields} {c : BucketConfig}

theorem remote_make_none (h : configOf settings = .ok c) :
    (remote service settings debug).make none = (do
      let s ← Action.ofResult (Store.make service debug c)
      let _ ← Action.ofResult ((Connection.build service.refusal? c s.endpoint).mapError .storage)
      s.ensureBucket
      return ⟨.text Store.backendName, .text s.bucket, .text s.endpoint.bucketUrl⟩) := by
  simp only [remote, h]
  rfl

theorem remote_make_missing {e : ResolveError} (hconfig : configOf settings = .ok c)
    (h : resolve c.bucket c.endpoint c.region = .error e) (session : Session σ) :
    ((remote service settings debug).make none).eval session = (.error e.toFailure, session) := by
  have hmake : Store.make service debug c = .error e.toFailure := by
    rw [Store.make, h]
    rfl
  rw [remote_make_none hconfig]
  refine eval_bind_error ?_ _
  rw [eval_ofResult, hmake]

theorem remote_make_failsWith (hconfig : configOf settings = .ok c)
    (h : ¬ ∃ e, resolve c.bucket c.endpoint c.region = .error e ∧ e.IsMissing) :
    FailsWith (fun f => ¬ f.SaysMissing) ((remote service settings debug).make none) := by
  rw [remote_make_none hconfig]
  refine (FailsWith.ofResult fun f hf => ?make).bind fun s => ?_
  case make =>
    rw [Store.make] at hf
    split at hf
    · cases hf
    · rename_i e' he'
      cases hf
      rintro ⟨e, hmissing, heq⟩
      refine h ⟨e', he', ?_⟩
      rw [ResolveError.IsMissing, ResolveError.message_of_toFailure heq]
      exact hmissing
  refine (FailsWith.ofResult fun _ => Connection.not_saysMissing).bind fun _ => ?_
  refine FailsWith.bind ?_ fun _ => .pure _
  exact fun session e he => Failure.not_saysMissing (s.ensureBucket_failsWith session e he)

end Adapter

namespace Adapters

variable {σ : Type} {adapters : Adapters σ} {adapter : Adapter σ} {settings : Fields}
  {c : BucketConfig}

/-- Without a name, complete settings mean the adapter of the remote service. -/
theorem storage_of_isComplete (hconfig : Adapter.configOf settings = .ok c)
    (hcomplete : c.isComplete = true) :
    adapters.storage settings .null = adapters.create (.text Store.backendName) none := by
  simp only [storage, hconfig]
  change (if c.isComplete = true then _ else _) = _
  rw [if_pos hcomplete]

/-- Without a name, complete settings have the store made by the adapter of the remote service. -/
theorem storage_eq (hconfig : Adapter.configOf settings = .ok c) (hcomplete : c.isComplete = true)
    (hadapter : Registry.get? adapters (.text Store.backendName) = some (some adapter)) :
    adapters.storage settings .null = tryCatch (adapter.make none)
      (Store.passOn Adapter.loggerName .adapterCreateFailed
        [("adapter", .text Store.backendName)]) := by
  have hfind : adapters.find (.text Store.backendName) = .ok adapter := by
    rw [find, hadapter]
    rfl
  rw [storage_of_isComplete hconfig hcomplete, create, hfind]
  rfl

end Adapters

/-- A configuration is complete just if its credentials are there and resolving its endpoint finds
no part missing, unless all but its host is there and the host is blank. So a store of complete
settings fails for a missing part just if its host is blank. -/
theorem isComplete_iff_resolves (c : BucketConfig) :
    ((c.isComplete = true ↔ c.secretId ≠ "" ∧ c.secretKey ≠ "" ∧
        ¬ ∃ e, resolve c.bucket c.endpoint c.region = .error e ∧ e.IsMissing) ↔
      ¬ (c.secretId ≠ "" ∧ c.secretKey ≠ "" ∧ c.bucket ≠ "" ∧ c.HostIsBlank)) ∧
    ∀ {σ : Type} (service : Service σ) (debug : Bool) (settings : Fields) (adapters : Adapters σ)
      (session : Session σ), Adapter.configOf settings = .ok c →
      Registry.get? adapters (.text Store.backendName) =
        some (some (.remote service settings debug)) →
      c.isComplete = true →
      ((∃ f, ((adapters.storage settings .null).eval session).1 = .error f ∧ f.SaysMissing) ↔
        c.HostIsBlank) := by
  constructor
  · have hempty : c.endpoint = "" → Text.trim c.endpoint = "" := by
      intro h
      rw [h]
      rfl
    rw [resolve_isMissing_iff, c.isComplete_iff, BucketConfig.HostIsBlank]
    grind
  · intro σ service debug settings adapters session hconfig hadapter hcomplete
    rw [Adapters.storage_eq hconfig hcomplete hadapter,
      ← BucketConfig.resolve_isMissing_iff_hostIsBlank hcomplete]
    constructor
    · rintro ⟨f, hf, hmissing⟩
      refine Classical.byContradiction fun hnone => ?_
      have hmake : FailsWith (fun f => ¬ f.SaysMissing)
          ((Adapter.remote service settings debug).make none) :=
        Adapter.remote_make_failsWith hconfig hnone
      have hstorage : FailsWith (fun f => ¬ f.SaysMissing)
          (tryCatch ((Adapter.remote service settings debug).make none)
            (Store.passOn Adapter.loggerName .adapterCreateFailed
              [("adapter", .text Store.backendName)])) :=
        hmake.tryCatch fun e he => Store.passOn_failsWith he (fun _ hmisreading =>
          Failure.not_saysMissing (Failure.IsForeseen.misreading hmisreading).isConfiguration) _ _ _
      exact hstorage session f hf hmissing
    · rintro ⟨e, he, hmissing⟩
      obtain ⟨logged, hpassed⟩ := Store.eval_passOn (fun _ => e.text_toFailure) Adapter.loggerName
        .adapterCreateFailed [("adapter", .text Store.backendName)] session
      refine ⟨e.toFailure, ?_, e, hmissing, rfl⟩
      rw [eval_tryCatch, Adapter.remote_make_missing hconfig he]
      exact congrArg Prod.fst hpassed

/-- A configuration with a space for a host and no region. -/
def blankHost : BucketConfig where
  secretId := "id"
  secretKey := "key"
  bucket := "b"
  endpoint := " "
  region := ""
  timeout := 30
  urlExpires := BucketConfig.defaultUrlExpires
  listPageSize := BucketConfig.defaultListPageSize
  listMaxObjects := BucketConfig.defaultListMaxObjects
  fanoutConcurrency := BucketConfig.defaultFanoutConcurrency

theorem isComplete_blankHost :
    blankHost.isComplete = true ∧
    resolve blankHost.bucket blankHost.endpoint blankHost.region = .error .noEndpoint ∧
    ResolveError.noEndpoint.message = "cos endpoint is empty and region is missing" :=
  ⟨rfl, rfl, rfl⟩

/-- The settings of that configuration. -/
def blankSettings : Fields :=
  Fields.setAll Settings.defaultFields [("cos_secret_id", .text "id"),
    ("cos_secret_key", .text "key"), ("cos_bucket", .text "b"), ("cos_endpoint", .text " ")]

/-- The registry with the adapter of a service that answers nothing. -/
def silentAdapters : Adapters Unit :=
  [(.text Store.backendName,
    some (.remote { client := fun _ state => (.ok (.value .null), state) } blankSettings false))]

theorem storage_blankHost :
    Adapter.configOf blankSettings = .ok blankHost ∧ blankHost.HostIsBlank ∧
    ∃ f, ((silentAdapters.storage blankSettings .null).eval { state := () }).1 = .error f ∧
      f.SaysMissing := by
  have hconfig : Adapter.configOf blankSettings = .ok blankHost := rfl
  have hblank : blankHost.HostIsBlank := ⟨by decide, by decide, rfl⟩
  exact ⟨hconfig, hblank, ((isComplete_iff_resolves blankHost).2 _ false blankSettings
    silentAdapters _ hconfig rfl rfl).mpr hblank⟩

end BucketStore
