import BucketStore.Proofs.Registry.Theorems

/-!
# Histories of the registry

Requests come one after the other, and those that fail leave no trace. After any of them the names
are those that were registered, each once and in the order of their first registrations, and a name
stands for the adapter that it was registered with last. A request for a name that was never
registered makes nothing, and a storage error of an adapter is logged once and let through.
-/

namespace BucketStore

open BucketStore.Action

/-! ## Registering texts -/

namespace Registry

variable {α : Type} {r : Registry α} {names : List String}

/-- A known name keeps its place, and a new one goes to the end. -/
theorem names_register (h : r.names = names.map .text) (name : String) (a : α) :
    (r.register (.text name) a).names =
      (if name ∈ names then names else names ++ [name]).map .text := by
  induction r generalizing names with
  | nil =>
    cases names with
    | nil => rfl
    | cons => cases h
  | cons entry r ih =>
    obtain ⟨known, b⟩ := entry
    cases names with
    | nil => cases h
    | cons first names =>
      obtain ⟨rfl, hrest⟩ := List.cons.inj h
      rw [register, Value.sameKey_text]
      by_cases hsame : first = name
      · rw [if_pos (decide_eq_true hsame), if_pos (List.mem_cons.mpr (.inl hsame.symm))]
        exact congrArg _ hrest
      · rw [if_neg (by simpa using hsame)]
        change _ :: (register (.text name) a r).names = _
        rw [ih hrest]
        by_cases hmem : name ∈ names
        · rw [if_pos hmem, if_pos (List.mem_cons_of_mem _ hmem)]
          rfl
        · rw [if_neg hmem, if_neg (List.not_mem_cons_of_ne_of_not_mem (Ne.symm hsame) hmem)]
          rfl

/-- What was registered last stands for its name, and every other name for what it did before. -/
theorem get?_register (h : r.names = names.map .text) (name other : String) (a : α) :
    (r.register (.text name) a).get? (.text other) =
      if name = other then some a else r.get? (.text other) := by
  induction r generalizing names with
  | nil => by_cases hsame : name = other <;> simp [register, get?, Value.sameKey_text, hsame]
  | cons entry r ih =>
    obtain ⟨known, b⟩ := entry
    cases names with
    | nil => cases h
    | cons first names =>
      obtain ⟨rfl, hrest⟩ := List.cons.inj h
      have ih := ih hrest
      rw [get?, get?] at ih
      rw [register, get?, get?, Value.sameKey_text]
      by_cases hknown : first = name
      · subst hknown
        by_cases hsame : first = other <;> simp [Value.sameKey_text, hsame]
      · by_cases hother : first = other
        · subst hother
          simp [Value.sameKey_text, hknown, Ne.symm hknown]
        · simp [Value.sameKey_text, hknown, hother, ih]

theorem get?_eq_none (h : r.names = names.map .text) {name : String} (hnew : name ∉ names) :
    r.get? (.text name) = none := by
  rw [get?, Option.map_eq_none_iff, List.find?_eq_none]
  intro entry hentry hsame
  have hname : entry.1 ∈ names.map Value.text := h ▸ List.mem_map_of_mem hentry
  obtain ⟨known, hknown, heq⟩ := List.mem_map.mp hname
  rw [← heq, Value.sameKey_text, decide_eq_true_eq] at hsame
  exact hnew (hsame ▸ hknown)

end Registry

namespace Adapters

variable {σ : Type} {adapters : Adapters σ} {names : List String}

/-! ## Requests -/

/-- A request to the registry. A store may be asked for under the settings of that time, by the
name of an adapter or without one. -/
inductive Request (σ : Type) where
  | register (name : String) (adapter? : Option (Adapter σ))
  | find (name : String)
  | list
  | create (name : String) (config? : Option BucketConfig)
  | storage (settings : Fields) (name? : Option String)

inductive Reply (σ : Type) where
  | done
  | adapter (a : Adapter σ)
  | names (ns : List Value)
  | opened (o : Opened)

namespace Request

/-- Does what is requested, and says which adapters are registered then. -/
def perform (adapters : Adapters σ) : Request σ → Action σ (Reply σ × Adapters σ)
  | .register name adapter? => return (.done, ← adapters.register (.text name) adapter?)
  | .find name => return (.adapter (← Action.ofResult (adapters.find (.text name))), adapters)
  | .list => return (.names adapters.names, adapters)
  | .create name config? => return (.opened (← adapters.create (.text name) config?), adapters)
  | .storage settings name? =>
    return (.opened (← adapters.storage settings (name?.elim .null .text)), adapters)

/-- What a request registers, and under which name. -/
def registration? : Request σ → Option (String × Option (Adapter σ))
  | .register name adapter? => some (name, adapter?)
  | _ => none

/-- The adapter that a request has make a store, by name, and the configuration for it. Without a
name it is that of the remote service, if the settings configure it. -/
inductive Makes : Request σ → String → Option BucketConfig → Prop
  | create {name : String} {config? : Option BucketConfig} :
      Makes (.create name config?) name config?
  | named {settings : Fields} {name : String} : Makes (.storage settings (some name)) name none
  | configured {settings : Fields} {c : BucketConfig} :
      Adapter.configOf settings = .ok c → c.isComplete = true →
      Makes (.storage settings none) Store.backendName none

theorem Makes.perform_eq {request : Request σ} {name : String} {config? : Option BucketConfig}
    (h : request.Makes name config?) :
    request.perform adapters = do
      return (.opened (← adapters.create (.text name) config?), adapters) := by
  cases h with
  | create => rfl
  | named => rfl
  | configured hconfig hcomplete =>
    rw [perform, Option.elim_none, storage_of_isComplete hconfig hcomplete]

end Request

/-! ## Runs -/

/-- The registered adapters, in a session. -/
structure State (σ : Type) where
  adapters : Adapters σ
  session : Session σ

namespace State

/-- The answer to a request and the state after it; a request that fails registers nothing. -/
def step (state : State σ) (request : Request σ) : Result (Reply σ) × State σ :=
  match (request.perform state.adapters).eval state.session with
  | (.ok (reply, adapters), session) => (.ok reply, ⟨adapters, session⟩)
  | (.error e, session) => (.error e, ⟨state.adapters, session⟩)

def run (state : State σ) (requests : List (Request σ)) : State σ :=
  requests.foldl (fun state request => (state.step request).2) state

theorem run_concat (state : State σ) (requests : List (Request σ)) (request : Request σ) :
    state.run (requests ++ [request]) = ((state.run requests).step request).2 := by
  rw [run, List.foldl_concat, run]

/-- A request that registers nothing is answered with the outcome of an action. -/
theorem step_of_perform {α : Type} (state : State σ) {request : Request σ} {action : Action σ α}
    {reply : α → Reply σ}
    (h : request.perform state.adapters = do return (reply (← action), state.adapters)) :
    state.step request =
      ((action.eval state.session).1.map reply,
        ⟨state.adapters, (action.eval state.session).2⟩) := by
  rw [step, h, eval_bind]
  cases action.eval state.session with
  | mk outcome later => cases outcome <;> rfl

theorem step_find (state : State σ) (name : String) :
    state.step (.find name) =
      ((state.adapters.find (.text name)).map Reply.adapter, state) := by
  have hperform : (Request.find name).perform state.adapters = do
      return (Reply.adapter (← Action.ofResult (state.adapters.find (.text name))),
        state.adapters) :=
    rfl
  rw [state.step_of_perform hperform, eval_ofResult]

theorem step_of_makes (state : State σ) {request : Request σ} {name : String}
    {config? : Option BucketConfig} (h : request.Makes name config?) :
    state.step request =
      (((state.adapters.create (.text name) config?).eval state.session).1.map Reply.opened,
        ⟨state.adapters,
          ((state.adapters.create (.text name) config?).eval state.session).2⟩) :=
  state.step_of_perform h.perform_eq

/-- What one step does to the registry: a registration is entered, and nothing else changes it. -/
theorem adapters_step (state : State σ) (request : Request σ) :
    (state.step request).2.adapters =
      match request.registration? with
      | some (name, adapter?) => Registry.register (.text name) adapter? state.adapters
      | none => state.adapters := by
  cases request with
  | register name adapter? => rfl
  | find name => rw [step_find]; rfl
  | list => rfl
  | create name config? => rw [state.step_of_makes .create]; rfl
  | storage settings name? =>
    have hperform : (Request.storage settings name?).perform state.adapters = do
        return (Reply.opened (← state.adapters.storage settings (name?.elim .null .text)),
          state.adapters) :=
      rfl
    rw [state.step_of_perform hperform]
    rfl

end State

/-- The names that requests register, each as often as they do. -/
def registeredNames (requests : List (Request σ)) : List String :=
  requests.filterMap fun request => request.registration?.map Prod.fst

theorem registeredNames_concat (requests : List (Request σ)) (request : Request σ) :
    registeredNames (requests ++ [request]) =
      registeredNames requests ++ (request.registration?.map Prod.fst).toList := by
  rw [registeredNames, List.filterMap_append, ← registeredNames]
  cases hrequest : request.registration? <;> simp [hrequest]

namespace State

/-- The state after requests in a session in which nothing was registered. -/
def after (requests : List (Request σ)) (start : Session σ) : State σ :=
  run ⟨[], start⟩ requests

variable (requests : List (Request σ)) (start : Session σ)

theorem adapters_after_concat (request : Request σ) :
    (after (requests ++ [request]) start).adapters =
      match request.registration? with
      | some (name, adapter?) =>
        Registry.register (.text name) adapter? (after requests start).adapters
      | none => (after requests start).adapters := by
  rw [after, run_concat, adapters_step]
  rfl

/-- The names are those that were registered, in the order of their first registrations. -/
theorem names_after :
    (after requests start).adapters.names =
      (registeredNames requests).eraseDups.map .text := by
  induction requests using List.reverseRecOn with
  | nil => rfl
  | append_singleton requests request ih =>
    rw [adapters_after_concat, registeredNames_concat]
    cases request.registration? with
    | none => simpa using ih
    | some registration =>
      obtain ⟨name, adapter?⟩ := registration
      change (Registry.register (.text name) adapter? (after requests start).adapters).names =
        (registeredNames requests ++ [name]).eraseDups.map .text
      rw [Registry.names_register ih, List.eraseDups_append]
      -- a name that is known is erased where it comes again, as it keeps its place in the registry
      by_cases hknown : name ∈ registeredNames requests
      · simp [List.removeAll, hknown]
      · simp [List.removeAll, hknown, List.eraseDups_cons]

/-- A name stands for what it was registered with last. -/
theorem get?_after_register (before later : List (Request σ)) (name : String)
    (adapter? : Option (Adapter σ)) (hlast : name ∉ registeredNames later) :
    Registry.get? (after (before ++ .register name adapter? :: later) start).adapters
      (.text name) = some adapter? := by
  -- on what comes later: the registry has the registration last entered, then is left alone
  induction later using List.reverseRecOn with
  | nil =>
    rw [adapters_after_concat]
    change Registry.get? (Registry.register (.text name) adapter? _) _ = _
    rw [Registry.get?_register (names_after _ _), if_pos rfl]
  | append_singleton later request ih =>
    rw [registeredNames_concat, List.mem_append, not_or] at hlast
    rw [← List.cons_append, ← List.append_assoc, adapters_after_concat]
    cases hrequest : request.registration? with
    | none => exact ih hlast.1
    | some registration =>
      obtain ⟨other, other?⟩ := registration
      have hother : other ≠ name := by
        rintro rfl
        exact hlast.2 (by simp [hrequest])
      change Registry.get? (Registry.register (.text other) other? _) _ = _
      rw [Registry.get?_register (names_after _ _), if_neg hother, ih hlast.1]

end State

/-! ## Finding adapters and making stores -/

/-- The failure of a name without an adapter, among these names. -/
def unknown (name : String) (names : List String) : Failure :=
  .storage (.configuration
    (.text ("存储适配器 '" ++ name ++ "' 不存在，可用适配器: " ++ ", ".intercalate names)) .null)

theorem missing_text (h : adapters.names = names.map .text) (name : String) :
    adapters.missing (.text name) = unknown name names := by
  have hlisted : ∀ names : List String, (names.map Value.text).mapM listedName = .ok names := by
    intro names
    induction names with
    | nil => rfl
    | cons first names ih =>
      rw [List.map_cons, List.mapM_cons, ih]
      rfl
  rw [missing, h, hlisted]
  rfl

theorem find_text (h : adapters.names = names.map .text) (name : String) :
    adapters.find (.text name) =
      (Registry.get? adapters (.text name)).join.elim (.error (unknown name names)) .ok := by
  rw [find, ← missing_text h]
  cases Registry.get? adapters (.text name) with
  | none => rfl
  | some adapter? => cases adapter? <;> rfl

theorem eval_create_of_find_error {name : Value} {e : Failure} (h : adapters.find name = .error e)
    (config? : Option BucketConfig) (session : Session σ) :
    (adapters.create name config?).eval session = (.error e, session) := by
  rw [create, h]
  rfl

/-- A storage error of an adapter is logged, and is the error of the request. -/
theorem eval_create_of_make_error {name : Value} {adapter : Adapter σ}
    (hfind : adapters.find name = .ok adapter) {config? : Option BucketConfig}
    {session later : Session σ} {e : StorageError} {r : Log.Report}
    (hmake : (adapter.make config?).eval session = (.error (.storage e), later))
    (hr : Log.Report.ofFailure (.storage e) = .ok r) :
    (adapters.create name config?).eval session =
      (.error (.storage e), later.logged
        [Log.record .error Adapter.loggerName .adapterCreateFailed [("adapter", name)]
          (some r)]) := by
  have hcreate : adapters.create name config? = tryCatch (adapter.make config?)
      (Store.passOn Adapter.loggerName .adapterCreateFailed [("adapter", name)]) := by
    rw [create, hfind]
    rfl
  rw [hcreate, eval_tryCatch, hmake]
  exact Store.eval_passOn_storage hr _ _ _ _

/-- After any requests the names are those that were registered, each once and in the order of their
first registrations, and a name is found with the adapter that it was registered with last. What is
asked of a name that was never registered fails with these names and does nothing. Where an adapter
fails with a storage error that has a text, that error comes back, one record of it is logged, and
the adapters stay as they were. -/
theorem run_orderly (requests : List (Request σ)) (start : Session σ) :
    let state := State.after requests start
    let names := (registeredNames requests).eraseDups
    state.step .list = (.ok (.names (names.map .text)), state) ∧
    (∀ before name adapter? later, requests = before ++ .register name adapter? :: later →
      name ∉ registeredNames later →
      state.step (.find name) =
        (adapter?.elim (.error (unknown name names)) fun a => .ok (.adapter a), state)) ∧
    (∀ name, name ∉ registeredNames requests →
      state.step (.find name) = (.error (unknown name names), state) ∧
      ∀ request config?, request.Makes name config? →
        state.step request = (.error (unknown name names), state)) ∧
    ∀ (request : Request σ) name config? adapter, request.Makes name config? →
      state.step (.find name) = (.ok (.adapter adapter), state) →
      ∀ e text later, (adapter.make config?).eval state.session = (.error (.storage e), later) →
        (Failure.storage e).text = .ok text →
        ∃ r : Log.Report, r.kind = e.kind.name ∧ r.text = text ∧
          state.step request = (.error (.storage e), ⟨state.adapters, later.logged
            [Log.record .error Adapter.loggerName .adapterCreateFailed [("adapter", .text name)]
              (some r)]⟩) := by
  intro state names
  have hnames : state.adapters.names = names.map .text := State.names_after requests start
  have hfind (name : String) : state.adapters.find (.text name) =
      (Registry.get? state.adapters (.text name)).join.elim (.error (unknown name names)) .ok :=
    find_text hnames name
  refine ⟨?list, fun before name adapter? later hrequests hlast => ?last, fun name hnew => ?new,
    fun request name config? adapter hmakes hfound e text later hmake htext => ?failed⟩
  case list => rw [← hnames]; rfl
  case last =>
    have hget : Registry.get? state.adapters (.text name) = some adapter? := by
      change Registry.get? (State.after requests start).adapters _ = _
      rw [hrequests, State.get?_after_register start before later name adapter? hlast]
    rw [State.step_find, hfind, hget]
    cases adapter? <;> rfl
  case new =>
    have hnone : state.adapters.find (.text name) = .error (unknown name names) := by
      rw [hfind, Registry.get?_eq_none hnames (by rwa [List.mem_eraseDups])]
      rfl
    refine ⟨by rw [State.step_find, hnone]; rfl, fun request config? hmakes => ?_⟩
    rw [state.step_of_makes hmakes, eval_create_of_find_error hnone]
    rfl
  case failed =>
    have hadapter : state.adapters.find (.text name) = .ok adapter := by
      rw [State.step_find] at hfound
      cases hname : state.adapters.find (.text name) with
      | error e => rw [hname] at hfound; cases hfound
      | ok other => rw [hname] at hfound; cases hfound; rfl
    obtain ⟨r, hr, hreport⟩ := Store.ofFailure_of_text htext
    refine ⟨r, ?kind, hreport, ?logged⟩
    case kind =>
      rw [Log.Report.ofFailure, htext] at hr
      cases hr
      rfl
    case logged =>
      rw [state.step_of_makes hmakes, eval_create_of_make_error hadapter hmake hr]
      rfl

def working : Adapter Unit :=
  .stub (.text "working") none

def denying : Adapter Unit :=
  .stub (.text "denying") (some (.storage (.general (.text "access denied") .null .null)))

/-- Two names, the first of them registered again, with requests that fail in between. -/
def reregistering : List (Request Unit) :=
  [.register "a" (some working), .create "c" none, .register "b" (some working),
    .register "a" (some denying), .create "a" none]

theorem run_orderly_reregistering :
    let state := State.after reregistering { state := () }
    state.step .list = (.ok (.names [.text "a", .text "b"]), state) ∧
    state.step (.find "a") = (.ok (.adapter denying), state) ∧
    state.step (.find "c") = (.error (unknown "c" ["a", "b"]), state) ∧
    state.step (.storage [] (some "c")) = (.error (unknown "c" ["a", "b"]), state) ∧
    ∃ r : Log.Report, r.kind = "StorageError" ∧ r.text = "access denied" ∧
      state.step (.create "a" none) =
        (.error (.storage (.general (.text "access denied") .null .null)),
          ⟨state.adapters, state.session.logged
            [Log.record .error Adapter.loggerName .adapterCreateFailed [("adapter", .text "a")]
              (some r)]⟩) := by
  intro state
  have hnames : (registeredNames reregistering).eraseDups = ["a", "b"] := by decide
  obtain ⟨hlist, hlast, hnew, hfailed⟩ := run_orderly reregistering { state := () }
  rw [hnames] at hlist hlast hnew
  have hfound : state.step (.find "a") = (.ok (.adapter denying), state) :=
    hlast [.register "a" (some working), .create "c" none, .register "b" (some working)] "a"
      (some denying) [.create "a" none] rfl (by decide)
  obtain ⟨hfind, hmake⟩ := hnew "c" (by decide)
  exact ⟨hlist, hfound, hfind, hmake _ _ .named,
    hfailed _ _ _ _ .create hfound _ _ state.session rfl rfl⟩

/-- An error that has a number in place of its message, and so no text. -/
def textless : StorageError :=
  .general (.int 5) .null .null

/-- The error of an adapter that has no text is neither passed on nor logged. -/
theorem create_textless :
    let adapter : Adapter Unit := .stub (.text "t") (some (.storage textless))
    let state := State.after [.register "x" (some adapter)] { state := () }
    state.step (.find "x") = (.ok (.adapter adapter), state) ∧
    (adapter.make none).eval state.session = (.error (.storage textless), state.session) ∧
    state.step (.create "x" none) =
      (.error (.badType "__str__ returned non-string (type int)"), state) :=
  ⟨rfl, rfl, rfl⟩

end Adapters

end BucketStore
