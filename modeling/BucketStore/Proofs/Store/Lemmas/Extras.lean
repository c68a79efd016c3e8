import BucketStore.Proofs.Store.Agreement
import BucketStore.Proofs.Store.Lemmas.Enriched
import BucketStore.Proofs.Store.Lemmas.Readable

/-!
# Fetching for one key and for many

Where the service answers by what it is asked alone, what fetching for many keys comes to is told
key by key: the values, in order, and the calls.
-/

namespace BucketStore

open BucketStore.Action

variable {σ α β : Type}

/-- A list that is read in whole is read item by item, in order. -/
theorem Result.forall₂_of_mapM_ok {f : β → Result α} {bs : List β} {as : List α}
    (h : bs.mapM f = .ok as) : List.Forall₂ (fun b a => f b = .ok a) bs as := by
  induction bs generalizing as with
  | nil =>
    cases h
    exact .nil
  | cons b bs ih =>
    rw [List.mapM_cons] at h
    cases hfirst : f b with
    | error e =>
      rw [hfirst] at h
      cases h
    | ok a =>
      cases hrest : bs.mapM f with
      | error e =>
        rw [hfirst, hrest] at h
        cases h
      | ok rest =>
        rw [hfirst, hrest] at h
        cases h
        exact .cons hfirst (ih hrest)

/-- What is read of the items of a list is told by a function of them. -/
theorem Result.exists_map_of_forall₂ [Inhabited α] {f : β → Result α} {bs : List β} {as : List α}
    (h : List.Forall₂ (fun b a => f b = .ok a) bs as) :
    ∃ g : β → α, as = bs.map g ∧ ∀ b ∈ bs, f b = .ok (g b) := by
  refine ⟨fun b => (f b).toOption.getD default, ?_⟩
  induction h with
  | nil => exact ⟨rfl, fun _ hb => nomatch hb⟩
  | cons hfirst _ ih =>
    obtain ⟨hmap, hall⟩ := ih
    refine ⟨?_, List.forall_mem_cons.mpr ⟨?_, hall⟩⟩
    · rw [List.map_cons, ← hmap, hfirst]
      rfl
    · simp only [hfirst]
      rfl

namespace Action

theorem calls_append (session : Session σ) (calls more : List Call) :
    session.calls ++ calls.toArray ++ more.toArray = session.calls ++ (calls ++ more).toArray := by
  simp

/-- The action comes to this in every session, and makes these calls. -/
def Acts (action : Action σ α) (r : Result α) (calls : List Call) : Prop :=
  ∀ session, (action.eval session).1 = r ∧
    (action.eval session).2.calls = session.calls ++ calls.toArray

namespace Acts

variable {action : Action σ α} {r : Result α} {calls more : List Call} {a : α}

theorem eval (h : Acts action r calls) (session : Session σ) :
    ∃ later, action.eval session = (r, later) ∧ later.calls = session.calls ++ calls.toArray :=
  ⟨_, Prod.ext (h session).1 rfl, (h session).2⟩

theorem of_eval (h : Acts action r calls) {session later : Session σ} {r' : Result α}
    (heval : action.eval session = (r', later)) :
    r' = r ∧ later.calls = session.calls ++ calls.toArray := by
  have hs := h session
  rw [heval] at hs
  exact hs

theorem pure (a : α) : Acts (Pure.pure a : Action σ α) (.ok a) [] :=
  fun _ => ⟨rfl, Array.append_empty.symm⟩

theorem ofResult (r : Result α) : Acts (ofResult r : Action σ α) r [] := by
  intro session
  rw [eval_ofResult]
  exact ⟨rfl, Array.append_empty.symm⟩

theorem bind {next : α → Action σ β} {r : Result β} (h : Acts action (.ok a) calls)
    (hnext : Acts (next a) r more) : Acts (action >>= next) r (calls ++ more) := by
  intro session
  obtain ⟨mid, heval, hcalls⟩ := h.eval session
  obtain ⟨later, hlater, hmore⟩ := hnext.eval mid
  rw [eval_bind_ok heval, hlater]
  exact ⟨rfl, by rw [hmore, hcalls, calls_append]⟩

theorem outcome (h : Acts action r calls) : Acts action.outcome (.ok r) calls :=
  fun session => ⟨congrArg Except.ok (h session).1, (h session).2⟩

theorem ifAsked {asked : Bool} (h : asked = true → Acts action (.ok a) calls) (own : α) :
    Acts (if asked then action else Pure.pure own) (.ok (if asked then a else own))
      (if asked then calls else []) := by
  cases asked with
  | false => exact .pure own
  | true => exact h rfl

/-- A list of actions that never fail. -/
theorem mapM {f : β → Action σ α} {g : β → α} {c : β → List Call}
    (h : ∀ b, Acts (f b) (.ok (g b)) (c b)) (bs : List β) :
    Acts (bs.mapM f) (.ok (bs.map g)) (bs.flatMap c) := by
  induction bs with
  | nil => exact .pure []
  | cons b bs ih =>
    rw [List.mapM_cons, List.map_cons, List.flatMap_cons]
    refine (h b).bind ?_
    rw [← List.append_nil (bs.flatMap c)]
    exact ih.bind (.pure _)

/-- A list of actions none of which failed. -/
theorem of_mapM_ok {f : β → Action σ α} {r : β → Result α} {c : β → List Call}
    (h : ∀ b, Acts (f b) (r b) (c b)) {bs : List β} {session later : Session σ} {as : List α}
    (hok : (bs.mapM f).eval session = (.ok as, later)) :
    List.Forall₂ (fun b a => r b = .ok a) bs as ∧
      later.calls = session.calls ++ (bs.flatMap c).toArray := by
  induction bs generalizing session as with
  | nil =>
    cases hok
    exact ⟨.nil, Array.append_empty.symm⟩
  | cons b bs ih =>
    rw [List.mapM_cons] at hok
    obtain ⟨a, mid, hfirst, hok⟩ := of_eval_bind_ok hok
    obtain ⟨rest, mid', hrest, hok⟩ := of_eval_bind_ok hok
    cases hok
    obtain ⟨hr, hcalls⟩ := (h b).of_eval hfirst
    obtain ⟨hall, hmore⟩ := ih hrest
    refine ⟨.cons hr.symm hall, ?_⟩
    rw [hmore, hcalls, calls_append, List.flatMap_cons]

end Acts

end Action

namespace Store

/-! ## Rounds -/

section fetch

variable {fetch : Value → Action σ α} {r : Value → Result α} {c : Value → List Call}

theorem fetchRound_acts (h : ∀ key, Acts (fetch key) (r key) (c key)) (keys : List Value) :
    Acts (fetchRound fetch keys) (keys.mapM r) (keys.flatMap c) := by
  have houtcomes := Acts.mapM (fun key => (h key).outcome) keys
  have hresult : Acts (Action.ofResult ((keys.map r).mapM id) : Action σ (List α)) (keys.mapM r)
      [] := by
    rw [List.mapM_map]
    exact .ofResult _
  rw [← List.append_nil (keys.flatMap c)]
  exact houtcomes.bind hresult

/-- Fetching for many keys comes to what is fetched for each of them. -/
theorem of_fetchEach_ok (h : ∀ key, Acts (fetch key) (r key) (c key)) {limit : Int}
    {keys : List Value} {session later : Session σ} {as : List α}
    (hok : (fetchEach limit fetch keys).eval session = (.ok as, later)) :
    List.Forall₂ (fun key a => r key = .ok a) keys as ∧
      later.calls = session.calls ++ (keys.flatMap c).toArray := by
  by_cases hlimit : limit ≤ 0
  · rw [fetchEach, if_pos hlimit] at hok
    cases hok
  rw [fetchEach, if_neg hlimit] at hok
  have hwidth : 0 < limit.toNat := Int.lt_toNat.mpr (Int.not_le.mp hlimit)
  obtain ⟨fetched, mid, hrounds, hflatten⟩ := of_eval_bind_ok hok
  cases hflatten
  obtain ⟨hall, hcalls⟩ := Acts.of_mapM_ok (fetchRound_acts h) hrounds
  have hkeys := rounds_flatten hwidth keys
  constructor
  · have hitems : List.Forall₂ (List.Forall₂ fun key a => r key = .ok a)
        (rounds limit.toNat keys) fetched := hall.imp fun _ _ => Result.forall₂_of_mapM_ok
    have hflat := List.rel_flatten hitems
    rwa [hkeys] at hflat
  · have hflat : (rounds limit.toNat keys).flatMap (fun round => round.flatMap c) =
        keys.flatMap c := by
      rw [← List.flatMap_assoc, List.flatMap_id', hkeys]
    rw [hcalls, hflat]

end fetch

/-! ## Tags and URLs -/

variable {s : Store σ} {option : GetOption}

theorem lifetime_eq {expires : Value} (h : s.urlLifetime option = .ok expires) :
    expires = s.lifetime option := by
  rw [urlLifetime] at h
  unfold isPositive at h
  split at h
  · rename_i hnull
    cases h
    rw [lifetime, hnull]
    rfl
  · cases hpositive : option.expire.isPositive? with
    | none =>
      rw [hpositive] at h
      cases h
    | some positive =>
      rw [hpositive] at h
      cases h
      cases positive <;> simp [lifetime, hpositive]

/-- The call for the URL of an object, unless it is not known how long that is to be good. -/
def signCalls (s : Store σ) (option : GetOption) (key : Value) : List Call :=
  match s.urlLifetime option with
  | .ok expires => [.signUrl s.bucket key "GET" expires]
  | .error _ => []

theorem signCalls_of_ok {key url : Value} {session later : Session σ}
    (h : (s.signUrl key option).eval session = (.ok url, later)) :
    s.signCalls option key = [.signUrl s.bucket key "GET" (s.lifetime option)] := by
  obtain ⟨expires, mid, hexpires, -⟩ := of_eval_bind_ok h
  rw [eval_ofResult] at hexpires
  have hlifetime : s.urlLifetime option = .ok expires := congrArg Prod.fst hexpires
  rw [signCalls, hlifetime, lifetime_eq hlifetime]

section alike

variable (h : s.service.AnswersAlike)
include h

theorem tagging_acts (key : Value) (session₀ : Session σ) :
    Acts (s.tagging key) ((s.tagging key).eval session₀).1 [.getObjectTagging s.bucket key] := by
  intro session
  have hsteady : Steady (s.tagging key) :=
    (during_steady _ (call_steady (h.tagging s.bucket key))).bind fun _ =>
      (Steady.ofResult _).bind fun _ => .ofResult _
  have hcalls : ((s.tagging key).eval session).2.calls =
      session.calls.push (.getObjectTagging s.bucket key) :=
    (calls_after_bind (fun _ => (Keeps.ofResult _).bind fun _ => .ofResult _) session).trans
      (s.calls_during_call _ _ session)
  exact ⟨hsteady session session₀, by simpa using hcalls⟩

theorem signUrl_acts (option : GetOption) (key : Value) (session₀ : Session σ) :
    Acts (s.signUrl key option) ((s.signUrl key option).eval session₀).1
      (s.signCalls option key) := by
  intro session
  have hsteady : Steady (s.signUrl key option) :=
    (Steady.ofResult _).bind fun expires =>
      (during_steady _ (call_steady (h.signing s.bucket key "GET" expires))).bind fun _ => .pure _
  refine ⟨hsteady session session₀, ?_⟩
  rw [signUrl, eval_bind, eval_ofResult, signCalls]
  cases s.urlLifetime option with
  | error e => exact Array.append_empty.symm
  | ok expires =>
    refine (calls_after_bind (fun _ => .pure _) session).trans ?_
    rw [s.calls_during_call]
    simp

end alike

/-! ## Enriching -/

theorem passOn_error (logger : String) (message : LogMessage) (fields : Fields) (e : Failure)
    (session : Session σ) :
    ∃ e', ((passOn logger message fields e : Action σ α).eval session).1 = .error e' := by
  unfold passOn
  split
  · rw [eval_bind, eval_ofResult]
    cases Log.Report.ofFailure e with
    | error e' => exact ⟨e', rfl⟩
    | ok r => exact ⟨e, rfl⟩
  · exact ⟨e, rfl⟩

/-- What is fetched for files if it is asked for, by their keys, and their own otherwise. -/
theorem of_fetchAsked_ok [Inhabited α] {fetch : Value → Action σ α} {r : Value → Result α}
    {c : Value → List Call} (h : ∀ key, Acts (fetch key) (r key) (c key)) {asked : Bool}
    {limit : Int} {files : List FileInfo} {own : FileInfo → α} {session later : Session σ}
    {as : List α}
    (hok : (if asked then fetchEach limit fetch (files.map fun f => f.key)
      else pure (files.map own)).eval session = (.ok as, later)) :
    ∃ g : Value → α, (as = files.map fun f => if asked then g f.key else own f) ∧
      (asked = true → ∀ f ∈ files, r f.key = .ok (g f.key)) ∧
      later.calls =
        session.calls ++ (if asked then (files.map fun f => f.key).flatMap c else []).toArray := by
  cases asked with
  | false =>
    cases hok
    exact ⟨fun _ => default, rfl, nofun, Array.append_empty.symm⟩
  | true =>
    obtain ⟨hall, hcalls⟩ := of_fetchEach_ok h hok
    obtain ⟨g, hmap, hg⟩ := Result.exists_map_of_forall₂ hall
    refine ⟨g, ?_, fun _ f hf => hg f.key (List.mem_map_of_mem hf), ?_⟩
    · rw [hmap, List.map_map]
      rfl
    · rw [hcalls]
      rfl

theorem flatMap_eq_map {c : β → List α} {g : β → α} {bs : List β} (h : ∀ b ∈ bs, c b = [g b]) :
    bs.flatMap c = bs.map g := by
  rw [List.map_eq_flatMap]
  exact List.flatMap_congr h

theorem extraCalls_of_not_asksMore (h : option.asksMore = false) (keys : List Value) :
    s.extraCalls option keys = [] := by
  simp only [GetOption.asksMore, Bool.or_eq_false_iff] at h
  simp [extraCalls, h.1, h.2]

theorem extras_eq (s : Store σ) (key : Value) (option : GetOption) :
    s.extras key option =
      (if option.withTagging then s.tagging key else pure none) >>= fun tags =>
      (if option.withUrl then s.signUrl key option else pure .null) >>= fun url =>
      pure (tags, url) := by
  rw [extras]
  cases option.withTagging <;> cases option.withUrl <;> rfl

theorem extras_acts {key url : Value} {tags : Option TagMap}
    (htags : option.withTagging = true →
      Acts (s.tagging key) (.ok tags) [.getObjectTagging s.bucket key])
    (hurl : option.withUrl = true →
      Acts (s.signUrl key option) (.ok url)
        [.signUrl s.bucket key "GET" (s.lifetime option)]) :
    Acts (s.extras key option)
      (.ok (if option.withTagging then tags else none, if option.withUrl then url else .null))
      (s.extraCalls option [key]) := by
  have hsigned : ∀ tags : Option TagMap,
      Acts ((if option.withUrl then s.signUrl key option else pure .null) >>= fun url =>
          pure (tags, url))
        (.ok (tags, if option.withUrl then url else .null))
        (if option.withUrl then [.signUrl s.bucket key "GET" (s.lifetime option)] else []) := by
    intro tags
    rw [← List.append_nil (if option.withUrl then _ else _)]
    exact (Acts.ifAsked hurl .null).bind (.pure _)
  rw [extras_eq]
  exact (Acts.ifAsked htags none).bind (hsigned _)

/-- Files that were enriched have what is fetched for each of them alone, and the calls are those
for their keys, first for all tags and then for all URLs. -/
theorem of_enrichListed_ok (h : s.service.AnswersAlike) {keyPrefix : Value}
    {files enriched : List FileInfo} {session later : Session σ}
    (hok : (s.enrichListed keyPrefix files option).eval session = (.ok enriched, later)) :
    later.calls =
        session.calls ++ (s.extraCalls option (files.map fun f => f.key)).toArray ∧
      ∃ (tags : Value → Option TagMap) (url : Value → Value),
        (enriched = files.map fun f => f.enriched option (tags f.key) (url f.key)) ∧
        ∀ f ∈ files, Acts (s.extras f.key option)
          (.ok (if option.withTagging then tags f.key else none,
            if option.withUrl then url f.key else .null))
          (s.extraCalls option [f.key]) := by
  have henrich := of_eval_tryCatch_ok (passOn_error _ _ _) hok
  by_cases hnothing : files = [] ∨ option.asksMore = false
  · rw [enrich_of_nothing hnothing] at henrich
    cases henrich
    refine ⟨?_, fun _ => none, fun _ => .null, ?_, fun f hf => ?_⟩
    · rcases hnothing with rfl | hmore
      · simp [extraCalls]
      · rw [extraCalls_of_not_asksMore hmore, Array.append_empty]
    · rcases hnothing with rfl | hmore
      · rfl
      · simp only [FileInfo.enriched_of_not_asksMore hmore, List.map_id']
    · rcases hnothing with rfl | hmore
      · cases hf
      · simp only [GetOption.asksMore, Bool.or_eq_false_iff] at hmore
        exact extras_acts (fun hasked => absurd hasked (by simp [hmore.1]))
          fun hasked => absurd hasked (by simp [hmore.2])
  · rw [not_or, Bool.not_eq_false] at hnothing
    rw [enrich_eq_bind hnothing.1 hnothing.2] at henrich
    obtain ⟨taggings, mid, htaggings, henrich⟩ := of_eval_bind_ok henrich
    obtain ⟨urls, mid', hurls, hassemble⟩ := of_eval_bind_ok henrich
    cases hassemble
    obtain ⟨tags, rfl, htags, htagCalls⟩ :=
      of_fetchAsked_ok (fun key => tagging_acts h key session) htaggings
    obtain ⟨url, rfl, hurl, hurlCalls⟩ :=
      of_fetchAsked_ok (fun key => signUrl_acts h { expire := option.expire } key session) hurls
    have hsign : option.withUrl = true → ∀ f ∈ files,
        s.signCalls option f.key = [.signUrl s.bucket f.key "GET" (s.lifetime option)] := by
      intro hasked f hf
      exact signCalls_of_ok (Prod.ext (hurl hasked f hf) rfl)
    refine ⟨?calls, tags, url, ?files, fun f hf => extras_acts (fun hasked => ?_) fun hasked => ?_⟩
    case calls =>
      have htagged : (if option.withTagging then (files.map fun f => f.key).flatMap
            fun key => [Call.getObjectTagging s.bucket key] else []) =
          if option.withTagging then (files.map fun f => f.key).map fun key =>
            .getObjectTagging s.bucket key else [] := by
        rw [flatMap_eq_map fun _ _ => rfl]
      have hsigned : (if option.withUrl then (files.map fun f => f.key).flatMap
            (s.signCalls { expire := option.expire }) else []) =
          if option.withUrl then (files.map fun f => f.key).map fun key =>
            .signUrl s.bucket key "GET" (s.lifetime option) else [] := by
        split
        · rename_i hasked
          refine flatMap_eq_map fun key hkey => ?_
          obtain ⟨f, hf, rfl⟩ := List.mem_map.mp hkey
          exact hsign hasked f hf
        · rfl
      rw [hurlCalls, htagCalls, htagged, hsigned, calls_append]
      rfl
    case files =>
      rw [FileInfo.assemble_map]
      rfl
    · have hacts := tagging_acts h f.key session
      rwa [htags hasked f hf] at hacts
    · have hacts := signUrl_acts h option f.key session
      have hvalue : ((s.signUrl f.key option).eval session).1 = .ok (url f.key) :=
        hurl hasked f hf
      rwa [hsign hasked f hf, hvalue] at hacts

end Store

end BucketStore
