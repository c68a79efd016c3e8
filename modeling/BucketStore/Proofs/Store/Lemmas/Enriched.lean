import BucketStore.Proofs.Enrichment.Lemmas.Fetching
import BucketStore.Proofs.Store.Lemmas.Remote

/-!
# Enriching along a listing

Where the service answers by what it is asked alone and has tags and a URL for every key, enriching
the files of a page sets these and nothing else. So a listing that enriches goes through the pages
of one that does not.
-/

namespace BucketStore

open BucketStore.Action

variable {σ α β : Type}

/-! ## Answers that depend on the question alone -/

/-- A service answers calls for pages whatever its state is, and it has tags and a URL for every
key. -/
structure Service.Serves (service : Service σ) (bucket : String) (tags : Value → Option TagMap)
    (url : Value → Value → Value) : Prop where
  pages : ∀ keyPrefix marker most state state',
    (service.answer (.listObjects bucket keyPrefix marker most) state).1 =
      (service.answer (.listObjects bucket keyPrefix marker most) state').1
  tagging : ∀ key, ∃ answer fields,
    (∀ state, (service.answer (.getObjectTagging bucket key) state).1 = .ok answer) ∧
      Payload.answerFields answer.toValue = .ok fields ∧
      TagMap.ofAnswer (Fields.get fields "TagSet") = .ok (tags key)
  signing : ∀ key expires, ∃ answer,
    (∀ state, (service.answer (.signUrl bucket key "GET" expires) state).1 = .ok answer) ∧
      answer.toValue = url key expires

/-! ## Actions that come out the same everywhere -/

namespace Action

theorem Yields.outcome {action : Action σ α} {a : α} (h : Yields action a) :
    Yields action.outcome (.ok a) := by
  intro session
  obtain ⟨later, hlater⟩ := h session
  exact ⟨later, eval_outcome hlater⟩

theorem Yields.mapM {f : β → Action σ α} {g : β → α} {bs : List β}
    (h : ∀ b ∈ bs, Yields (f b) (g b)) : Yields (bs.mapM f) (bs.map g) := by
  have hmap : Yields ((bs.map id).mapM f) (bs.map g) := Yields.mapM_map h
  rwa [List.map_id] at hmap

theorem Yields.ifAsked {action : Action σ α} {a : α} {asked : Bool}
    (h : asked = true → Yields action a) (own : α) :
    Yields (if asked then action else Pure.pure own) (if asked then a else own) := by
  cases asked with
  | false => exact .pure own
  | true => exact h rfl

/-- The action comes out the same in every session. -/
def Steady (action : Action σ α) : Prop :=
  ∀ session session', (action.eval session).1 = (action.eval session').1

namespace Steady

theorem pure (a : α) : Steady (Pure.pure a : Action σ α) :=
  fun _ _ => rfl

theorem throw (e : Failure) : Steady (MonadExcept.throw e : Action σ α) :=
  fun _ _ => rfl

theorem ofResult (r : Result α) : Steady (ofResult r : Action σ α) := by
  intro session session'
  rw [eval_ofResult, eval_ofResult]

theorem bind {action : Action σ α} {next : α → Action σ β} (h : Steady action)
    (hnext : ∀ a, Steady (next a)) : Steady (action >>= next) := by
  intro session session'
  have hsame := h session session'
  rw [eval_bind, eval_bind]
  generalize action.eval session = first at hsame
  generalize action.eval session' = first' at hsame
  obtain ⟨outcome, later⟩ := first
  obtain ⟨outcome', later'⟩ := first'
  cases hsame
  cases outcome with
  | ok a => exact hnext a later later'
  | error e => rfl

theorem tryCatch {action : Action σ α} {handle : Failure → Action σ α} (h : Steady action)
    (hhandle : ∀ e, Steady (handle e)) : Steady (MonadExcept.tryCatch action handle) := by
  intro session session'
  have hsame := h session session'
  rw [eval_tryCatch, eval_tryCatch]
  generalize action.eval session = first at hsame
  generalize action.eval session' = first' at hsame
  obtain ⟨outcome, later⟩ := first
  obtain ⟨outcome', later'⟩ := first'
  cases hsame
  cases outcome with
  | ok a => rfl
  | error e => exact hhandle e later later'

theorem mapM {f : β → Action σ α} (h : ∀ b, Steady (f b)) (bs : List β) : Steady (bs.mapM f) := by
  induction bs with
  | nil => exact .pure []
  | cons b bs ih =>
      rw [List.mapM_cons]
      exact (h b).bind fun _ => ih.bind fun _ => .pure _

theorem yields {action : Action σ α} (h : Steady action) {session later : Session σ} {a : α}
    (ha : action.eval session = (.ok a, later)) : Yields action a := by
  intro session'
  refine ⟨(action.eval session').2, Prod.ext ?_ rfl⟩
  rw [h session' session, ha]

end Steady

theorem Yields.steady {action : Action σ α} {a : α} (h : Yields action a) : Steady action := by
  intro session session'
  obtain ⟨later, hlater⟩ := h session
  obtain ⟨later', hlater'⟩ := h session'
  rw [hlater, hlater']

end Action

namespace Store

variable {s : Store σ}

/-! ## Rounds -/

theorem rounds_flatten {width : Nat} (pos : 0 < width) (items : List α) :
    (rounds width items).flatten = items := by
  induction items using rounds.induct width with
  | case1 items h =>
      rw [rounds, dif_pos h]
      exact (List.eq_nil_of_length_eq_zero (h.resolve_left (Nat.ne_of_gt pos))).symm
  | case2 items h ih => rw [rounds, dif_neg h, List.flatten_cons, ih, List.take_append_drop]

theorem mapM_id_ok (as : List α) : (as.map Except.ok : List (Result α)).mapM id = .ok as := by
  induction as with
  | nil => rfl
  | cons a as ih =>
      rw [List.map_cons, List.mapM_cons, ih]
      rfl

variable {fetch : Value → Action σ α} {g : Value → α}

theorem fetchRound_yields (h : ∀ key, Yields (fetch key) (g key)) (keys : List Value) :
    Yields (fetchRound fetch keys) (keys.map g) := by
  have houtcomes : Yields (keys.mapM fun key => Action.outcome (fetch key))
      (keys.map fun key => .ok (g key)) :=
    Yields.mapM fun key _ => (h key).outcome
  refine houtcomes.bind (Yields.ofResult ?_)
  rw [← mapM_id_ok, List.map_map]
  rfl

theorem fetchEach_yields {limit : Int} (pos : 0 < limit) (h : ∀ key, Yields (fetch key) (g key))
    (keys : List Value) : Yields (fetchEach limit fetch keys) (keys.map g) := by
  have hwidth : 0 < limit.toNat := Int.lt_toNat.mpr pos
  have hrounds : Yields ((rounds limit.toNat keys).mapM (fetchRound fetch))
      ((rounds limit.toNat keys).map (List.map g)) :=
    Yields.mapM fun round _ => fetchRound_yields h round
  have hflatten : ((rounds limit.toNat keys).map (List.map g)).flatten = keys.map g := by
    rw [← List.map_flatten, rounds_flatten hwidth]
  rw [fetchEach, if_neg (Int.not_le.mpr pos)]
  exact hrounds.bind (hflatten ▸ .pure _)

/-! ## Parts of a page -/

theorem call_steady {c : Call}
    (h : ∀ state state', (s.service.answer c state).1 = (s.service.answer c state').1) :
    Steady (s.call c) := by
  intro session session'
  rw [call, eval_call, eval_call]
  exact h session.state session'.state

theorem report_steady (step : Step) (e : Failure) : Steady (report step e : Action σ α) := by
  unfold report
  split
  · exact .throw e
  · refine (Steady.ofResult _).bind fun r => ?_
    exact Steady.bind (fun _ _ => rfl) fun _ => .throw _

theorem during_steady {action : Action σ α} (step : Step) (h : Steady action) :
    Steady (during step action) :=
  h.tryCatch (report_steady step)

theorem during_call_yields {c : Call} {answer : Answer} (step : Step)
    (h : ∀ state, (s.service.answer c state).1 = .ok answer) :
    Yields (during step (s.call c)) answer :=
  fun session => ⟨_, eval_during_call step (Prod.ext (h session.state) rfl)⟩

theorem listedFile_steady (s : Store σ) (object : Value) : Steady (s.listedFile object) := by
  unfold listedFile
  split
  · refine (Steady.ofResult _).bind fun size => (Steady.ofResult _).bind fun isMarker => ?_
    cases isMarker with
    | true => exact (s.log_yields _ _ _).steady.bind fun _ => .pure none
    | false => exact (Steady.ofResult _).bind fun _ => (Steady.ofResult _).bind fun _ => .pure _
  · exact .throw _

theorem isPositive_ok {v : Value} (h : v = .null ∨ v.isPositive?.isSome) :
    ∃ b, isPositive v = .ok b := by
  rcases h with rfl | h
  · exact ⟨false, rfl⟩
  · obtain ⟨b, hb⟩ := Option.isSome_iff_exists.mp h
    refine ⟨b, ?_⟩
    unfold isPositive
    split
    · cases hb
    · rw [hb]
      rfl

/-- A time that is absent or a number says how long a URL that is asked for is good. -/
theorem urlLifetime_ok (s : Store σ) {option : GetOption}
    (h : option.withUrl = true → option.expire = .null ∨ option.expire.isPositive?.isSome) :
    ∃ lifetime, option.withUrl = true → s.urlLifetime option = .ok lifetime := by
  by_cases hasked : option.withUrl = true
  · obtain ⟨b, hb⟩ := isPositive_ok (h hasked)
    rw [urlLifetime, hb]
    exact ⟨_, fun _ => rfl⟩
  · exact ⟨.null, fun h => absurd h hasked⟩

variable {tags : Value → Option TagMap} {url : Value → Value → Value} {option : GetOption}
  {lifetime : Value}

section serves

variable (h : s.service.Serves s.bucket tags url)
include h

theorem tagging_yields (key : Value) : Yields (s.tagging key) (tags key) := by
  obtain ⟨answer, fields, hanswer, hfields, htags⟩ := h.tagging key
  refine (during_call_yields _ hanswer).bind ?_
  exact (Yields.ofResult hfields).bind (.ofResult htags)

theorem signUrl_yields (hlifetime : s.urlLifetime option = .ok lifetime) (key : Value) :
    Yields (s.signUrl key option) (url key lifetime) := by
  obtain ⟨answer, hanswer, hurl⟩ := h.signing key lifetime
  refine (Yields.ofResult hlifetime).bind ?_
  exact (during_call_yields _ hanswer).bind (hurl ▸ .pure _)

theorem enrichListed_yields_enriched
    (hlifetime : option.withUrl = true → s.urlLifetime option = .ok lifetime)
    (keyPrefix : Value) (files : List FileInfo) :
    Yields (s.enrichListed keyPrefix files option)
      (files.map fun f => f.enriched option (tags f.key) (url f.key lifetime)) := by
  refine Yields.tryCatch ?_ _
  by_cases hnothing : files = [] ∨ option.asksMore = false
  · have hsame : (files.map fun f => f.enriched option (tags f.key) (url f.key lifetime)) =
        files := by
      rcases hnothing with rfl | hmore
      · rfl
      · simp only [FileInfo.enriched_of_not_asksMore hmore, List.map_id']
    rw [enrich_of_nothing hnothing, hsame]
    exact .pure files
  · rw [not_or, Bool.not_eq_false] at hnothing
    rw [enrich_eq_bind hnothing.1 hnothing.2]
    have htaggings := Yields.ifAsked (fun _ : option.withTagging = true =>
      fetchEach_yields s.config.fanoutConcurrency.pos (tagging_yields h)
        (files.map fun f => f.key)) (files.map fun f => f.tagging)
    have hsign : option.withUrl = true → ∀ key,
        Yields (s.signUrl key { expire := option.expire }) (url key lifetime) :=
      fun hasked => signUrl_yields h (hlifetime hasked)
    have hurls := Yields.ifAsked (fun hasked : option.withUrl = true =>
      fetchEach_yields s.config.fanoutConcurrency.pos (hsign hasked)
        (files.map fun f => f.key)) (files.map fun f => f.url)
    refine htaggings.bind (hurls.bind ?_)
    rw [FileInfo.map_asked, FileInfo.map_asked option.withUrl files (url · lifetime),
      FileInfo.assemble_map]
    exact .pure _

/-- Tasks that come to what the service answers enrich as the rounds do, whatever time they take. -/
theorem enrichByTasks_eq_rounds
    (hlifetime : option.withUrl = true → s.urlLifetime option = .ok lifetime) (keyPrefix : Value)
    (files : List FileInfo) (session : Session σ) {tag : Nat → Value → Job (Option TagMap)}
    {sign : Nat → Value → Value → Job Value}
    (htag : ∀ i key, (tag i key).outcome = ((s.tagging key).eval session).1)
    (hsign : ∀ i key, (sign i key option.expire).outcome =
      ((s.signUrl key { expire := option.expire }).eval session).1) :
    ((enrichByTasks (.int s.config.fanoutConcurrency.val) tag sign files option).eval {}).1 =
      ((s.enrichListed keyPrefix files option).eval session).1 := by
  have htags : ∀ i key, (tag i key).outcome = .ok (tags key) := by
    intro i key
    obtain ⟨_, hkey⟩ := tagging_yields h key session
    rw [htag, hkey]
  have hurls : option.withUrl = true → ∀ i key,
      (sign i key option.expire).outcome = .ok (url key lifetime) := by
    intro hasked i key
    have hyields : Yields (s.signUrl key { expire := option.expire }) (url key lifetime) :=
      signUrl_yields h (hlifetime hasked) key
    obtain ⟨_, hkey⟩ := hyields session
    rw [hsign, hkey]
  obtain ⟨report, _, htasks, -⟩ := @eval_enrichByTasks_ok _ tag sign files option
    s.config.fanoutConcurrency.pos (fun _ key => tags key) (fun _ key => url key lifetime)
    (fun _ i f _ => htags i f.key) (fun hasked i f _ => hurls hasked i f.key)
  obtain ⟨later, hrounds⟩ := enrichListed_yields_enriched h hlifetime keyPrefix files session
  rw [htasks, hrounds, mapIdx_const]

/-! ## Pages -/

theorem listPage_yields_enriched
    (hlifetime : option.withUrl = true → s.urlLifetime option = .ok lifetime)
    {request : PageRequest} (hsize : checkPageSize request.pageSize = .ok ())
    {session later : Session σ} {page : Page}
    (hplain : (s.listPage request {}).eval session = (.ok page, later)) :
    Yields (s.listPage request option)
      { page with
        files := page.files.map fun f => f.enriched option (tags f.key) (url f.key lifetime) } := by
  rw [s.listPage_eq {} hsize] at hplain
  obtain ⟨answer, _, hcall, hread⟩ := of_eval_bind_ok hplain
  obtain ⟨fields, _, hfields, hread⟩ := of_eval_bind_ok hread
  obtain ⟨objects, _, hobjects, hread⟩ := of_eval_bind_ok hread
  obtain ⟨listed, mid, hlisted, hread⟩ := of_eval_bind_ok hread
  obtain ⟨own, hown⟩ :=
    @enrichListed_yields σ s request.keyPrefix (listed.filterMap id) {} rfl mid
  rw [eval_bind_ok hown] at hread
  cases hread
  have hsteady := during_steady (.list request.keyPrefix)
    (call_steady (h.pages request.keyPrefix request.cursor request.pageSize))
  rw [s.listPage_eq option hsize]
  refine (hsteady.yields hcall).bind ?_
  refine ((Steady.ofResult _).yields hfields).bind ?_
  refine ((Steady.ofResult _).yields hobjects).bind ?_
  refine ((Steady.mapM s.listedFile_steady objects).yields hlisted).bind ?_
  exact (enrichListed_yields_enriched h hlifetime _ _).bind (.pure _)

/-! ## Full listings -/

theorem listFrom_yields_enriched
    (hlifetime : option.withUrl = true → s.urlLifetime option = .ok lifetime)
    {keyPrefix cursor : Value} {fuel : Nat} {listed files : List FileInfo}
    {session later : Session σ}
    (hplain : (s.listFrom keyPrefix {} fuel cursor listed).eval session = (.ok (some files), later)) :
    Yields
      (s.listFrom keyPrefix option fuel cursor
        (listed.map fun f => f.enriched option (tags f.key) (url f.key lifetime)))
      (some (files.map fun f => f.enriched option (tags f.key) (url f.key lifetime))) := by
  induction fuel generalizing cursor listed session with
  | zero => cases hplain
  | succ fuel ih =>
      obtain ⟨page, mid, hpage, -⟩ := of_eval_bind_ok hplain
      intro session'
      obtain ⟨mid', hpage'⟩ := listPage_yields_enriched h hlifetime
        (s.checkPageSize_requestAt keyPrefix cursor) hpage session'
      -- Both have kept as many files before the page, so it stops both of them or neither.
      have hsame : StopsAt s.config.listMaxObjects.val
          (listed.map fun f => f.enriched option (tags f.key) (url f.key lifetime)).length
          [{ page with
              files := page.files.map fun f => f.enriched option (tags f.key)
                (url f.key lifetime) }] ↔
          StopsAt s.config.listMaxObjects.val listed.length [page] := by
        rw [StopsAt.singleton_iff, StopsAt.singleton_iff, List.length_map, List.length_map]
        rfl
      by_cases hstops : StopsAt s.config.listMaxObjects.val listed.length [page]
      · rw [listFrom_succ_stop hpage hstops] at hplain
        rw [listFrom_succ_stop hpage' (hsame.mpr hstops), ← List.map_append, ← List.map_take]
        cases hplain
        exact ⟨_, rfl⟩
      · rw [listFrom_succ_goOn hpage hstops] at hplain
        rw [listFrom_succ_goOn hpage' (hsame.not.mpr hstops), ← List.map_append]
        exact ih hplain mid'

end serves

end Store

end BucketStore
