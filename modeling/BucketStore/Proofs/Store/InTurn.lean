import BucketStore.Proofs.Store.Lemmas.Enriched
import BucketStore.Proofs.Store.Limits

/-!
# Rounds and tasks

Fetching in rounds comes to what fetching for one key after the other comes to, whatever the service
answers and whatever fails. Tasks of equal length end in the order of submission, so they come to
the same where their outcomes are these. Enriching in rounds is enriching by such tasks.
-/

namespace BucketStore

/-! ## Tasks of equal length -/

namespace Schedule

variable {α : Type} {limit base delay now : Nat} {slots : List (Slot α)}

theorem Greedy.pairwise_stop (h : Greedy limit base slots)
    (hdelay : ∀ s ∈ slots, s.job.delay = delay) :
    slots.Pairwise fun s t => s.stop ≤ t.stop := by
  refine h.pairwise_start.imp_of_mem fun {s t} hs ht hstart => ?_
  rw [Slot.stop, Slot.stop, hdelay s hs, hdelay t ht]
  exact Nat.add_le_add_right hstart delay

/-- Where jobs end in order, the first one that has failed is the first one that fails. -/
theorem findSome?_failure? {e : Failure} (h : slots.Pairwise fun s t => s.stop ≤ t.stop)
    (he : (slots.map (Slot.taskAt now)).findSome? Task.failure? = some e) :
    (slots.map Slot.job).findSome? Job.failure? = some e := by
  induction slots with
  | nil => cases he
  | cons s slots ih =>
    obtain ⟨hs, hslots⟩ := List.pairwise_cons.mp h
    rw [List.map_cons, List.findSome?_cons, Slot.failure?_taskAt] at he
    rw [List.map_cons, List.findSome?_cons]
    by_cases hended : s.stop ≤ now
    · rw [if_pos hended] at he
      cases hfails : s.job.failure? with
      | none =>
        rw [hfails] at he
        exact ih hslots he
      | some e' =>
        rw [hfails] at he
        exact he
    · -- No job behind it has ended either.
      have hnone : (slots.map (Slot.taskAt now)).findSome? Task.failure? = none := by
        refine List.findSome?_eq_none_iff.mpr fun t ht => ?_
        obtain ⟨u, hu, rfl⟩ := List.mem_map.mp ht
        rw [Slot.failure?_taskAt, if_neg fun hu' => hended (Nat.le_trans (hs u hu) hu')]
      rw [if_neg hended] at he
      exact absurd (hnone.symm.trans he) nofun

end Schedule

theorem Job.mapM_outcomes_of_failure {α : Type} {jobs : List (Job α)} {e : Failure}
    (h : jobs.findSome? Job.failure? = some e) : (jobs.map Job.outcome).mapM id = .error e := by
  induction jobs with
  | nil => cases h
  | cons job jobs ih =>
    rw [List.findSome?_cons, Job.failure?] at h
    rw [List.map_cons, List.mapM_cons]
    cases houtcome : job.outcome with
    | error e' =>
      rw [houtcome] at h
      cases h
      rfl
    | ok a =>
      rw [houtcome] at h
      rw [ih h]
      rfl

/-- Tasks of equal length come to all their values, or to the first failure in their order. -/
theorem eval_fetchAll_of_delay {α : Type} {limit : Int} {delay : Nat} {job : Nat → Value → Job α}
    {keys : List Value} (pos : 0 < limit) (hdelay : ∀ j ∈ keys.mapIdx job, j.delay = delay)
    (note : WorkReport → FetchReport → FetchReport) (report : FetchReport) :
    ((fetchAll (.int limit) job note keys).eval report).1 =
      ((keys.mapIdx job).map Job.outcome).mapM id := by
  obtain ⟨slots, g, r, later, hjobs, hgreedy, hg, hends, heval⟩ :=
    eval_fetchAll pos job note keys report
  rw [heval, ← hjobs]
  cases hends with
  | done _ hvalues =>
    have houtcomes : (slots.map Slot.job).map Job.outcome = _ :=
      (List.map_map ..).trans hvalues
    rw [houtcomes, Store.mapM_id_ok]
  | failed he =>
    have hstops := hgreedy.pairwise_stop fun s hs => hdelay _ (hjobs ▸ List.mem_map_of_mem hs)
    rw [TaskGroup.failure?, hg.tasks] at he
    exact (Job.mapM_outcomes_of_failure (Schedule.findSome?_failure? hstops he)).symm

namespace Store

open BucketStore.Action

variable {σ α : Type}

/-! ## One key after the other -/

/-- What fetching for each key in turn comes to, whatever fails, and the session after it. -/
def inTurn (fetch : Value → Action σ α) : List Value → Session σ → List (Result α) × Session σ
  | [], session => ([], session)
  | key :: keys, session =>
    let (r, mid) := (fetch key).eval session
    let (rs, later) := inTurn fetch keys mid
    (r :: rs, later)

variable {fetch : Value → Action σ α}

theorem inTurn_append (before after : List Value) (session : Session σ) :
    inTurn fetch (before ++ after) session =
      ((inTurn fetch before session).1 ++ (inTurn fetch after (inTurn fetch before session).2).1,
        (inTurn fetch after (inTurn fetch before session).2).2) := by
  induction before generalizing session with
  | nil => rfl
  | cons key before ih => simp only [List.cons_append, inTurn, ih]

theorem length_inTurn (keys : List Value) (session : Session σ) :
    (inTurn fetch keys session).1.length = keys.length := by
  induction keys generalizing session with
  | nil => rfl
  | cons key keys ih => simp only [inTurn, List.length_cons, ih]

theorem eval_outcomes (keys : List Value) (session : Session σ) :
    (keys.mapM fun key => (fetch key).outcome).eval session =
      (.ok (inTurn fetch keys session).1, (inTurn fetch keys session).2) := by
  induction keys generalizing session with
  | nil => rfl
  | cons key keys ih =>
    have hfirst : (fetch key).outcome.eval session =
        (.ok ((fetch key).eval session).1, ((fetch key).eval session).2) := eval_outcome rfl
    rw [List.mapM_cons, eval_bind_ok hfirst, eval_bind_ok (ih _)]
    rfl

/-- The action comes to what fetching for the keys in turn comes to: all values, or the first
failure. -/
structure InTurn (fetch : Value → Action σ α) (keys : List Value) (action : Action σ (List α)) :
    Prop where
  outcome : ∀ session, (action.eval session).1 = (inTurn fetch keys session).1.mapM id
  later : ∀ session as, (action.eval session).1 = .ok as →
    (action.eval session).2 = (inTurn fetch keys session).2

theorem fetchRound_inTurn (keys : List Value) : InTurn fetch keys (fetchRound fetch keys) := by
  have heval : ∀ session, (fetchRound fetch keys).eval session =
      ((inTurn fetch keys session).1.mapM id, (inTurn fetch keys session).2) := by
    intro session
    rw [fetchRound, eval_bind_ok (eval_outcomes keys session), eval_ofResult]
  exact ⟨fun session => by rw [heval], fun session _ _ => by rw [heval]⟩

theorem InTurn.append {before after : List Value} {action action' : Action σ (List α)}
    (h : InTurn fetch before action) (h' : InTurn fetch after action') :
    InTurn fetch (before ++ after)
      (action >>= fun first => action' >>= fun rest => pure (first ++ rest)) := by
  refine ⟨fun session => ?outcome, fun session as has => ?later⟩
  case outcome =>
    have hfirst := h.outcome session
    have hlater := h.later session
    rw [eval_bind, inTurn_append, List.mapM_append]
    cases heval : action.eval session with
    | mk r mid =>
      rw [heval] at hfirst hlater
      rw [← hfirst]
      cases r with
      | error e => rfl
      | ok first =>
        obtain rfl : mid = _ := hlater first rfl
        have hrest := h'.outcome (inTurn fetch before session).2
        simp only [eval_bind]
        cases heval' : action'.eval (inTurn fetch before session).2 with
        | mk r' later =>
          rw [heval'] at hrest
          rw [← hrest]
          cases r' <;> rfl
  case later =>
    obtain ⟨first, mid, hfirst, hnext⟩ := of_eval_bind_ok (Prod.ext has rfl)
    obtain ⟨rest, later, hrest, hpure⟩ := of_eval_bind_ok hnext
    have hmid := h.later session first (congrArg Prod.fst hfirst)
    rw [hfirst] at hmid
    have hlater := h'.later mid rest (congrArg Prod.fst hrest)
    rw [hrest] at hlater
    cases hpure
    rw [inTurn_append, ← hmid, ← hlater]

theorem rounds_inTurn {width : Nat} (hwidth : 0 < width) (keys : List Value) :
    InTurn fetch keys
      ((rounds width keys).mapM (fetchRound fetch) >>= fun fetched => pure fetched.flatten) := by
  induction keys using rounds.induct width with
  | case1 keys h =>
    have hnil : keys = [] :=
      List.eq_nil_of_length_eq_zero (h.resolve_left (Nat.ne_of_gt hwidth))
    subst hnil
    rw [rounds, dif_pos h]
    exact ⟨fun _ => rfl, fun _ _ _ => rfl⟩
  | case2 keys h ih =>
    have happend := (fetchRound_inTurn (keys.take width)).append ih
    rw [List.take_append_drop] at happend
    rw [rounds, dif_neg h]
    simp only [List.mapM_cons, bind_assoc, pure_bind, List.flatten_cons] at happend ⊢
    exact happend

theorem fetchEach_inTurn {limit : Int} (pos : 0 < limit) (keys : List Value) :
    InTurn fetch keys (fetchEach limit fetch keys) := by
  rw [fetchEach, if_neg (Int.not_le.mpr pos)]
  exact rounds_inTurn (Int.lt_toNat.mpr pos) keys

/-! ## Tasks in place of rounds -/

/-- Jobs that take this time and come to these outcomes. -/
def jobsOf (delay : Nat) (outcomes : List (Result α)) (i : Nat) (_key : Value) : Job α :=
  ⟨delay, outcomes.getD i (.error .cancelled)⟩

theorem outcomes_jobsOf {delay : Nat} {outcomes : List (Result α)} {keys : List Value}
    (h : outcomes.length = keys.length) :
    (keys.mapIdx (jobsOf delay outcomes)).map Job.outcome = outcomes := by
  refine List.ext_getElem (by simp [h]) fun i hi hi' => ?_
  simp [jobsOf, List.getElem?_eq_getElem hi']

/-- Fetching in rounds comes to what tasks of any equal length come to, also where some fail. -/
theorem fetchEach_eq_fetchAll {limit : Int} (pos : 0 < limit) (delay : Nat)
    (note : WorkReport → FetchReport → FetchReport) (keys : List Value) (session : Session σ)
    (report : FetchReport) :
    ((fetchEach limit fetch keys).eval session).1 =
      ((fetchAll (.int limit) (jobsOf delay (inTurn fetch keys session).1) note keys).eval
        report).1 := by
  have hdelay : ∀ j ∈ keys.mapIdx (jobsOf delay (inTurn fetch keys session).1),
      j.delay = delay := by
    intro j hj
    obtain ⟨i, hi, rfl⟩ := List.mem_mapIdx.mp hj
    rfl
  rw [(fetchEach_inTurn pos keys).outcome, eval_fetchAll_of_delay pos hdelay,
    outcomes_jobsOf (length_inTurn keys session)]

/-- Where a session and a group come to the same, and go on to the same, the whole does. -/
theorem eval_bind_eq {β : Type} {action : Action σ α} {fetched : Fetch α}
    {next : α → Action σ β} {next' : α → Fetch β} {session : Session σ} {report : FetchReport}
    (h : (action.eval session).1 = (fetched.eval report).1)
    (hnext : ∀ a, (action.eval session).1 = .ok a →
      ((next a).eval (action.eval session).2).1 = ((next' a).eval (fetched.eval report).2).1) :
    ((action >>= next).eval session).1 = ((fetched >>= next').eval report).1 := by
  cases haction : action.eval session with
  | mk r mid =>
    cases hfetched : fetched.eval report with
    | mk r' mid' =>
      rw [haction, hfetched] at h hnext
      obtain rfl : r = r' := h
      cases r with
      | error e => rw [eval_bind_error haction, Fetch.eval_bind_error hfetched]
      | ok a =>
        rw [eval_bind_ok haction, Fetch.eval_bind_ok hfetched]
        exact hnext a rfl

variable (s : Store σ)

/-- A failure is logged where it is an error of the library, and is the same afterwards. -/
theorem eval_enrichListed (keyPrefix : Value) (files : List FileInfo) (option : GetOption)
    (session : Session σ) :
    ((s.enrichListed keyPrefix files option).eval session).1 =
      ((enrich (fetchEach s.config.fanoutConcurrency.val s.tagging)
        (fetchEach s.config.fanoutConcurrency.val fun key =>
          s.signUrl key { expire := option.expire }) files option).eval session).1 := by
  have hfails := s.enrich_failsWith files option session
  rw [enrichListed, eval_tryCatch]
  split
  · rename_i heq
    rw [heq]
  · rename_i e later heq
    rw [heq] at hfails ⊢
    obtain ⟨logged, heval⟩ := @eval_passOn σ _ e (hfails e rfl).text_of_isStorage loggerName
      .listEnrichFailed [("prefix", keyPrefix)] later
    rw [heval]

/-- The session in which URLs are signed: that after the tags if these are asked for. -/
def signingSession (option : GetOption) (keys : List Value) (session : Session σ) : Session σ :=
  if option.withTagging then (inTurn s.tagging keys session).2 else session

/-- Enriching in rounds comes to what tasks of any equal length come to, also where some fail: the
tasks for the tags and those for the URLs, each with the outcome of its key in turn. -/
theorem enrichListed_eq_enrichByTasks (keyPrefix : Value) (files : List FileInfo)
    (option : GetOption) (session : Session σ) (delay delay' : Nat) :
    ((s.enrichListed keyPrefix files option).eval session).1 =
      ((enrichByTasks (.int s.config.fanoutConcurrency.val)
        (jobsOf delay (inTurn s.tagging (files.map fun f => f.key) session).1)
        (fun i key _ => jobsOf delay' (inTurn (fun key => s.signUrl key { expire := option.expire })
          (files.map fun f => f.key)
          (s.signingSession option (files.map fun f => f.key) session)).1 i key)
        files option).eval {}).1 := by
  have pos := s.config.fanoutConcurrency.pos
  rw [eval_enrichListed]
  by_cases hnothing : files = [] ∨ option.asksMore = false
  · rw [enrich_of_nothing hnothing, enrichByTasks, enrich_of_nothing hnothing]
    rfl
  · rw [not_or, Bool.not_eq_false] at hnothing
    rw [enrich_eq_bind hnothing.1 hnothing.2, enrichByTasks, enrich_eq_bind hnothing.1 hnothing.2]
    refine eval_bind_eq ?tags fun taggings htaggings => eval_bind_eq ?urls fun urls _ => rfl
    case tags =>
      cases option.withTagging with
      | false => rfl
      | true => exact fetchEach_eq_fetchAll pos delay _ _ session {}
    case urls =>
      have hsession : ((if option.withTagging then
            fetchEach s.config.fanoutConcurrency.val s.tagging (files.map fun f => f.key)
          else pure (files.map fun f => f.tagging)).eval session).2 =
          s.signingSession option (files.map fun f => f.key) session := by
        rw [signingSession]
        revert htaggings
        cases option.withTagging with
        | false => exact fun _ => rfl
        | true => exact (fetchEach_inTurn pos _).later session taggings
      rw [hsession]
      cases option.withUrl with
      | false => rfl
      | true => exact fetchEach_eq_fetchAll pos delay' _ _ _ _

end Store

end BucketStore
