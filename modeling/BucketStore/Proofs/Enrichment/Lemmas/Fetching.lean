import BucketStore.Proofs.Enrichment.Lemmas.Files
import BucketStore.Proofs.TaskGroup.Lemmas.History
import BucketStore.Proofs.TaskGroup.Lemmas.Scheduled

/-!
# Fetching by tasks

What a bounded group fetches for a list of keys and what it reports: if no job fails, the values in
the order of the keys, with a span for each of them as a greedy schedule has it; else a failure that
comes first.
-/

namespace BucketStore

/-! ## Spans -/

theorem Span.ofTask?_taskAt {α : Type} {s : Slot α} {now : Nat} (h : s.start ≤ now) (key : Value) :
    Span.ofTask? now key (s.taskAt now) = some ⟨key, s.start, s.stop⟩ := by
  rw [Slot.taskAt_of_le h]
  by_cases hrun : now < s.stop
  · rw [if_pos hrun]
    rfl
  · rw [if_neg hrun]
    unfold Task.settledPhase
    cases s.job.outcome <;> rfl

/-- The spans of jobs that run for keys by a schedule. -/
def spansOf {α : Type} (keys : List Value) (slots : List (Slot α)) : List Span :=
  List.zipWith (fun key s => ⟨key, s.start, s.stop⟩) keys slots

theorem mem_spansOf {α : Type} {keys : List Value} {slots : List (Slot α)} {span : Span}
    (h : span ∈ spansOf keys slots) : ∃ s ∈ slots, span.start = s.start ∧ span.stop = s.stop := by
  induction slots generalizing keys with
  | nil => cases keys <;> cases h
  | cons s slots ih =>
      cases keys with
      | nil => cases h
      | cons key keys =>
          rcases List.mem_cons.mp h with rfl | h
          · exact ⟨s, List.mem_cons_self, rfl, rfl⟩
          · obtain ⟨t, ht, heq⟩ := ih h
            exact ⟨t, List.mem_cons_of_mem s ht, heq⟩

theorem map_key_spansOf {α : Type} {keys : List Value} {slots : List (Slot α)}
    (h : slots.length = keys.length) : (spansOf keys slots).map Span.key = keys := by
  induction slots generalizing keys with
  | nil =>
      rw [List.eq_nil_of_length_eq_zero h.symm]
      rfl
  | cons s slots ih =>
      cases keys with
      | nil => cases h
      | cons key keys => exact congrArg (key :: ·) (ih (Nat.succ.inj h))

theorem pairwise_spansOf {α : Type} {slots : List (Slot α)}
    (h : slots.Pairwise fun s t => s.start ≤ t.start) (keys : List Value) :
    (spansOf keys slots).Pairwise fun a b => a.start ≤ b.start := by
  induction slots generalizing keys with
  | nil => cases keys <;> exact .nil
  | cons s slots ih =>
      obtain ⟨hs, hslots⟩ := List.pairwise_cons.mp h
      cases keys with
      | nil => exact .nil
      | cons key keys =>
          refine List.pairwise_cons.mpr ⟨fun b hb => ?_, ih hslots keys⟩
          obtain ⟨t, ht, hstart, -⟩ := mem_spansOf hb
          rw [hstart]
          exact hs t ht

theorem spans_ofGroup {α : Type} {base : Nat} {slots : List (Slot α)} {g : TaskGroup α}
    (h : g.OnSchedule base slots) (hstop : ∀ s ∈ slots, s.stop ≤ g.clock) (keys : List Value) :
    (WorkReport.ofGroup keys g).spans = spansOf keys slots := by
  simp only [WorkReport.ofGroup, h.tasks]
  clear h
  induction slots generalizing keys with
  | nil => cases keys <;> rfl
  | cons s slots ih =>
      obtain ⟨hs, hslots⟩ := List.forall_mem_cons.mp hstop
      cases keys with
      | nil => rfl
      | cons key keys =>
          have hspan := Span.ofTask?_taskAt (Nat.le_trans s.start_le_stop hs) key
          simp only [List.map_cons, List.zip_cons_cons, List.filterMap_cons, hspan, ih hslots keys]
          rfl

/-- Workers ran for keys by a greedy schedule of their jobs: one for each key, in order. -/
structure WorkReport.Ran {α : Type} (limit base : Nat) (keys : List Value) (jobs : List (Job α))
    (work : WorkReport) : Prop where
  scheduled : ∃ slots : List (Slot α), slots.map Slot.job = jobs ∧
    Schedule.Greedy limit base slots ∧ work.spans = spansOf keys slots
  keys : work.spans.map Span.key = keys
  order : work.spans.Pairwise fun a b => a.start ≤ b.start

theorem WorkReport.Ran.of_scheduled {α : Type} {limit base : Nat} {keys : List Value}
    {jobs : List (Job α)} {slots : List (Slot α)} {work : WorkReport}
    (hjobs : slots.map Slot.job = jobs) (hgreedy : Schedule.Greedy limit base slots)
    (hspans : work.spans = spansOf keys slots) (hlength : jobs.length = keys.length) :
    work.Ran limit base keys jobs := by
  refine ⟨⟨slots, hjobs, hgreedy, hspans⟩, ?_, ?_⟩
  · rw [hspans, map_key_spansOf]
    rw [← hlength, ← hjobs, List.length_map]
  · rw [hspans]
    exact pairwise_spansOf hgreedy.pairwise_start keys

theorem WorkReport.Ran.base_le {α : Type} {limit base : Nat} {keys : List Value}
    {jobs : List (Job α)} {work : WorkReport} (h : work.Ran limit base keys jobs) :
    ∀ span ∈ work.spans, base ≤ span.start := by
  obtain ⟨slots, -, hgreedy, hspans⟩ := h.scheduled
  intro span hspan
  rw [hspans] at hspan
  obtain ⟨s, hs, hstart, -⟩ := mem_spansOf hspan
  rw [hstart]
  exact hgreedy.base_le hs

/-- The workers of one kind ran if they were asked for, and else none did. -/
def WorkReport.RanIf {α : Type} (asked : Bool) (limit base : Nat) (keys : List Value)
    (jobs : List (Job α)) (work : WorkReport) : Prop :=
  if asked then work.Ran limit base keys jobs else work.spans = []

theorem WorkReport.RanIf.nil {α : Type} (asked : Bool) (limit base : Nat) :
    WorkReport.RanIf asked limit base [] ([] : List (Job α)) {} := by
  cases asked with
  | false => exact rfl
  | true => exact ⟨⟨[], rfl, .nil, rfl⟩, rfl, .nil⟩

theorem WorkReport.RanIf.base_le {α : Type} {asked : Bool} {limit base : Nat} {keys : List Value}
    {jobs : List (Job α)} {work : WorkReport} (h : work.RanIf asked limit base keys jobs) :
    ∀ span ∈ work.spans, base ≤ span.start := by
  cases asked with
  | false =>
      intro span hspan
      rw [show work.spans = [] from h] at hspan
      cases hspan
  | true => exact Ran.base_le h

/-! ## Running a fetch -/

namespace Fetch

variable {α β : Type}

/-- What a fetch answers from a report on, and the report after it. -/
def eval (fetch : Fetch α) (report : FetchReport) : Result α × FetchReport :=
  StateT.run (ExceptT.run fetch) report

theorem eval_bind_ok {fetch : Fetch α} {report later : FetchReport} {a : α}
    (h : fetch.eval report = (.ok a, later)) (next : α → Fetch β) :
    (fetch >>= next).eval report = (next a).eval later := by
  unfold eval at h
  simp only [eval, ExceptT.run_bind, StateT.run_bind, h]
  rfl

theorem eval_bind_error {fetch : Fetch α} {report later : FetchReport} {e : Failure}
    (h : fetch.eval report = (.error e, later)) (next : α → Fetch β) :
    (fetch >>= next).eval report = (.error e, later) := by
  unfold eval at h
  simp only [eval, ExceptT.run_bind, StateT.run_bind, h]
  rfl

end Fetch

/-! ## One kind of worker -/

section fetchAll

variable {α : Type} {limit : Int} {job : Nat → Value → Job α}
  {note : WorkReport → FetchReport → FetchReport} {keys : List Value}

open Schedule TaskGroup

theorem TaskGroup.ofValue_int (pos : 0 < limit) :
    (ofValue (.int limit) : Result (TaskGroup α)) = new limit := by
  simp [ofValue, Value.isPositive?, Value.key?, pos]

/-- The group of a fetch runs to its end on schedule, from the time of the report on. -/
theorem eval_fetchAll (pos : 0 < limit) (job : Nat → Value → Job α)
    (note : WorkReport → FetchReport → FetchReport) (keys : List Value) (report : FetchReport) :
    ∃ slots g r later, slots.map Slot.job = keys.mapIdx job ∧
      Greedy limit.toNat report.clock slots ∧ OnSchedule report.clock slots g ∧
      WaitEnds slots g (r, later) ∧
      (fetchAll (.int limit) job note keys).eval report =
        (r, note (.ofGroup keys later) { report with clock := later.clock }) := by
  obtain ⟨g, hnew, hlimit, hempty, -⟩ := new_of_pos (α := α) pos
  obtain ⟨slots, k, hjobs, hgreedy, hk, hends⟩ :=
    @runAll_ends _ { g with clock := report.clock } hempty (keys.mapIdx job)
  cases hrun : { g with clock := report.clock }.runAll (keys.mapIdx job) with
  | mk r later =>
      rw [hrun] at hends
      refine ⟨slots, k, r, later, hjobs, by rwa [← hlimit, Int.toNat_natCast], hk, hends, ?_⟩
      rw [fetchAll, ofValue_int pos, hnew]
      simp only [Fetch.eval, ExceptT.run_mk, StateT.run]
      rw [hrun]

theorem fetchAll_ok (pos : 0 < limit) (hok : ∀ j ∈ keys.mapIdx job, j.failure? = none)
    (report : FetchReport) :
    ∃ vs work clock, (fetchAll (.int limit) job note keys).eval report =
        (.ok vs, note work { report with clock := clock }) ∧
      (keys.mapIdx job).map Job.outcome = vs.map .ok ∧
      work.Ran limit.toNat report.clock keys (keys.mapIdx job) ∧
      ∀ span ∈ work.spans, span.stop ≤ clock := by
  obtain ⟨slots, g, r, later, hjobs, hgreedy, hg, hends, heval⟩ :=
    eval_fetchAll pos job note keys report
  cases hends with
  | done hstop hvalues =>
      have hspans := spans_ofGroup hg hstop keys
      refine ⟨_, _, _, heval, ?_, .of_scheduled hjobs hgreedy hspans List.length_mapIdx, ?_⟩
      · rw [← hjobs, List.map_map]
        exact hvalues
      · intro span hspan
        rw [hspans] at hspan
        obtain ⟨s, hs, -, hspan⟩ := mem_spansOf hspan
        rw [hspan]
        exact hstop s hs
  | failed _ hs he _ =>
      rw [hok _ (hjobs ▸ List.mem_map_of_mem hs)] at he
      cases he

theorem fetchAll_fails (pos : 0 < limit)
    (hfails : ∃ failing ∈ keys.mapIdx job, failing.failure?.isSome)
    (note : WorkReport → FetchReport → FetchReport) (report : FetchReport) :
    ∃ e work clock, (fetchAll (.int limit) job note keys).eval report =
        (.error e, note work { report with clock := clock }) ∧
      FailsFirst limit.toNat report.clock (keys.mapIdx job) e := by
  obtain ⟨slots, g, r, later, hjobs, hgreedy, hg, hends, heval⟩ :=
    eval_fetchAll pos job note keys report
  cases r with
  | error e => exact ⟨e, _, _, heval, hjobs ▸ hends.failsFirst hg hgreedy⟩
  | ok vs =>
      obtain ⟨failing, hmem, hfails⟩ := hfails
      rw [← hjobs] at hmem
      obtain ⟨s, hs, rfl⟩ := List.mem_map.mp hmem
      cases hends with
      | done _ hvalues =>
          have hmem := List.mem_map_of_mem (f := fun s : Slot α => s.job.outcome) hs
          rw [hvalues] at hmem
          obtain ⟨v, -, hv⟩ := List.mem_map.mp hmem
          rw [Job.failure?, ← hv] at hfails
          cases hfails

/-- How a fetch that is only made if it is asked for succeeds: with the values of the jobs or with
the given ones, and with a report on what ran. -/
inductive Fetched (limit : Nat) (job : Nat → Value → Job α)
    (note : WorkReport → FetchReport → FetchReport) (keys : List Value) (own : List α)
    (report : FetchReport) : Bool → List α → FetchReport → Prop
  | unasked : Fetched limit job note keys own report false own report
  | asked {vs : List α} {work : WorkReport} {clock : Nat} :
      (keys.mapIdx job).map Job.outcome = vs.map .ok →
      work.Ran limit report.clock keys (keys.mapIdx job) →
      (∀ span ∈ work.spans, span.stop ≤ clock) →
      Fetched limit job note keys own report true vs (note work { report with clock := clock })

theorem eval_asked (pos : 0 < limit) {asked : Bool} (own : List α)
    (hok : asked = true → ∀ j ∈ keys.mapIdx job, j.failure? = none) (report : FetchReport) :
    ∃ vs later,
      (if asked then fetchAll (.int limit) job note keys else pure own).eval report =
        (.ok vs, later) ∧
      Fetched limit.toNat job note keys own report asked vs later := by
  cases asked with
  | false => exact ⟨own, report, rfl, .unasked⟩
  | true =>
      obtain ⟨vs, work, clock, heval, houtcomes, hran, hstop⟩ :=
        @fetchAll_ok _ _ _ note _ pos (hok rfl) report
      exact ⟨vs, _, heval, .asked houtcomes hran hstop⟩

theorem FileInfo.outcome_of_key {α : Type} {files : List FileInfo} {job : Nat → Value → Job α}
    {values : Nat → Value → α}
    (h : ∀ i f, files[i]? = some f → (job i f.key).outcome = .ok (values i f.key)) :
    ∀ i key, (files.map fun f => f.key)[i]? = some key →
      (job i key).outcome = .ok (values i key) := by
  intro i key hkey
  rw [List.getElem?_map, Option.map_eq_some_iff] at hkey
  obtain ⟨f, hf, rfl⟩ := hkey
  exact h i f hf

theorem failure?_of_values {values : Nat → Value → α}
    (hvalues : ∀ i key, keys[i]? = some key → (job i key).outcome = .ok (values i key)) :
    ∀ j ∈ keys.mapIdx job, j.failure? = none := by
  intro j hj
  obtain ⟨i, hi, rfl⟩ := List.mem_mapIdx.mp hj
  rw [Job.failure?, hvalues i _ (List.getElem?_eq_getElem hi)]

theorem eq_mapIdx_of_outcomes {values : Nat → Value → α} {vs : List α}
    (h : (keys.mapIdx job).map Job.outcome = vs.map .ok)
    (hvalues : ∀ i key, keys[i]? = some key → (job i key).outcome = .ok (values i key)) :
    vs = keys.mapIdx values := by
  have houtcomes : (keys.mapIdx job).map Job.outcome = (keys.mapIdx values).map .ok := by
    refine List.ext_getElem? fun i => ?_
    simp only [List.getElem?_map, List.getElem?_mapIdx, Option.map_map]
    cases hkey : keys[i]? with
    | none => rfl
    | some key => exact congrArg some (hvalues i key hkey)
  exact (List.map_injective_iff.mpr fun _ _ => Except.ok.inj) (h.symm.trans houtcomes)

/-- A fetch for the keys of files answers a value for each file: what its job answered or, unless
that is asked for, its own. -/
theorem Fetched.eq_mapIdx {limit : Nat} {files : List FileInfo} {g : FileInfo → α}
    {report later : FetchReport} {asked : Bool} {vs : List α} {values : Nat → Value → α}
    (h : Fetched limit job note (files.map fun f => f.key) (files.map g) report asked vs later)
    (hvalues : asked = true → ∀ i f, files[i]? = some f →
      (job i f.key).outcome = .ok (values i f.key)) :
    vs = files.mapIdx fun i f => if asked then values i f.key else g f := by
  cases h with
  | unasked =>
      refine List.ext_getElem? fun i => ?_
      rw [List.getElem?_map, List.getElem?_mapIdx]
      rfl
  | asked houtcomes =>
      have hkeys := FileInfo.outcome_of_key (hvalues rfl)
      rw [eq_mapIdx_of_outcomes houtcomes hkeys, mapIdx_map]
      rfl

theorem Fetched.stop_le {limit : Nat} {own vs : List α} {asked : Bool} {later : FetchReport}
    (h : Fetched limit job .noteTagging keys own {} asked vs later) :
    ∀ span ∈ later.tagging.spans, span.stop ≤ later.clock := by
  cases h with
  | unasked => exact nofun
  | asked _ _ hstop => exact hstop

/-- The workers for the tags run from the start, and those for the URLs when they are done. -/
theorem Fetched.ranIf {β : Type} {limit : Nat} {sign : Nat → Value → Job β} {own vs : List α}
    {others us : List β} {askedTags askedUrls : Bool} {mid later : FetchReport}
    (htagged : Fetched limit job .noteTagging keys own {} askedTags vs mid)
    (hsigned : Fetched limit sign .noteSigning keys others mid askedUrls us later) :
    later.tagging = mid.tagging ∧
      later.tagging.RanIf askedTags limit 0 keys (keys.mapIdx job) ∧
      later.signing.RanIf askedUrls limit mid.clock keys (keys.mapIdx sign) := by
  cases htagged with
  | unasked =>
      cases hsigned with
      | unasked => exact ⟨rfl, rfl, rfl⟩
      | asked _ hran _ => exact ⟨rfl, rfl, hran⟩
  | asked _ htags _ =>
      cases hsigned with
      | unasked => exact ⟨rfl, htags, rfl⟩
      | asked _ hran _ => exact ⟨rfl, htags, hran⟩

end fetchAll

/-! ## Both kinds of workers -/

theorem eval_enrichByTasks_ok {limit : Int} {tag : Nat → Value → Job (Option TagMap)}
    {sign : Nat → Value → Value → Job Value} {files : List FileInfo} {option : GetOption}
    (pos : 0 < limit) {tags : Nat → Value → Option TagMap} {url : Nat → Value → Value}
    (htags : option.withTagging = true → ∀ i f, files[i]? = some f →
      (tag i f.key).outcome = .ok (tags i f.key))
    (hurl : option.withUrl = true → ∀ i f, files[i]? = some f →
      (sign i f.key option.expire).outcome = .ok (url i f.key)) :
    ∃ report base, (enrichByTasks (.int limit) tag sign files option).eval {} =
        (.ok (files.mapIdx fun i f => f.enriched option (tags i f.key) (url i f.key)), report) ∧
      report.tagging.RanIf option.withTagging limit.toNat 0 (files.map fun f => f.key)
        ((files.map fun f => f.key).mapIdx tag) ∧
      (∀ span ∈ report.tagging.spans, span.stop ≤ base) ∧
      report.signing.RanIf option.withUrl limit.toNat base (files.map fun f => f.key)
        ((files.map fun f => f.key).mapIdx fun i key => sign i key option.expire) := by
  by_cases hnothing : files = [] ∨ option.asksMore = false
  · rw [enrichByTasks, enrich_of_nothing hnothing]
    refine ⟨{}, 0, ?_⟩
    rcases hnothing with rfl | hmore
    · exact ⟨rfl, .nil _ _ _, nofun, .nil _ _ _⟩
    · rw [FileInfo.mapIdx_enriched_of_not_asksMore hmore]
      rw [GetOption.asksMore, Bool.or_eq_false_iff] at hmore
      rw [hmore.1, hmore.2]
      exact ⟨rfl, rfl, nofun, rfl⟩
  · rw [not_or, Bool.not_eq_false] at hnothing
    obtain ⟨hfiles, hmore⟩ := hnothing
    obtain ⟨taggings, mid, htagging, htagged⟩ := eval_asked pos (files.map fun f => f.tagging)
      (fun h => failure?_of_values (FileInfo.outcome_of_key (htags h))) {}
    obtain ⟨urls, later, hsigning, hsigned⟩ := eval_asked pos (files.map fun f => f.url)
      (fun h => failure?_of_values (@FileInfo.outcome_of_key _ _
        (fun i key => sign i key option.expire) _ (hurl h))) mid
    obtain ⟨hsame, htag, hsign⟩ := htagged.ranIf hsigned
    refine ⟨later, mid.clock, ?_, htag, hsame ▸ htagged.stop_le, hsign⟩
    rw [enrichByTasks, enrich_eq_bind hfiles hmore, Fetch.eval_bind_ok htagging,
      Fetch.eval_bind_ok hsigning, htagged.eq_mapIdx htags, hsigned.eq_mapIdx hurl,
      FileInfo.assemble_mapIdx]
    rfl

end BucketStore
