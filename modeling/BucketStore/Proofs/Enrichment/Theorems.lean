import BucketStore.Proofs.Enrichment.Lemmas.Fetching

/-!
# Theorems on enrichment

What enriching by tasks answers and when its workers run, for every limit and whatever the workers
take: the files in order with what was fetched for each of them, or a failure that comes first and
nothing else.
-/

namespace BucketStore

open Schedule

/-! ## Jobs -/

/-- The jobs that fetch the tags of files. -/
def tagJobs (tag : Nat → Value → Job (Option TagMap)) (files : List FileInfo) :
    List (Job (Option TagMap)) :=
  (files.map fun f => f.key).mapIdx tag

/-- The jobs that sign the URLs of files. -/
def signJobs (sign : Nat → Value → Value → Job Value) (option : GetOption)
    (files : List FileInfo) : List (Job Value) :=
  (files.map fun f => f.key).mapIdx fun i key => sign i key option.expire

variable {limit : Int} {tag : Nat → Value → Job (Option TagMap)}
  {sign : Nat → Value → Value → Job Value} {files : List FileInfo} {option : GetOption}

/-! ## Without failures -/

/-- If no worker that is asked for fails, the files are answered in order, each with what its own
workers answered and otherwise as it was. Each of these workers ran once for each file, in order, by
a greedy schedule, and all those for the tags had ended before the first one for a URL started. -/
theorem enrichByTasks_ok (pos : 0 < limit) {tags : Nat → Value → Option TagMap}
    {url : Nat → Value → Value}
    (htags : option.withTagging = true → ∀ i f, files[i]? = some f →
      (tag i f.key).outcome = .ok (tags i f.key))
    (hurl : option.withUrl = true → ∀ i f, files[i]? = some f →
      (sign i f.key option.expire).outcome = .ok (url i f.key)) :
    ∃ report base, (enrichByTasks (.int limit) tag sign files option).eval {} =
        (.ok (files.mapIdx fun i f => f.enriched option (tags i f.key) (url i f.key)), report) ∧
      report.tagging.RanIf option.withTagging limit.toNat 0 (files.map fun f => f.key)
        (tagJobs tag files) ∧
      report.signing.RanIf option.withUrl limit.toNat base (files.map fun f => f.key)
        (signJobs sign option files) ∧
      ∀ a ∈ report.tagging.spans, ∀ b ∈ report.signing.spans, a.stop ≤ b.start := by
  obtain ⟨report, base, heval, htag, hstop, hsign⟩ := eval_enrichByTasks_ok pos htags hurl
  refine ⟨report, base, heval, htag, hsign, fun a ha b hb => ?_⟩
  exact Nat.le_trans (hstop a ha) (hsign.base_le b hb)

/-- Three files, two of which have the same key. -/
def twins : List FileInfo :=
  [{ key := .text "a", size := .int 1 }, { key := .text "a", size := .int 2 }, { key := .text "b" }]

/-- Everything, with URLs that are good for a minute. -/
def everything : GetOption where
  withTagging := true
  withUrl := true
  expire := .int 60

/-- The last worker for the tags is the first to end. -/
theorem enrichByTasks_ok_twins :
    (0 : Int) < 2 ∧ ∃ report,
      (enrichByTasks (.int 2) (fun i key => ⟨9 - 4 * i, .ok (some [(key, .int i)])⟩)
        (fun i key expire => ⟨i, .ok (.list [key, expire])⟩) twins everything).eval {} =
      (.ok
        [{ key := .text "a", size := .int 1, tagging := some [(.text "a", .int 0)],
           url := .list [.text "a", .int 60] },
         { key := .text "a", size := .int 2, tagging := some [(.text "a", .int 1)],
           url := .list [.text "a", .int 60] },
         { key := .text "b", tagging := some [(.text "b", .int 2)],
           url := .list [.text "b", .int 60] }], report) ∧
      report.taggingKeys = [.text "a", .text "a", .text "b"] ∧
      ∀ a ∈ report.tagging.spans, ∀ b ∈ report.signing.spans, a.stop ≤ b.start := by
  have hpos : (0 : Int) < 2 := by decide
  obtain ⟨report, base, heval, htags, -, hafter⟩ :=
    @enrichByTasks_ok 2 (fun i key => ⟨9 - 4 * i, .ok (some [(key, .int i)])⟩)
      (fun i key expire => ⟨i, .ok (.list [key, expire])⟩) twins everything hpos
      (fun i key => some [(key, .int i)]) (fun _ key => .list [key, .int 60])
      (fun _ _ _ _ => rfl) (fun _ _ _ _ => rfl)
  exact ⟨hpos, report, heval, WorkReport.Ran.keys htags, hafter⟩

/-! ## With failures -/

/-- A worker that is asked for fails. -/
def SomeFails {α : Type} (asked : Bool) (jobs : List (Job α)) : Prop :=
  asked = true ∧ ∃ job ∈ jobs, job.failure?.isSome

theorem failure?_of_not_someFails {α : Type} {asked : Bool} {jobs : List (Job α)}
    (h : ¬ SomeFails asked jobs) (hasked : asked = true) : ∀ j ∈ jobs, j.failure? = none := by
  intro j hj
  rw [← Option.not_isSome_iff_eq_none]
  exact fun hfails => h ⟨hasked, j, hj, hfails⟩

/-- If a worker that is asked for fails, enriching fails and answers no files. If one for the tags
does, the failure is a first one among these and no worker for a URL is started. Otherwise it is a
first one among those for the URLs, which start when all those for the tags have ended. -/
theorem enrichByTasks_fails (pos : 0 < limit)
    (hfails : SomeFails option.withTagging (tagJobs tag files) ∨
      SomeFails option.withUrl (signJobs sign option files)) :
    ∃ e report, (enrichByTasks (.int limit) tag sign files option).eval {} = (.error e, report) ∧
      (SomeFails option.withTagging (tagJobs tag files) →
        FailsFirst limit.toNat 0 (tagJobs tag files) e ∧ report.signing.spans = []) ∧
      (¬ SomeFails option.withTagging (tagJobs tag files) →
        ∃ base, FailsFirst limit.toNat base (signJobs sign option files) e ∧
          ∀ span ∈ report.tagging.spans, span.stop ≤ base) := by
  have hfiles : files ≠ [] := by
    rintro rfl
    obtain ⟨-, _, hjob, -⟩ | ⟨-, _, hjob, -⟩ := hfails <;> cases hjob
  have hmore : option.asksMore = true := by
    rw [GetOption.asksMore, Bool.or_eq_true]
    exact hfails.imp And.left And.left
  rw [enrichByTasks, enrich_eq_bind hfiles hmore]
  by_cases htagFails : SomeFails option.withTagging (tagJobs tag files)
  · obtain ⟨e, work, clock, heval, hfirst⟩ := fetchAll_fails pos htagFails.2 .noteTagging {}
    refine ⟨e, .noteTagging work { clock := clock }, ?_, fun _ => ⟨hfirst, rfl⟩,
      fun h => absurd htagFails h⟩
    rw [if_pos htagFails.1, Fetch.eval_bind_error heval]
  · have hsignFails := hfails.resolve_left htagFails
    obtain ⟨taggings, mid, htagging, htagged⟩ := eval_asked pos (files.map fun f => f.tagging)
      (failure?_of_not_someFails htagFails) {}
    obtain ⟨e, work, clock, heval, hfirst⟩ := fetchAll_fails pos hsignFails.2 .noteSigning mid
    refine ⟨e, .noteSigning work { mid with clock := clock }, ?_, fun h => absurd h htagFails,
      fun _ => ⟨mid.clock, hfirst, htagged.stop_le⟩⟩
    rw [Fetch.eval_bind_ok htagging, if_pos hsignFails.1, Fetch.eval_bind_error heval]

/-- A worker for tags that fails, the sooner the later its file stands. -/
def impatient (i : Nat) (_ : Value) : Job (Option TagMap) where
  delay := 9 - 4 * i
  outcome := .error (if i = 0 then .timedOut else .wrongType)

theorem enrichByTasks_fails_twins :
    (0 : Int) < 2 ∧ SomeFails everything.withTagging (tagJobs impatient twins) ∧ ∃ report,
      (enrichByTasks (.int 2) impatient (fun _ key _ => ⟨0, .ok key⟩) twins everything).eval {} =
        (.error .wrongType, report) ∧
      FailsFirst 2 0 (tagJobs impatient twins) .wrongType ∧ report.signing.spans = [] := by
  have hpos : (0 : Int) < 2 := by decide
  have hfails : SomeFails everything.withTagging (tagJobs impatient twins) :=
    ⟨rfl, _, List.mem_cons_self, rfl⟩
  obtain ⟨e, report, heval, htags, -⟩ :=
    @enrichByTasks_fails 2 impatient (fun _ key _ => ⟨0, .ok key⟩) twins everything hpos
      (.inl hfails)
  obtain ⟨hfirst, hspans⟩ := htags hfails
  have he : (.error .wrongType : Result (List FileInfo)) = .error e := congrArg Prod.fst heval
  cases he
  exact ⟨hpos, hfails, report, heval, hfirst, hspans⟩

end BucketStore
