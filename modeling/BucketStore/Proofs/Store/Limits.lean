import BucketStore.Proofs.Enrichment.Lemmas.Files
import BucketStore.Proofs.Store.Lemmas.Fails
import BucketStore.Proofs.Store.Lemmas.Readable

/-!
# Limits of a listing

The three numbers that bound a listing are positive however a store is configured. So no page of a
full listing is refused for its size, no enrichment for the number of its tasks, and a full listing
answers as many files as are wanted, with a warning, or fewer.
-/

namespace BucketStore.Store

open BucketStore.Action

variable {σ : Type}

/-- How a full listing ends: with as many files as are wanted, of which it warns, or with fewer. -/
inductive Ended (s : Store σ) (keyPrefix : Value) (session later : Session σ)
    (files : List FileInfo) : Prop
  | capped (total : Nat) :
      later.warnings = session.warnings ++
        [Log.record .warning loggerName .listMaxObjectsReached
          [("total", .int total), ("prefix", keyPrefix)] none] →
      files.length = s.config.listMaxObjects.val → Ended s keyPrefix session later files
  | whole : later.warnings = session.warnings → files.length < s.config.listMaxObjects.val →
      Ended s keyPrefix session later files

/-- A store keeps to its limits. No enrichment of a listing fails in the way in which a group of
tasks refuses its number, and no full listing in the way in which a page is refused for its size. An
integer that is too long for the report of a failure is all that leads to a failure of that kind. -/
structure KeepsToLimits (s : Store σ) : Prop where
  enriching : ∀ keyPrefix files option,
    FailsWith (fun e => e.typeName = "ValueError" → e = .tooManyDigits)
      (s.enrichListed keyPrefix files option)
  listPaginated : ∀ request? option,
    FailsWith (fun e => e.typeName = "ValueError" → e = .tooManyDigits)
      (s.listPaginated request? option)
  listAll : ∀ pages keyPrefix option,
    FailsWith (fun e => (e.typeName = "ValueError" → e = .tooManyDigits) ∧
      e.typeName ≠ "InvalidArgumentError") (s.listAll pages keyPrefix option)
  most : 1 ≤ s.config.listMaxObjects.val
  ended : ∀ pages keyPrefix option session later files,
    (s.listAll pages keyPrefix option).eval session = (.ok (some files), later) →
    s.Ended keyPrefix session later files

/-! ## Enriching -/

variable (s : Store σ)

theorem tagging_failsWith (key : Value) :
    FailsWith Failure.IsForeseen (s.tagging key) :=
  (during_failsWith _ _).bind fun _ => (Misreads.answerFields _).failsWith.bind fun _ =>
    (Misreads.ofAnswer _).failsWith

theorem signUrl_failsWith (key : Value) (option : GetOption) :
    FailsWith Failure.IsForeseen (s.signUrl key option) :=
  (Misreads.urlLifetime s option).failsWith.bind fun _ => (during_failsWith _ _).bind fun _ =>
    .pure _

section fetching

variable {α : Type} {p : Failure → Prop} {fetch : Value → Action σ α}
  (h : ∀ key, FailsWith p (fetch key))
include h

theorem fetchRound_failsWith (keys : List Value) : FailsWith p (fetchRound fetch keys) := by
  intro session e he
  obtain ⟨outcomes, later, heval, hp⟩ := FailsWith.outcomes h keys session
  rw [fetchRound, eval_bind_ok heval, eval_ofResult] at he
  exact hp e (Result.mem_of_mapM_id_error he)

/-- The number of keys that are fetched at a time is checked, and found to be positive. -/
theorem fetchEach_failsWith {limit : Int} (pos : 0 < limit) (keys : List Value) :
    FailsWith p (fetchEach limit fetch keys) := by
  rw [fetchEach, if_neg (Int.not_le.mpr pos)]
  exact (FailsWith.mapM (fetchRound_failsWith h) _).bind fun _ => .pure _

end fetching

theorem enrich_failsWith (files : List FileInfo) (option : GetOption) :
    FailsWith Failure.IsForeseen
      (enrich (fetchEach s.config.fanoutConcurrency.val s.tagging)
        (fetchEach s.config.fanoutConcurrency.val fun key =>
          s.signUrl key { expire := option.expire }) files option) := by
  have hlimit := s.config.fanoutConcurrency.pos
  refine enrich_of_parts (FailsWith Failure.IsForeseen) .pure .bind ?_ ?_
  · exact fetchEach_failsWith s.tagging_failsWith hlimit
  · exact fun _ => fetchEach_failsWith (fun key => s.signUrl_failsWith key _) hlimit

theorem enrichListed_failsWith (keyPrefix : Value) (files : List FileInfo) (option : GetOption) :
    FailsWith Failure.IsForeseen (s.enrichListed keyPrefix files option) :=
  (s.enrich_failsWith files option).tryCatch fun _ he =>
    passOn_failsWith he (fun _ => .misreading) _ _ _

/-! ## Listing -/

theorem listedFile_failsWith (object : Value) :
    FailsWith Failure.IsForeseen (s.listedFile object) := by
  unfold listedFile
  split
  · refine (Misreads.size _).failsWith.bind fun _ => ?_
    refine (Misreads.isDirectoryMarker _ _).failsWith.bind fun isMarker => ?_
    cases isMarker with
    | true => exact (s.log_failsWith _ _ _).bind fun _ => .pure _
    | false =>
      exact (Misreads.listedTime _).failsWith.bind fun _ =>
        (Misreads.entityTag _).failsWith.bind fun _ => .pure _
  · exact .throw (.misreading (.kind (by decide)))

theorem listPage_failsWith {request : PageRequest} (option : GetOption)
    (hsize : checkPageSize request.pageSize = .ok ()) :
    FailsWith Failure.IsForeseen (s.listPage request option) := by
  rw [s.listPage_eq option hsize]
  refine (during_failsWith _ _).bind fun answer => ?_
  exact (Misreads.answerFields _).failsWith.bind fun _ =>
    (Misreads.pageObjects _).failsWith.bind fun objects =>
      (FailsWith.mapM s.listedFile_failsWith objects).bind fun _ =>
        (s.enrichListed_failsWith _ _ _).bind fun _ => .pure _

theorem listFrom_failsWith (keyPrefix : Value) (option : GetOption) (fuel : Nat) (cursor : Value)
    (listed : List FileInfo) :
    FailsWith Failure.IsForeseen (s.listFrom keyPrefix option fuel cursor listed) := by
  induction fuel generalizing cursor listed with
  | zero => exact .pure none
  | succ fuel ih =>
    have hsize := s.checkPageSize_requestAt keyPrefix cursor
    refine (s.listPage_failsWith option hsize).bind fun page => ?_
    simp only
    split
    · exact (s.log_failsWith _ _ _).bind fun _ => .pure _
    · split
      · exact ih page.cursor _
      · exact .pure _

/-! ## Ends of a full listing -/

variable {s} {keyPrefix : Value} {session mid later : Session σ}

/-- The files that are there when no more are fetched, and what is said of their number. -/
theorem ended_of_stop (h : mid.warnings = session.warnings) (files : List FileInfo) :
    s.Ended keyPrefix session (mid.logged (s.capWarnings keyPrefix files.length))
      (files.take s.config.listMaxObjects.val.toNat) := by
  have hpos := s.config.listMaxObjects.pos
  rw [capWarnings]
  by_cases hmost : s.config.listMaxObjects.val ≤ files.length
  · rw [if_pos hmost]
    refine .capped files.length ?_ ?_
    · rw [Session.warnings_logged (List.forall_mem_singleton.mpr rfl), h]
    · rw [List.length_take]
      omega
  · rw [if_neg hmost, Session.logged_nil]
    refine .whole h ?_
    rw [List.length_take]
    omega

theorem Ended.of_warnings {files : List FileInfo} (hended : s.Ended keyPrefix mid later files)
    (h : mid.warnings = session.warnings) : s.Ended keyPrefix session later files := by
  cases hended with
  | capped total hwarnings hlength => exact .capped total (h ▸ hwarnings) hlength
  | whole hwarnings hlength => exact .whole (hwarnings.trans h) hlength

theorem of_listFrom_ok {option : GetOption} {fuel : Nat} {cursor : Value}
    {listed files : List FileInfo}
    (h : (s.listFrom keyPrefix option fuel cursor listed).eval session =
      (.ok (some files), later)) : s.Ended keyPrefix session later files := by
  induction fuel generalizing cursor listed session with
  | zero => cases h
  | succ fuel ih =>
    cases hpage : (s.listPage (s.requestAt keyPrefix cursor) option).eval session with
    | mk outcome mid =>
      have hmid : mid.warnings = session.warnings := congrArg Prod.snd (watched_of_listPage hpage)
      cases outcome with
      | error e =>
        rw [listFrom_succ_error hpage] at h
        cases h
      | ok page =>
        by_cases hstops : StopsAt s.config.listMaxObjects.val listed.length [page]
        · rw [listFrom_succ_stop hpage hstops, ← List.length_append] at h
          cases h
          exact ended_of_stop hmid (listed ++ page.files)
        · rw [listFrom_succ_goOn hpage hstops] at h
          exact (ih h).of_warnings hmid

/-! ## Limits -/

theorem typeName_of_isForeseen {e : Failure} (h : e.IsForeseen) :
    (e.typeName = "ValueError" → e = .tooManyDigits) ∧ e.typeName ≠ "InvalidArgumentError" := by
  cases h with
  | remote => exact ⟨fun h => absurd h (of_decide_eq_true rfl), of_decide_eq_true rfl⟩
  | misreading h =>
    cases h with
    | tooManyDigits => exact ⟨fun _ => rfl, by decide⟩
    | @kind kind arguments hkind =>
      have hnames : ∀ kind ∈ [Fault.wrongType, .missingAttribute, .missingKey, .overflow],
          kind.name ≠ "ValueError" ∧ kind.name ≠ "InvalidArgumentError" := by decide
      obtain ⟨hvalue, hargument⟩ := hnames kind hkind
      exact ⟨fun h => absurd h hvalue, hargument⟩
  | cancelled h =>
    cases e with
    | fault kind arguments =>
      cases kind with
      | cancelled => exact ⟨fun h => absurd h (of_decide_eq_true rfl), of_decide_eq_true rfl⟩
      | _ => cases h
    | _ => cases h

theorem checkPageSize_error {size : Value} {e : Failure} (h : checkPageSize size = .error e) :
    e.typeName ≠ "ValueError" := by
  unfold checkPageSize at h
  split at h
  · cases h
  · cases h
    exact of_decide_eq_true rfl
  · cases h
    exact of_decide_eq_true rfl

theorem listPaginated_failsWith (s : Store σ) (request? : Option PageRequest) (option : GetOption) :
    FailsWith (fun e => e.typeName = "ValueError" → e = .tooManyDigits)
      (s.listPaginated request? option) := by
  cases request? with
  | none => exact .throw fun h => absurd h (of_decide_eq_true rfl)
  | some request =>
    cases hsize : checkPageSize request.pageSize with
    | error e =>
      rw [listPaginated, listPage, hsize]
      exact .throw fun h => absurd h (checkPageSize_error hsize)
    | ok _ => exact (s.listPage_failsWith option hsize).mono fun _ h => (typeName_of_isForeseen h).1

/-- Every store keeps to its limits, whatever its service does: a configuration has no others than
positive ones. -/
theorem keepsToLimits (s : Store σ) : s.KeepsToLimits where
  enriching keyPrefix files option :=
    (s.enrichListed_failsWith keyPrefix files option).mono fun _ h => (typeName_of_isForeseen h).1
  listPaginated := s.listPaginated_failsWith
  listAll pages keyPrefix option :=
    (s.listFrom_failsWith keyPrefix option pages (.text "") []).mono fun _ => typeName_of_isForeseen
  most := s.config.listMaxObjects.pos
  ended _ _ _ _ _ _ := of_listFrom_ok

end BucketStore.Store
