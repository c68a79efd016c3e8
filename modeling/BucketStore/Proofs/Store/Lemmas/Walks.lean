import BucketStore.Proofs.Store.Lemmas.Effects

/-!
# Full listings as walks

A full listing does one step of a walk at a time, so a walk is taken apart into its first page and
the walk from that page's cursor on.
-/

namespace BucketStore

open BucketStore.Action

variable {σ : Type}

/-! ## Sessions -/

@[simp]
theorem Session.logged_nil (session : Session σ) : session.logged [] = session := by
  simp [Session.logged]

theorem Session.logged_singleton (session : Session σ) (r : Log.Record) :
    session.logged [r] = { session with records := session.records.push r } := by
  simp [Session.logged]

theorem Session.warnings_logged {session : Session σ} {rs : List Log.Record}
    (h : ∀ r ∈ rs, r.level = .warning) :
    (session.logged rs).warnings = session.warnings ++ rs := by
  simp only [Session.warnings, Session.logged, Array.toList_append, List.filter_append]
  rw [List.filter_eq_self.mpr fun r hr => decide_eq_true (h r hr)]

/-! ## Stops -/

@[simp]
theorem filesOf_nil : filesOf [] = [] :=
  rfl

@[simp]
theorem filesOf_cons (page : Page) (pages : List Page) :
    filesOf (page :: pages) = page.files ++ filesOf pages :=
  rfl

theorem StopsAt.singleton_iff {most : Int} {kept : Nat} {page : Page} :
    StopsAt most kept [page] ↔
      most ≤ (kept + page.files.length : Nat) ∨ page.hasMore = false := by
  simp only [StopsAt, filesOf_cons, filesOf_nil, List.append_nil, List.getLast?_singleton,
    Option.some.injEq, exists_eq_left', Page.hasMore, Bool.and_eq_false_iff]

theorem StopsAt.cons_iff {most : Int} {kept : Nat} {page : Page} {pages : List Page}
    (hne : pages ≠ []) :
    StopsAt most kept (page :: pages) ↔ StopsAt most (kept + page.files.length) pages := by
  obtain ⟨next, rest, rfl⟩ := List.exists_cons_of_ne_nil hne
  simp [StopsAt, Nat.add_assoc, List.getLast?_cons_cons]

namespace Store

/-! ## Pages by cursor -/

variable {s : Store σ} {keyPrefix cursor : Value} {option : GetOption} {session mid later : Session σ}

theorem pagesFrom_succ_ok {page : Page}
    (h : (s.listPage (s.requestAt keyPrefix cursor) option).eval session = (.ok page, mid))
    (n : Nat) :
    (s.pagesFrom keyPrefix option (n + 1) cursor).eval session =
      (((s.pagesFrom keyPrefix option n page.cursor).eval mid).1.map (page :: ·),
        ((s.pagesFrom keyPrefix option n page.cursor).eval mid).2) := by
  rw [pagesFrom, listPaginated, eval_bind_ok h, eval_bind]
  split
  · rename_i pages later heq
    rw [heq]
    rfl
  · rename_i e later heq
    rw [heq]
    rfl

theorem pagesFrom_succ_error {e : Failure}
    (h : (s.listPage (s.requestAt keyPrefix cursor) option).eval session = (.error e, mid))
    (n : Nat) :
    (s.pagesFrom keyPrefix option (n + 1) cursor).eval session = (.error e, mid) := by
  rw [pagesFrom, listPaginated, eval_bind_error h]

theorem of_pagesFrom_succ {n : Nat} {pages : List Page}
    (h : (s.pagesFrom keyPrefix option (n + 1) cursor).eval session = (.ok pages, later)) :
    ∃ page mid rest,
      (s.listPage (s.requestAt keyPrefix cursor) option).eval session = (.ok page, mid) ∧
      (s.pagesFrom keyPrefix option n page.cursor).eval mid = (.ok rest, later) ∧
      pages = page :: rest := by
  cases hpage : (s.listPage (s.requestAt keyPrefix cursor) option).eval session with
  | mk r mid =>
      cases r with
      | error e =>
          rw [pagesFrom_succ_error hpage] at h
          cases h
      | ok page =>
          rw [pagesFrom_succ_ok hpage] at h
          cases hrest : (s.pagesFrom keyPrefix option n page.cursor).eval mid with
          | mk r last =>
              rw [hrest] at h
              cases r with
              | error e => cases h
              | ok rest =>
                  cases h
                  exact ⟨page, mid, rest, rfl, hrest, rfl⟩

theorem length_of_pagesFrom {n : Nat} {pages : List Page}
    (h : (s.pagesFrom keyPrefix option n cursor).eval session = (.ok pages, later)) :
    pages.length = n := by
  induction n generalizing cursor session pages with
  | zero =>
      cases h
      rfl
  | succ n ih =>
      obtain ⟨page, mid, rest, -, hrest, rfl⟩ := of_pagesFrom_succ h
      rw [List.length_cons, ih hrest]

theorem checkPageSize_requestAt (s : Store σ) (keyPrefix cursor : Value) :
    checkPageSize (s.requestAt keyPrefix cursor).pageSize = .ok () := by
  simp [checkPageSize, requestAt, Value.isPositive?, s.config.listPageSize.pos]

theorem watched_of_listPage {r : Result Page}
    (h : (s.listPage (s.requestAt keyPrefix cursor) option).eval session = (r, mid)) :
    mid.watched =
      (session.listCalls ++ s.pageCalls keyPrefix [cursor], session.warnings) := by
  have hpage := s.listPage_watched option session (s.checkPageSize_requestAt keyPrefix cursor)
  rw [h] at hpage
  exact hpage

/-! ## Steps of a full listing -/

theorem eval_log_warning (message : LogMessage) (fields : Fields) :
    (s.log .warning message fields).eval session =
      (.ok (), session.logged [Log.record .warning loggerName message fields none]) := by
  rw [Session.logged_singleton]
  exact eval_log _ session

theorem listFrom_succ_error {e : Failure}
    (h : (s.listPage (s.requestAt keyPrefix cursor) option).eval session = (.error e, mid))
    (fuel : Nat) (listed : List FileInfo) :
    (s.listFrom keyPrefix option (fuel + 1) cursor listed).eval session = (.error e, mid) :=
  eval_bind_error h _

theorem listFrom_succ_stop {page : Page} {listed : List FileInfo}
    (h : (s.listPage (s.requestAt keyPrefix cursor) option).eval session = (.ok page, mid))
    (hstops : StopsAt s.config.listMaxObjects.val listed.length [page]) (fuel : Nat) :
    (s.listFrom keyPrefix option (fuel + 1) cursor listed).eval session =
      (.ok (some ((listed ++ page.files).take s.config.listMaxObjects.val.toNat)),
        mid.logged (s.capWarnings keyPrefix (listed.length + page.files.length))) := by
  refine (eval_bind_ok h _).trans ?_
  rw [StopsAt.singleton_iff] at hstops
  simp only [capWarnings, List.length_append]
  by_cases hmost : s.config.listMaxObjects.val ≤ (listed.length + page.files.length : Nat)
  · rw [if_pos hmost, if_pos hmost, eval_bind_ok (eval_log_warning _ _)]
    rfl
  · rw [if_neg hmost, if_neg hmost, if_neg (by simpa using hstops.resolve_left hmost)]
    rw [List.take_of_length_le (by rw [List.length_append]; omega), Session.logged_nil]
    rfl

theorem listFrom_succ_goOn {page : Page} {listed : List FileInfo}
    (h : (s.listPage (s.requestAt keyPrefix cursor) option).eval session = (.ok page, mid))
    (hgo : ¬ StopsAt s.config.listMaxObjects.val listed.length [page]) (fuel : Nat) :
    (s.listFrom keyPrefix option (fuel + 1) cursor listed).eval session =
      (s.listFrom keyPrefix option fuel page.cursor (listed ++ page.files)).eval mid := by
  refine (eval_bind_ok h _).trans ?_
  rw [StopsAt.singleton_iff, not_or, Bool.not_eq_false] at hgo
  simp only [List.length_append]
  rw [if_neg hgo.1, if_pos hgo.2]

theorem endWarnings_level {kept : Nat} {outcome : Result (List Page)} {r : Log.Record}
    (hr : r ∈ s.endWarnings keyPrefix kept outcome) : r.level = .warning := by
  cases outcome with
  | error e => cases hr
  | ok pages =>
      simp only [endWarnings, capWarnings] at hr
      split at hr
      · rw [List.mem_singleton.mp hr]
        rfl
      · cases hr

/-! ## The first page of a walk -/

namespace Walk

variable {kept : Nat} {before : List Page} {outcome : Result (List Page)}

theorem of_nil (walk : s.Walk keyPrefix option cursor kept session [] outcome later) :
    (∃ page,
      (s.listPage (s.requestAt keyPrefix cursor) option).eval session = (.ok page, later) ∧
      outcome = .ok [page] ∧ StopsAt s.config.listMaxObjects.val kept [page]) ∨
    ∃ e, (s.listPage (s.requestAt keyPrefix cursor) option).eval session = (.error e, later) ∧
      outcome = .error e := by
  have hends := walk.ends
  cases hpage : (s.listPage (s.requestAt keyPrefix cursor) option).eval session with
  | mk r mid =>
      cases r with
      | ok page =>
          rw [pagesFrom_succ_ok hpage] at hends
          cases hends
          exact .inl ⟨page, rfl, rfl, walk.stops _ rfl⟩
      | error e =>
          rw [pagesFrom_succ_error hpage] at hends
          cases hends
          exact .inr ⟨e, rfl, rfl⟩

theorem of_cons {page : Page}
    (walk : s.Walk keyPrefix option cursor kept session (page :: before) outcome later) :
    ∃ mid rest,
      (s.listPage (s.requestAt keyPrefix cursor) option).eval session = (.ok page, mid) ∧
      ¬ StopsAt s.config.listMaxObjects.val kept [page] ∧
      s.Walk keyPrefix option page.cursor (kept + page.files.length) mid before rest later ∧
      outcome = rest.map (page :: ·) := by
  obtain ⟨⟨between, hone⟩, hgo⟩ := walk.goesOn 1 (Nat.le_add_left 1 before.length)
  obtain ⟨first, mid, none, hpage, -, hfirst⟩ := of_pagesFrom_succ hone
  cases hfirst
  have hends := walk.ends
  rw [pagesFrom_succ_ok hpage] at hends
  cases hrest : (s.pagesFrom keyPrefix option (before.length + 1) page.cursor).eval mid with
  | mk rest last =>
      rw [List.length_cons, hrest] at hends
      cases hends
      refine ⟨mid, rest, hpage, hgo Nat.one_pos, ⟨fun m hm => ?goesOn, hrest, ?stops⟩, rfl⟩
      case goesOn =>
        obtain ⟨⟨after, htake⟩, hnext⟩ := walk.goesOn (m + 1) (Nat.succ_le_succ hm)
        obtain ⟨second, mid', tail, hpage', htail, heq⟩ := of_pagesFrom_succ htake
        rw [hpage] at hpage'
        cases hpage'
        rw [List.take_succ_cons] at heq hnext
        cases heq
        refine ⟨⟨after, htail⟩, fun hpos hstops => hnext m.succ_pos ?_⟩
        refine (StopsAt.cons_iff ?_).mpr hstops
        rw [← List.length_pos_iff, length_of_pagesFrom htail]
        exact hpos
      case stops =>
        rintro pages rfl
        refine (StopsAt.cons_iff ?_).mp (walk.stops _ rfl)
        rw [← List.length_pos_iff, length_of_pagesFrom hrest]
        exact before.length.succ_pos

/-! ## What a walk asks for and what it answers -/

theorem watched (walk : s.Walk keyPrefix option cursor kept session before outcome later) :
    later.watched =
      (session.listCalls ++ s.pageCalls keyPrefix (cursor :: before.map Page.cursor),
        session.warnings) := by
  induction before generalizing cursor kept session outcome with
  | nil =>
      obtain ⟨page, hpage, -, -⟩ | ⟨e, hpage, -⟩ := walk.of_nil
      · exact watched_of_listPage hpage
      · exact watched_of_listPage hpage
  | cons page before ih =>
      obtain ⟨mid, rest, hpage, -, hrest, -⟩ := walk.of_cons
      have hfirst := watched_of_listPage hpage
      rw [Session.watched, Prod.mk.injEq] at hfirst
      rw [ih hrest, hfirst.1, hfirst.2, List.append_assoc]
      rfl

/-- A full listing answers what a walk of fewer steps than it may take fetches, and warns at its
end. -/
theorem eval_listFrom (walk : s.Walk keyPrefix option cursor kept session before outcome later)
    {listed : List FileInfo} (hkept : listed.length = kept) {fuel : Nat}
    (hfuel : before.length < fuel) :
    (s.listFrom keyPrefix option fuel cursor listed).eval session =
      (outcome.map fun pages =>
          some ((listed ++ filesOf pages).take s.config.listMaxObjects.val.toNat),
        later.logged (s.endWarnings keyPrefix kept outcome)) := by
  induction before generalizing cursor kept session outcome listed fuel with
  | nil =>
      obtain ⟨fuel, rfl⟩ := Nat.exists_eq_succ_of_ne_zero (Nat.ne_of_gt hfuel)
      obtain ⟨page, hpage, rfl, hstops⟩ | ⟨e, hpage, rfl⟩ := walk.of_nil
      · subst hkept
        rw [listFrom_succ_stop hpage hstops]
        simp only [Except.map, endWarnings, filesOf_cons, filesOf_nil, List.append_nil]
      · rw [listFrom_succ_error hpage]
        simp only [Except.map, endWarnings, Session.logged_nil]
  | cons page before ih =>
      obtain ⟨fuel, rfl⟩ := Nat.exists_eq_succ_of_ne_zero (Nat.ne_of_gt (Nat.zero_lt_of_lt hfuel))
      obtain ⟨mid, rest, hpage, hgo, hrest, rfl⟩ := walk.of_cons
      subst hkept
      rw [listFrom_succ_goOn hpage hgo]
      rw [ih hrest List.length_append (Nat.lt_of_succ_lt_succ hfuel)]
      cases rest with
      | error e => rfl
      | ok pages =>
          simp only [Except.map, endWarnings, filesOf_cons, List.append_assoc, List.length_append,
            Nat.add_assoc]

end Walk

end Store

end BucketStore
