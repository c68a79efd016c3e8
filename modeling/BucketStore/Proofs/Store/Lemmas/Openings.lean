import BucketStore.Proofs.Store.Lemmas.Walks

/-!
# How a full listing begins

The pages that a full listing has fetched before its last step are an opening: none of them stops
it. An opening keeps fewer files than are wanted, so all but so many of its pages keep none.
-/

namespace BucketStore

open BucketStore.Action

/-- The pages of which no file is kept. -/
def barePages (pages : List Page) : List Page :=
  pages.filter fun page => page.files.isEmpty

theorem length_le_barePages (pages : List Page) :
    pages.length ≤ (barePages pages).length + (filesOf pages).length := by
  induction pages with
  | nil => exact Nat.le_refl 0
  | cons page pages ih =>
      rw [barePages, filesOf_cons, List.length_append, List.length_cons]
      cases hfiles : page.files with
      | nil =>
          rw [List.filter_cons_of_pos (by rw [hfiles]; rfl), List.length_cons]
          simp only [barePages] at ih
          simp only [List.length_nil]
          omega
      | cons file files =>
          rw [List.filter_cons_of_neg (by rw [hfiles]; exact Bool.false_ne_true)]
          simp only [barePages] at ih
          simp only [List.length_cons]
          omega

namespace Store

variable {σ : Type} {s : Store σ} {keyPrefix cursor : Value} {option : GetOption}
  {session mid : Session σ} {kept : Nat} {pages : List Page}

/-- The pages are those that a full listing from a cursor on fetches first, with some files kept
already, and none of them stops it. -/
structure Opening (s : Store σ) (keyPrefix : Value) (option : GetOption) (cursor : Value)
    (kept : Nat) (session : Session σ) (pages : List Page) : Prop where
  fetched : ((s.pagesFrom keyPrefix option pages.length cursor).eval session).1 = .ok pages
  goesOn : ∀ m, 0 < m → m ≤ pages.length →
    ¬ StopsAt s.config.listMaxObjects.val kept (pages.take m)

namespace Opening

theorem nil : s.Opening keyPrefix option cursor kept session [] :=
  ⟨rfl, fun _ hpos hle => absurd hpos (Nat.not_lt.mpr hle)⟩

theorem cons {page : Page}
    (hpage : (s.listPage (s.requestAt keyPrefix cursor) option).eval session = (.ok page, mid))
    (hgo : ¬ StopsAt s.config.listMaxObjects.val kept [page])
    (rest : s.Opening keyPrefix option page.cursor (kept + page.files.length) mid pages) :
    s.Opening keyPrefix option cursor kept session (page :: pages) := by
  constructor
  · rw [List.length_cons, pagesFrom_succ_ok hpage, rest.fetched]
    rfl
  · intro m hpos hle
    obtain ⟨m, rfl⟩ := Nat.exists_eq_succ_of_ne_zero (Nat.ne_of_gt hpos)
    rw [List.take_succ_cons]
    cases m with
    | zero => exact hgo
    | succ m =>
        have hle : m + 1 ≤ pages.length := Nat.le_of_succ_le_succ hle
        have hne : pages.take (m + 1) ≠ [] := by
          rw [← List.length_pos_iff, List.length_take_of_le hle]
          exact m.succ_pos
        exact fun hstops => rest.goesOn _ m.succ_pos hle ((StopsAt.cons_iff hne).mp hstops)

/-- An opening keeps fewer files than are wanted. -/
theorem kept_lt (opening : s.Opening keyPrefix option cursor kept session pages)
    (hkept : kept < s.config.listMaxObjects.val) :
    (kept + (filesOf pages).length : Nat) < s.config.listMaxObjects.val := by
  cases pages with
  | nil => exact hkept
  | cons page pages =>
      have hgo := opening.goesOn (page :: pages).length pages.length.succ_pos (Nat.le_refl _)
      rw [List.take_length] at hgo
      exact Int.not_le.mp fun hmost => hgo (.inl hmost)

/-- Its pages that keep a file are fewer than the files that are wanted. -/
theorem length_lt (opening : s.Opening keyPrefix option cursor 0 session pages) :
    pages.length < s.config.listMaxObjects.val + (barePages pages).length := by
  have hkept := opening.kept_lt s.config.listMaxObjects.pos
  have hlength := length_le_barePages pages
  omega

end Opening

/-! ## Steps -/

/-- A full listing fetches the pages of an opening. Either it has then fetched as many as it may,
or it takes one step more, the last one. -/
inductive Drains (s : Store σ) (keyPrefix : Value) (option : GetOption) (cursor : Value)
    (kept : Nat) (session : Session σ) (fuel : Nat) :
    Result (Option (List FileInfo)) × Session σ → Prop
  | interrupted {pages : List Page} {calls : List Call} {later : Session σ} :
      s.Opening keyPrefix option cursor kept session pages → pages.length = fuel →
      later.listCalls = session.listCalls ++ calls → calls.length = pages.length →
      Drains s keyPrefix option cursor kept session fuel (.ok none, later)
  | ended {pages : List Page} {calls : List Call} {outcome : Result (Option (List FileInfo))}
      {later : Session σ} :
      s.Opening keyPrefix option cursor kept session pages → outcome ≠ .ok none →
      later.listCalls = session.listCalls ++ calls → calls.length = pages.length + 1 →
      Drains s keyPrefix option cursor kept session fuel (outcome, later)

theorem Drains.goesOn {page : Page} {fuel : Nat}
    {came : Result (Option (List FileInfo)) × Session σ}
    (hpage : (s.listPage (s.requestAt keyPrefix cursor) option).eval session = (.ok page, mid))
    (hgo : ¬ StopsAt s.config.listMaxObjects.val kept [page])
    (rest : Drains s keyPrefix option page.cursor (kept + page.files.length) mid fuel came) :
    Drains s keyPrefix option cursor kept session (fuel + 1) came := by
  have hfirst : mid.listCalls = session.listCalls ++ s.pageCalls keyPrefix [cursor] :=
    congrArg Prod.fst (watched_of_listPage hpage)
  cases rest with
  | interrupted opening hfuel hcalls hlength =>
      rw [hfirst, List.append_assoc] at hcalls
      refine .interrupted (opening.cons hpage hgo) (congrArg (· + 1) hfuel) hcalls ?_
      rw [List.length_append, hlength, Nat.add_comm]
      rfl
  | ended opening hended hcalls hlength =>
      rw [hfirst, List.append_assoc] at hcalls
      refine .ended (opening.cons hpage hgo) hended hcalls ?_
      rw [List.length_append, hlength, Nat.add_comm]
      rfl

theorem listFrom_drains (s : Store σ) (keyPrefix : Value) (option : GetOption) (fuel : Nat)
    (cursor : Value) (listed : List FileInfo) (session : Session σ) :
    Drains s keyPrefix option cursor listed.length session fuel
      ((s.listFrom keyPrefix option fuel cursor listed).eval session) := by
  induction fuel generalizing cursor listed session with
  | zero => exact .interrupted .nil rfl (List.append_nil _).symm rfl
  | succ fuel ih =>
      cases hpage : (s.listPage (s.requestAt keyPrefix cursor) option).eval session with
      | mk outcome mid =>
          have hfirst : mid.listCalls = session.listCalls ++ s.pageCalls keyPrefix [cursor] :=
            congrArg Prod.fst (watched_of_listPage hpage)
          cases outcome with
          | error e =>
              rw [listFrom_succ_error hpage]
              exact .ended .nil nofun hfirst rfl
          | ok page =>
              by_cases hstops : StopsAt s.config.listMaxObjects.val listed.length [page]
              · rw [listFrom_succ_stop hpage hstops]
                exact .ended .nil nofun hfirst rfl
              · rw [listFrom_succ_goOn hpage hstops]
                refine .goesOn hpage hstops ?_
                rw [← List.length_append]
                exact ih page.cursor (listed ++ page.files) mid

end Store

end BucketStore
