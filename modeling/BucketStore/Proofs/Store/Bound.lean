import BucketStore.Proofs.Store.Lemmas.Openings
import BucketStore.Service.Script

/-!
# How many pages a full listing asks for

A full listing counts the files that it keeps, not the pages that it asks for: pages of which a file
is kept come to no more than the files that are wanted, and pages of which none is kept may go on
for ever.
-/

namespace BucketStore.Store

open BucketStore.Action

variable {σ : Type}

/-- Whatever the service answers, a full listing asks for no more pages than the files that are
wanted, the bare pages apart. So if no more than some number of bare pages are answered, it comes to
an end. -/
theorem listAll_bounded (s : Store σ) (keyPrefix : Value) (option : GetOption)
    (session : Session σ) :
    (∀ fuel : Nat, ∃ pages calls, s.Opening keyPrefix option (.text "") 0 session pages ∧
      ((s.listAll fuel keyPrefix option).eval session).2.listCalls = session.listCalls ++ calls ∧
      pages.length ≤ calls.length ∧ calls.length ≤ pages.length + 1 ∧
      calls.length ≤ s.config.listMaxObjects.val + (barePages pages).length) ∧
    ∀ bare : Nat, (∀ pages, s.Opening keyPrefix option (.text "") 0 session pages →
        (barePages pages).length ≤ bare) →
      ∀ fuel : Nat, s.config.listMaxObjects.val + bare ≤ fuel →
        ((s.listAll fuel keyPrefix option).eval session).1 ≠ .ok none := by
  constructor
  · intro fuel
    have hdrains := s.listFrom_drains keyPrefix option fuel (.text "") [] session
    rw [← listAll] at hdrains
    generalize (s.listAll fuel keyPrefix option).eval session = came at hdrains
    cases hdrains with
    | interrupted opening hfuel hcalls hlength =>
        have hlt := opening.length_lt
        exact ⟨_, _, opening, hcalls, by omega, by omega, by omega⟩
    | ended opening hended hcalls hlength =>
        have hlt := opening.length_lt
        exact ⟨_, _, opening, hcalls, by omega, by omega, by omega⟩
  · intro bare hbare fuel hfuel
    have hdrains := s.listFrom_drains keyPrefix option fuel (.text "") [] session
    rw [← listAll] at hdrains
    generalize (s.listAll fuel keyPrefix option).eval session = came at hdrains
    cases hdrains with
    | interrupted opening hlength _ _ =>
        have hlt := opening.length_lt
        have hle := hbare _ opening
        omega
    | ended _ hended _ _ => exact hended

/-- A page without files that says where to go on. -/
def barePage : Value :=
  .object [("IsTruncated", .bool true), ("NextMarker", .text "b/")]

/-- A store that wants one file, with a service that answers as scripts say. -/
def wantingOne : Store Scripts where
  config := { (default : BucketConfig) with listMaxObjects := ⟨1, Int.one_pos⟩ }
  endpoint := default
  service := Scripts.service fun _ => .value .null
  debug := false

/-- A bare page and then a page with a file. -/
def bareFirst : Session Scripts where
  state := [("list_objects", .sequence [.answer (.value barePage),
    .answer (.value (.object [("Contents",
      .list [.object [("Key", .text "b/c"), ("Size", .int 3)]])]))])]

theorem listAll_bounded_bare_first :
    (∀ pages, wantingOne.Opening (.text "") {} (.text "") 0 bareFirst pages →
      (barePages pages).length ≤ 1) ∧
    ∀ fuel : Nat, wantingOne.config.listMaxObjects.val + (1 : Nat) ≤ fuel →
      ((wantingOne.listAll fuel (.text "") {}).eval bareFirst).1 ≠ .ok none := by
  have hbare : ∀ pages, wantingOne.Opening (.text "") {} (.text "") 0 bareFirst pages →
      (barePages pages).length ≤ 1 := by
    intro pages opening
    match pages, opening with
    | [], _ => exact Nat.zero_le 1
    | [page], _ => exact List.length_filter_le _ [page]
    | first :: second :: rest, opening =>
        -- The second page has the file that is wanted.
        obtain ⟨first, mid, pages, hfirst, hpages, heq⟩ :=
          of_pagesFrom_succ (Prod.ext opening.fetched rfl)
        obtain ⟨second, last, pages, hsecond, -, rfl⟩ := of_pagesFrom_succ hpages
        cases heq
        cases hfirst
        cases hsecond
        exact absurd (.inl (Int.le_refl 1)) (opening.goesOn 2 Nat.two_pos (Nat.le_add_left 2 _))
  exact ⟨hbare, (listAll_bounded wantingOne (.text "") {} bareFirst).2 1 hbare⟩

/-! ## Listings without an end -/

/-- A full listing does not end where every page is bare and says where to go on. -/
theorem listFrom_of_bare {s : Store σ} {keyPrefix : Value} {option : GetOption}
    (hbare : ∀ cursor session, ∃ page mid,
      (s.listPage (s.requestAt keyPrefix cursor) option).eval session = (.ok page, mid) ∧
        page.files = [] ∧ page.hasMore = true)
    (fuel : Nat) (cursor : Value) (session : Session σ) :
    ((s.listFrom keyPrefix option fuel cursor []).eval session).1 = .ok none := by
  induction fuel generalizing cursor session with
  | zero => rfl
  | succ fuel ih =>
      obtain ⟨page, mid, hpage, hfiles, hmore⟩ := hbare cursor session
      have hgo : ¬ StopsAt s.config.listMaxObjects.val ([] : List FileInfo).length [page] := by
        rw [StopsAt.singleton_iff, hfiles, hmore]
        have := s.config.listMaxObjects.pos
        simp
        omega
      rw [listFrom_succ_goOn hpage hgo, hfiles, List.append_nil]
      exact ih page.cursor mid

/-- A store that wants one file, with a service that has bare pages only. -/
def bareOnly : Store Unit where
  config := wantingOne.config
  endpoint := default
  service := { client := fun _ state => (.ok (.value barePage), state) }
  debug := false

/-- One file is wanted, and a listing asks for two pages, or for as many as it may. -/
theorem listAll_past_wanted :
    wantingOne.config.listMaxObjects.val = 1 ∧
    ((wantingOne.listAll 2 (.text "") {}).eval bareFirst).1 =
      .ok (some [{ key := .text "b/c", size := .int 3 }]) ∧
    ((wantingOne.listAll 2 (.text "") {}).eval bareFirst).2.listCalls.length = 2 ∧
    bareOnly.config.listMaxObjects.val = 1 ∧
    ∀ fuel, ((bareOnly.listAll fuel (.text "") {}).eval { state := () }).1 = .ok none :=
  ⟨rfl, rfl, rfl, rfl, fun fuel =>
    listFrom_of_bare (fun _ _ => ⟨_, _, rfl, rfl, rfl⟩) fuel _ _⟩

end BucketStore.Store
