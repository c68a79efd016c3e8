import BucketStore.Proofs.Store.Lemmas.Listed

/-!
# Pages

A page lists its entries in their order, each with its own data and what the service has for its
key. Entries that stand for directories are left out, and nothing is asked about them.
-/

namespace BucketStore.Store

open BucketStore.Action

variable {σ : Type}

theorem checkPageSize_of_isPositive {v : Value} (h : v.isPositive? = some true) :
    checkPageSize v = .ok () := by
  rw [checkPageSize, h]

/-- A page of a positive size is listed by its entries alone, whatever shape shows them. Each entry
that is no directory is listed once, in its place, with its own tags and URL; the others are asked
nothing about and are logged just for debugging. -/
theorem listPaginated_pageRun (s : Store σ) (request : PageRequest)
    (hsize : request.pageSize.isPositive? = some true) (option : GetOption) (mid : σ)
    (entries : List PageEntry) :
    ∃ outcome extra failures later,
      s.PageRun request option mid entries outcome extra failures later := by
  have hkeys : ((PageEntry.kept entries).map PageEntry.file).map (fun f => f.key) =
      PageEntry.keptKeys entries := List.map_map
  obtain ⟨outcome, extra, failures, later, henriched, hwithin⟩ := s.enrichListed_works
    request.keyPrefix ((PageEntry.kept entries).map PageEntry.file) option mid
  rw [hkeys] at hwithin
  refine ⟨outcome, extra, failures, later, ?_, hwithin.sublist, hwithin.complete, hwithin.errors,
    hwithin.quiet, fun files => ?_⟩
  · intro t state answer fields halike hanswer hfields hshows
    have hcall := Runs.call t.service (t.pageCall request) state
    rw [halike.pageCall, hanswer] at hcall
    rw [← halike.enrichListed] at henriched
    obtain ⟨isTruncated, hflag, hpage⟩ := readPage_runs hfields hshows henriched
    refine ⟨isTruncated, hflag, ?_⟩
    rw [listPaginated, t.listPage_eq option (checkPageSize_of_isPositive hsize), ← pageCall,
      halike.pageCall]
    exact (hcall.tryCatch_ok _).bind hpage
  · have hgets := s.enrichListed_gets request.keyPrefix
      ((PageEntry.kept entries).map PageEntry.file) option mid files
    simp only [Gets.iff_of_runs henriched, hkeys, mapIdx_map] at hgets
    constructor
    · intro houtcome
      obtain ⟨tags, urls, hgives, -, hfiles⟩ := (hgets later).mp ⟨houtcome, rfl⟩
      exact ⟨tags, urls, hgives, hfiles⟩
    · rintro ⟨tags, urls, hgives, hfiles⟩
      exact ((hgets _).mpr ⟨tags, urls, hgives, rfl, hfiles⟩).1

/-- A service that holds a folder: its placeholder and one object. -/
def folder : Service Unit where
  client
    | .listObjects _ _ _ _, state =>
      (.ok (.value (.object [
        ("Contents", .list [
          .object [("Key", .text "a/"), ("Size", .text "0")],
          .object [("Key", .text "a/b"), ("Size", .int 3), ("ETag", .text "\"c\"")]]),
        ("IsTruncated", .text " True"), ("NextMarker", .text "a/b")])), state)
    | .getObjectTagging _ key, state =>
      (.ok (.value (.object [("TagSet", .list [
        .object [("Key", .text "owner"), ("Value", key)]])])), state)
    | .signUrl _ key _ expires, state => (.ok (.value (.list [key, expires])), state)
    | _, state => (.ok (.value .null), state)

def folderStore : Store Unit where
  config := default
  endpoint := default
  service := folder
  debug := true

theorem listPaginated_pageRun_of_folder :
    Runs (folderStore.listPaginated (some { pageSize := .int 2 })
        { withTagging := true, withUrl := true, expire := .int 60 }) ()
      (.ok {
        files := [{
          key := .text "a/b", size := .int 3, etag := .text "c"
          tagging := some [(.text "owner", .text "a/b")]
          url := .list [.text "a/b", .int 60] }]
        cursor := .text "a/b", isTruncated := true })
      [.listObjects folderStore.bucket (.text "") (.text "") (.int 2),
        .getObjectTagging folderStore.bucket (.text "a/b"),
        .signUrl folderStore.bucket (.text "a/b") "GET" (.int 60)]
      [Log.record .debug loggerName .listSkipDir [("key", .text "a/")] none] () := by
  obtain ⟨outcome, extra, failures, later, hrun⟩ := folderStore.listPaginated_pageRun
    { pageSize := .int 2 } rfl { withTagging := true, withUrl := true, expire := .int 60 } ()
    [⟨"a/", 0, .zero, ""⟩, ⟨"a/b", 3, .zero, "c"⟩]
  have hkept : PageEntry.keptKeys [⟨"a/", 0, .zero, ""⟩, ⟨"a/b", 3, .zero, "c"⟩] =
      [.text "a/b"] := by
    rfl
  have hgives : folderStore.Gives { withTagging := true, withUrl := true, expire := .int 60 }
      [.text "a/b"] () [some [(.text "owner", .text "a/b")]] [.list [.text "a/b", .int 60]] :=
    ⟨.cons ⟨_, _, rfl, .object _, rfl⟩ .nil, .cons ⟨_, rfl, rfl⟩ .nil, fun _ _ => .inr rfl⟩
  have houtcome := (hrun.files _).mpr ⟨_, _, hkept ▸ hgives, rfl⟩
  have hextra := hrun.complete _ houtcome
  have hquiet := hrun.quiet _ houtcome
  subst houtcome hextra hquiet
  have hshows : PageShows (.list [
      .object [("Key", .text "a/"), ("Size", .text "0")],
      .object [("Key", .text "a/b"), ("Size", .int 3), ("ETag", .text "\"c\"")]])
      [⟨"a/", 0, .zero, ""⟩, ⟨"a/b", 3, .zero, "c"⟩] :=
    ⟨_, .list _, .cons ⟨_, rfl, rfl, rfl, .absent rfl, .absent rfl⟩
      (.cons ⟨_, rfl, rfl, rfl, .absent rfl, @Payload.TagIs.text _ _ 1 1 rfl nofun nofun⟩ .nil)⟩
  obtain ⟨isTruncated, hflag, hruns⟩ := hrun.runs folderStore () _ _ ⟨rfl, fun _ _ => rfl⟩ rfl
    (.object _) hshows
  have htruncated : isTruncated = true := hflag.mpr
    (@Payload.SaysTrue.text _ [' '] ['T', 'r', 'u', 'e'] [] rfl (List.forall_mem_singleton.mpr rfl)
      rfl nofun)
  rw [htruncated] at hruns
  exact hruns

end BucketStore.Store
