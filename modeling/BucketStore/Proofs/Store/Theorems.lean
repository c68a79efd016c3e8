import BucketStore.Proofs.Store.Lemmas.Enriched
import BucketStore.Service.Script

/-!
# Full listings

A full listing is the walk through its pages: it answers the files that the walk finds, as many as
are wanted at most, and fails as the walk fails. Of a remote store whose objects can be read it
answers the objects under the prefix, in order, whatever the size of its pages.
-/

namespace BucketStore.Store

open BucketStore.Action

variable {σ : Type}

/-! ## Walks -/

/-- A full listing asks for the pages of a walk and for no others, each one at the cursor of the one
before it, and warns once at its end if it found as many files as are wanted. -/
theorem listAll_walks {s : Store σ} {keyPrefix : Value} {option : GetOption}
    {session later : Session σ} {before : List Page} {outcome : Result (List Page)}
    (walk : s.Walk keyPrefix option (.text "") 0 session before outcome later)
    {fuel : Nat} (hfuel : before.length < fuel) :
    (s.listAll fuel keyPrefix option).eval session =
      (outcome.map fun pages =>
          some ((filesOf pages).take s.config.listMaxObjects.val.toNat),
        later.logged (s.endWarnings keyPrefix 0 outcome)) ∧
    (later.logged (s.endWarnings keyPrefix 0 outcome)).listCalls =
      session.listCalls ++ s.pageCalls keyPrefix (.text "" :: before.map Page.cursor) ∧
    (later.logged (s.endWarnings keyPrefix 0 outcome)).warnings =
      session.warnings ++ s.endWarnings keyPrefix 0 outcome := by
  have hwatched := walk.watched
  rw [Session.watched, Prod.mk.injEq] at hwatched
  refine ⟨walk.eval_listFrom rfl hfuel, hwatched.1, ?_⟩
  rw [Session.warnings_logged fun _ => endWarnings_level, hwatched.2]

/-- A store that wants one file, with a service that answers as scripts say. -/
def scripted : Store Scripts where
  config := default
  endpoint := default
  service := Scripts.service fun _ => .value .null
  debug := false

/-- A page without files that says where to go on, and then a page with a file. -/
def twoPages : Session Scripts where
  state := [("list_objects", .sequence [
    .answer (.value (.object [("IsTruncated", .bool true), ("NextMarker", .text "b/")])),
    .answer (.value (.object [("Contents",
      .list [.object [("Key", .text "b/c"), ("Size", .int 3)]])]))])]

theorem listAll_walks_two_pages :
    ∃ (before : List Page) (outcome : Result (List Page)) (later : Session Scripts),
      scripted.Walk (.text "b/") {} (.text "") 0 twoPages before outcome later ∧
      before.length < 2 ∧
      ((scripted.listAll 2 (.text "b/") {}).eval twoPages).1 =
        .ok (some [{ key := .text "b/c", size := .int 3 }]) ∧
      ((scripted.listAll 2 (.text "b/") {}).eval twoPages).2.listCalls =
        scripted.pageCalls (.text "b/") [.text "", .text "b/"] := by
  have walk : scripted.Walk (.text "b/") {} (.text "") 0 twoPages
      [{ cursor := .text "b/", isTruncated := true }]
      (.ok [{ cursor := .text "b/", isTruncated := true },
        { files := [{ key := .text "b/c", size := .int 3 }] }])
      ((scripted.pagesFrom (.text "b/") {} 2 (.text "")).eval twoPages).2 := by
    refine ⟨fun m hm => ?_, rfl, fun pages hpages => ?_⟩
    · cases m with
      | zero => exact ⟨⟨_, rfl⟩, fun h => absurd h (Nat.lt_irrefl 0)⟩
      | succ m =>
          cases Nat.le_zero.mp (Nat.le_of_succ_le_succ hm)
          refine ⟨⟨_, rfl⟩, fun _ hstops => ?_⟩
          exact absurd (StopsAt.singleton_iff.mp hstops) (by decide)
    · cases hpages
      exact .inl (Int.le_refl 1)
  obtain ⟨hanswer, hcalls, -⟩ := listAll_walks walk Nat.one_lt_two
  refine ⟨_, _, _, walk, Nat.one_lt_two, ?_, ?_⟩
  · rw [hanswer]
    rfl
  · rw [hanswer]
    exact hcalls

/-! ## Remote stores -/

open Remote

/-- A full listing of a remote store answers the first objects under the prefix that do not stand
for directories, as many as are wanted at most, whatever the size of its pages. -/
theorem listAll_remote {s : Store σ} {objects : List Object}
    (remote : Holds s.service s.bucket objects) {keyPrefix : String}
    (readable : ∀ o ∈ objects, o.isUnder keyPrefix = true → o.Readable)
    {option : GetOption} (hoption : option.asksMore = false) (session : Session σ) {fuel : Nat}
    (hfuel : objects.length < fuel) :
    ((s.listAll fuel (.text keyPrefix) option).eval session).1 =
      .ok (some ((files (objects.filter (Object.isUnder keyPrefix))).take
        s.config.listMaxObjects.val.toNat)) := by
  have hlength : (remaining objects keyPrefix "").length < fuel :=
    Nat.lt_of_le_of_lt (List.length_filter_le _ objects) hfuel
  obtain ⟨later, hlater⟩ :=
    eval_listFrom_remote remote readable hoption "" [] session hlength
  rw [listAll, hlater, remaining_empty, List.nil_append]

/-- A store whose service holds objects, with pages of one object. -/
def holding (objects : List Object) (most : Config.Positive) : Store Unit where
  config := { (default : BucketConfig) with listMaxObjects := most }
  endpoint := default
  service := serving objects
  debug := false

/-- A directory's placeholder and two files, of which one is under the prefix. -/
def smallBucket : List Object :=
  [.showing "a" (by decide) (.powerOfTen 1) [],
    .showing "b/" (by decide) ⟨['0'], List.cons_ne_nil _ _, List.forall_mem_singleton.mpr rfl⟩ [],
    .showing "b/c" (by decide) (.powerOfTen 2) [("ETag", .text "\"tag\"")]]

theorem listAll_remote_small_bucket :
    (∀ o ∈ smallBucket, o.isUnder "b/" = true → o.Readable) ∧ smallBucket.length < 4 ∧
    (((holding smallBucket ⟨5, by decide⟩).listAll 4 (.text "b/") {}).eval { state := () }).1 =
      .ok (some [{ key := .text "b/c", size := .int 100, etag := .text "tag" }]) := by
  have readable : ∀ o ∈ smallBucket, o.isUnder "b/" = true → o.Readable := by
    intro o ho _
    simp only [smallBucket, List.mem_cons, List.not_mem_nil, or_false] at ho
    rcases ho with rfl | rfl | rfl
    · exact ⟨by decide, ⟨_, rfl⟩, ⟨_, rfl⟩⟩
    · exact ⟨by decide, ⟨_, rfl⟩, ⟨_, rfl⟩⟩
    · exact ⟨by decide, ⟨_, rfl⟩, ⟨_, rfl⟩⟩
  have hascending : smallBucket.Pairwise fun a b => a.key < b.key := by decide
  refine ⟨readable, by decide, ?_⟩
  rw [listAll_remote (serving_holds hascending _) readable rfl _ (by decide)]
  rfl

/-- A size of too many digits reads as zero, so the object is taken for a directory's. -/
theorem listAll_of_long_size {s : Store σ} {o : Object}
    (remote : Holds s.service s.bucket [o]) (hsize : Text.maxDigits < o.size.digits.length)
    (hkey : o.key.toList.getLast? = some '/') (session : Session σ) (fuel : Nat) :
    ((s.listAll (fuel + 1) (.text "") {}).eval session).1 = .ok (some []) := by
  have hremaining : remaining [o] "" "" = [o] := by
    rw [remaining_empty]
    rfl
  have hlisted : ∀ o' ∈ remaining [o] "" "",
      Yields (s.listedFile (.object o'.fields)) none := by
    intro o' ho'
    rw [hremaining, List.mem_singleton] at ho'
    rw [ho']
    exact s.listedFile_yields_none hsize hkey
  have hoption : ({} : GetOption).asksMore = false := rfl
  obtain ⟨page, later, hpage, hof⟩ := eval_listPage_remote remote hlisted hoption session
  have hmore : page.hasMore = false := by
    rw [hof.hasMore_eq s.listPageSize_pos, hremaining, List.length_singleton,
      decide_eq_false_iff_not, Nat.not_lt]
    exact s.listPageSize_pos
  have hfiles : page.files = [] := by
    rw [hof.holds, hremaining, List.filterMap_eq_nil_iff]
    intro file? hfile
    obtain ⟨o', -, rfl⟩ := List.mem_map.mp hfile
    rfl
  have hstops : StopsAt s.config.listMaxObjects.val ([] : List FileInfo).length [page] :=
    StopsAt.singleton_iff.mpr (.inr hmore)
  rw [listAll, listFrom_succ_stop hpage hstops, hfiles, List.append_nil, List.take_nil]

/-- An object with a size of too many digits, whose key ends in a slash. -/
def longSized : Object :=
  .showing "a/" (by decide) (.powerOfTen Text.maxDigits) []

/-- An object with a time stamp that is beyond the last year in universal time. -/
def lastHour : Object :=
  .showing "a" (by decide) (.powerOfTen 0)
    [("LastModified", .text "Fri, 31 Dec 9999 23:59:59 -0100")]

theorem listAll_unreadable :
    (Holds (holding [longSized] ⟨1, by decide⟩).service
        (holding [longSized] ⟨1, by decide⟩).bucket [longSized] ∧
      files ([longSized].filter (Object.isUnder "")) = [longSized.file] ∧
      (((holding [longSized] ⟨1, by decide⟩).listAll 2 (.text "") {}).eval { state := () }).1 =
        .ok (some [])) ∧
    Holds (holding [lastHour] ⟨1, by decide⟩).service
        (holding [lastHour] ⟨1, by decide⟩).bucket [lastHour] ∧
      files ([lastHour].filter (Object.isUnder "")) = [lastHour.file] ∧
      (((holding [lastHour] ⟨1, by decide⟩).listAll 2 (.text "") {}).eval { state := () }).1 =
        .error .overflow := by
  have hlong : Text.maxDigits < longSized.size.digits.length := by
    rw [longSized, Object.showing, Text.Numeral.powerOfTen, List.length_cons,
      List.length_replicate]
    exact Nat.lt_succ_self _
  have hmarker : longSized.isMarker = false := by
    have hvalue : longSized.size.value ≠ 0 :=
      Nat.ne_of_gt (Text.Numeral.value_powerOfTen_pos Text.maxDigits)
    rw [Object.isMarker, beq_eq_false_iff_ne.mpr hvalue, Bool.false_and]
  have hlongHolds : Holds (holding [longSized] ⟨1, by decide⟩).service
      (holding [longSized] ⟨1, by decide⟩).bucket [longSized] :=
    serving_holds (List.pairwise_singleton _ _) _
  have hfilter : [longSized].filter (Object.isUnder "") = [longSized] := rfl
  refine ⟨⟨hlongHolds, ?_, listAll_of_long_size hlongHolds hlong (by decide) _ 1⟩,
    serving_holds (List.pairwise_singleton _ _) _, rfl, rfl⟩
  rw [hfilter, files, List.filter_cons_of_pos (by rw [hmarker]; rfl), List.filter_nil,
    List.map_singleton]

/-! ## Enrichment -/

/-- If the service answers by what it is asked alone and has tags and a URL for every key, a full
listing with an option answers the files of the one without, in the same order and number, each with
the tags and the URL of its own key as the option asks. It is all the same whether these are fetched
in rounds or by tasks, and what time the tasks take. -/
theorem listAll_enriched {s : Store σ} {tags : Value → Option TagMap} {url : Value → Value → Value}
    (serves : s.service.Serves s.bucket tags url) {option : GetOption}
    (hexpire : option.withUrl = true → option.expire = .null ∨ option.expire.isPositive?.isSome)
    {keyPrefix : Value} {fuel : Nat} {session : Session σ} {files : List FileInfo}
    (hplain : ((s.listAll fuel keyPrefix {}).eval session).1 = .ok (some files)) :
    ∃ lifetime, (option.withUrl = true → s.urlLifetime option = .ok lifetime) ∧
      (∀ session' : Session σ, ((s.listAll fuel keyPrefix option).eval session').1 =
        .ok (some (files.map fun f =>
          f.enriched option (tags f.key) (url f.key lifetime)))) ∧
      ∀ (page : List FileInfo) (session' : Session σ) (tag : Nat → Value → Job (Option TagMap))
        (sign : Nat → Value → Value → Job Value),
        (∀ i key, (tag i key).outcome = ((s.tagging key).eval session').1) →
        (∀ i key, (sign i key option.expire).outcome =
          ((s.signUrl key { expire := option.expire }).eval session').1) →
        ((enrichByTasks (.int s.config.fanoutConcurrency.val) tag sign page option).eval {}).1 =
          ((s.enrichListed keyPrefix page option).eval session').1 := by
  obtain ⟨lifetime, hlifetime⟩ := s.urlLifetime_ok hexpire
  refine ⟨lifetime, hlifetime, fun session' => ?_, fun page session' tag sign htag hsign => ?_⟩
  · obtain ⟨later, hlater⟩ :=
      listFrom_yields_enriched serves hlifetime (Prod.ext hplain rfl) session'
    rw [listAll, ← List.map_nil, hlater]
  · exact enrichByTasks_eq_rounds serves hlifetime keyPrefix page session' htag hsign

/-- A service that holds objects, each of which has its own key for a tag, and signs URLs. -/
def owning (objects : List Object) : Service Unit where
  client
    | .getObjectTagging _ key, state =>
      (.ok (.value (.object [("TagSet", .object [("Tag",
        .list [.object [("Key", .text "owner"), ("Value", key)]])])])), state)
    | .signUrl _ key _ expires, state => (.ok (.value (.list [key, expires])), state)
    | c, state => (serving objects).client c state

theorem owning_serves (objects : List Object) (bucket : String) :
    (owning objects).Serves bucket (fun key => some [(.text "owner", key)])
      (fun key expires => .list [key, expires]) where
  pages := fun _ _ _ _ _ => rfl
  tagging := fun _ => ⟨_, _, fun _ => rfl, rfl, rfl⟩
  signing := fun _ _ => ⟨_, fun _ => rfl, rfl⟩

/-- A store that wants two files, in pages of one object each. -/
def owner : Store Unit where
  config := { (default : BucketConfig) with listMaxObjects := ⟨2, by decide⟩ }
  endpoint := default
  service := owning smallBucket
  debug := false

theorem listAll_enriched_two_files :
    owner.service.Serves owner.bucket (fun key => some [(.text "owner", key)])
      (fun key expires => .list [key, expires]) ∧
    ((owner.listAll 4 (.text "") {}).eval { state := () }).1 =
      .ok (some [{ key := .text "a", size := .int 10 },
        { key := .text "b/c", size := .int 100, etag := .text "tag" }]) ∧
    ((owner.listAll 4 (.text "") { withTagging := true, withUrl := true, expire := .int 60 }).eval
        { state := () }).1 =
      .ok (some
        [{ key := .text "a", size := .int 10, tagging := some [(.text "owner", .text "a")],
           url := .list [.text "a", .int 60] },
         { key := .text "b/c", size := .int 100, etag := .text "tag",
           tagging := some [(.text "owner", .text "b/c")],
           url := .list [.text "b/c", .int 60] }]) := by
  have serves := owning_serves smallBucket owner.bucket
  have hplain : ((owner.listAll 4 (.text "") {}).eval { state := () }).1 =
      .ok (some [{ key := .text "a", size := .int 10 },
        { key := .text "b/c", size := .int 100, etag := .text "tag" }]) := rfl
  have hexpire : true = true → (.int 60 : Value) = .null ∨ (Value.int 60).isPositive?.isSome :=
    fun _ => .inr rfl
  obtain ⟨lifetime, hlifetime, hlisted, -⟩ :=
    @listAll_enriched _ owner _ _ serves { withTagging := true, withUrl := true, expire := .int 60 }
      hexpire _ _ _ _ hplain
  cases hlifetime rfl
  exact ⟨serves, hplain, hlisted _⟩

end BucketStore.Store
