import BucketStore.Proofs.Store.Lemmas.Walks
import BucketStore.Proofs.Store.Remote

/-!
# Pages of remote stores

A page of a remote store holds the files of the objects that it was answered with, and goes on where
they end.
-/

namespace BucketStore

open BucketStore.Action

/-! ## Items of a page -/

/-- What is left out of a listing of items is what is passed over before it. -/
theorem Store.filterMap_unless {α : Type} (leavesOut : α → Bool) (file : α → FileInfo)
    (items : List α) :
    (items.map fun item => if leavesOut item then none else some (file item)).filterMap id =
      (items.filter fun item => !leavesOut item).map file := by
  induction items with
  | nil => rfl
  | cons item items ih =>
      rw [List.map_cons, List.filterMap_cons, ih]
      cases hout : leavesOut item <;> simp [hout]

/-! ## Reading answers -/

namespace Remote

theorem Shows.pageObjects {v : Value} {objects : List Object} (h : Shows v objects) :
    Store.pageObjects v = .ok (objects.map fun o => .object o.fields) := by
  cases h with
  | list objects =>
      cases objects with
      | nil => rfl
      | cons o objects => rfl
  | single o =>
      have hfields : o.fields ≠ [] := by
        intro hnil
        have hkey := o.showsKey
        rw [hnil] at hkey
        cases hkey
      simp [Store.pageObjects, Value.isTruthy, hfields]
  | absent => rfl

theorem Tells.flag {v? : Option Value} {b : Bool} (h : Tells v? b) :
    Payload.flag (v?.getD (.bool false)) = b := by
  cases h with
  | truth => rfl
  | yes => decide
  | no => decide
  | absent => rfl

namespace Object

theorem Readable.size_eq {o : Object} (h : o.Readable) :
    Payload.size (Fields.get o.fields "Size") = .ok o.size.value := by
  rw [o.showsSize, Payload.size, o.size.readInt?_text, if_pos h.size]
  rfl

theorem Readable.time_eq {o : Object} (h : o.Readable) : o.time = .ok o.file.lastModified := by
  obtain ⟨t, ht⟩ := h.time
  rw [file, ht]
  rfl

theorem Readable.tag_eq {o : Object} (h : o.Readable) :
    o.tag = .ok (o.tag.toOption.getD "") := by
  obtain ⟨t, ht⟩ := h.tag
  rw [ht]
  rfl

theorem isDirectoryMarker_eq (o : Object) :
    Store.isDirectoryMarker (.text o.key) o.size.value = .ok o.isMarker := by
  unfold Store.isDirectoryMarker isMarker
  by_cases h : o.size.value = 0
  · simp [h]
  · simp [h]

end Object

/-! ## What remains -/

theorem empty_lt_key (o : Object) : "" < o.key := by
  have hne : o.key.toList ≠ [] := fun h => o.named (String.toList_eq_nil_iff.mp h)
  obtain ⟨c, cs, h⟩ := List.exists_cons_of_ne_nil hne
  change "".toList < o.key.toList
  rw [h]
  exact List.nil_lt_cons c cs

theorem remaining_empty (objects : List Object) (keyPrefix : String) :
    remaining objects keyPrefix "" = objects.filter (Object.isUnder keyPrefix) := by
  simp only [remaining, empty_lt_key, decide_true, Bool.and_true]

theorem filter_lt_eq_suffix {before after : List Object} {o : Object}
    (ascending : (before ++ o :: after).Pairwise fun a b => a.key < b.key) :
    (before ++ o :: after).filter (fun x => decide (o.key < x.key)) = after := by
  obtain ⟨-, htail, hbefore⟩ := List.pairwise_append.mp ascending
  have hnone : before.filter (fun x => decide (o.key < x.key)) = [] := by
    refine List.filter_eq_nil_iff.mpr fun x hx => ?_
    simpa using String.lt_asymm (hbefore x hx o List.mem_cons_self)
  have hall : after.filter (fun x => decide (o.key < x.key)) = after :=
    List.filter_eq_self.mpr fun x hx => decide_eq_true ((List.pairwise_cons.mp htail).1 x hx)
  rw [List.filter_append, hnone, List.nil_append, List.filter_cons_of_neg (by simp), hall]

theorem readable_of_remaining {objects : List Object} {keyPrefix marker : String}
    (readable : ∀ o ∈ objects, o.isUnder keyPrefix = true → o.Readable) {o : Object}
    (ho : o ∈ remaining objects keyPrefix marker) : o.Readable := by
  obtain ⟨hmem, hunder⟩ := List.mem_filter.mp ho
  exact readable o hmem (Bool.and_eq_true_iff.mp hunder).1

/-- What remains after a page is what the page left. -/
theorem remaining_after {objects : List Object}
    (ascending : objects.Pairwise fun a b => a.key < b.key) {keyPrefix marker : String} {most : Nat}
    {last : Object} (hlast : ((remaining objects keyPrefix marker).take most).getLast? = some last) :
    remaining objects keyPrefix last.key = (remaining objects keyPrefix marker).drop most := by
  obtain ⟨before, hbefore⟩ := List.getLast?_eq_some_iff.mp hlast
  have hsplit : remaining objects keyPrefix marker =
      before ++ last :: (remaining objects keyPrefix marker).drop most := by
    conv => lhs; rw [← List.take_append_drop most (remaining objects keyPrefix marker), hbefore]
    rw [List.append_assoc, List.singleton_append]
  have hmarker : marker < last.key := by
    have hmem : last ∈ remaining objects keyPrefix marker := by
      rw [hsplit]
      exact List.mem_append_right _ List.mem_cons_self
    simpa using (Bool.and_eq_true_iff.mp (List.mem_filter.mp hmem).2).2
  have hfilter : remaining objects keyPrefix last.key =
      (remaining objects keyPrefix marker).filter fun o => decide (last.key < o.key) := by
    rw [remaining, remaining, List.filter_filter]
    refine List.filter_congr fun o _ => ?_
    by_cases h : last.key < o.key
    · simp [h, String.lt_trans hmarker h]
    · simp [h]
  have hsorted : (remaining objects keyPrefix marker).Pairwise fun a b => a.key < b.key :=
    ascending.filter _
  rw [hfilter]
  rw [hsplit] at hsorted
  conv => lhs; rw [hsplit]
  exact filter_lt_eq_suffix hsorted

/-! ## Files -/

@[simp]
theorem files_nil : files [] = [] :=
  rfl

theorem files_append (before after : List Object) :
    files (before ++ after) = files before ++ files after := by
  rw [files, List.filter_append, List.map_append]
  rfl

/-- A page with files that goes on after the first objects of those that remain. -/
structure PageOf (rest : List Object) (most : Nat) (files : List FileInfo) (page : Page) :
    Prop where
  holds : page.files = files
  truncated : page.isTruncated = decide (most < rest.length)
  cursor : most < rest.length → ∀ last, (rest.take most).getLast? = some last →
    page.cursor = .text last.key

theorem PageOf.exists_cursor {rest : List Object} {most : Nat}
    {files : List FileInfo} {page : Page} (h : PageOf rest most files page) (hpos : 0 < most) (hmore : most < rest.length) :
    ∃ last, (rest.take most).getLast? = some last ∧ page.cursor = .text last.key := by
  have hne : rest.take most ≠ [] := by
    rw [← List.length_pos_iff, List.length_take]
    omega
  have hlast := List.getLast?_eq_some_getLast hne
  exact ⟨_, hlast, h.cursor hmore _ hlast⟩

theorem PageOf.hasMore_eq {rest : List Object} {most : Nat}
    {files : List FileInfo} {page : Page} (h : PageOf rest most files page) (hpos : 0 < most) :
    page.hasMore = decide (most < rest.length) := by
  rw [Page.hasMore, h.truncated]
  by_cases hmore : most < rest.length
  · obtain ⟨last, -, hcursor⟩ := h.exists_cursor hpos hmore
    simp [hmore, hcursor, Value.isTruthy, last.named]
  · simp [hmore]

theorem PageOf.files_rest {rest : List Object} {most : Nat} {page : Page}
    (h : PageOf rest most (files (rest.take most)) page) :
    files rest = page.files ++ files (rest.drop most) := by
  rw [h.holds, ← files_append, List.take_append_drop]

/-- Where a page stops a listing, what it left makes no difference. -/
theorem PageOf.take_of_stops {rest : List Object} {most : Nat} {files : List FileInfo} {page : Page}
    (h : PageOf rest most files page) (hpos : 0 < most) {wanted : Int} {listed : List FileInfo}
    (hstops : StopsAt wanted listed.length [page]) :
    (listed ++ page.files ++ Remote.files (rest.drop most)).take wanted.toNat =
      (listed ++ page.files).take wanted.toNat := by
  rcases StopsAt.singleton_iff.mp hstops with hwanted | hlast
  · refine List.take_append_of_le_length ?_
    rw [List.length_append]
    omega
  · rw [h.hasMore_eq hpos, decide_eq_false_iff_not, Nat.not_lt] at hlast
    rw [List.drop_eq_nil_of_le hlast, files_nil, List.append_nil]

theorem Answers.cursor_eq {rest : List Object} {most : Nat} {fields : Fields}
    (h : Answers rest most fields) (hmore : most < rest.length) {last : Object}
    (hlast : (rest.take most).getLast? = some last) :
    (Fields.get fields "NextMarker").orElse (.text "") = .text last.key := by
  rw [h.marker hmore last hlast]
  simp [Value.orElse, Value.isTruthy, last.named]

end Remote

namespace Store

open Remote

variable {σ : Type} {s : Store σ}

theorem log_yields (s : Store σ) (level : Log.Level) (message : LogMessage) (fields : Fields) :
    Yields (s.log level message fields) () := by
  intro session
  unfold log
  split
  · exact ⟨session, rfl⟩
  · exact ⟨_, rfl⟩

theorem listedFile_yields (s : Store σ) {o : Object} (h : o.Readable) :
    Yields (s.listedFile (.object o.fields)) (if o.isMarker then none else some o.file) := by
  unfold listedFile
  simp only [o.showsKey, Option.getD_some]
  refine (Yields.ofResult h.size_eq).bind ?_
  refine (Yields.ofResult o.isDirectoryMarker_eq).bind ?_
  cases o.isMarker with
  | true => exact (s.log_yields _ _ _).bind (.pure none)
  | false =>
      refine (Yields.ofResult h.time_eq).bind ?_
      exact (Yields.ofResult h.tag_eq).bind (.pure _)

theorem listedFile_yields_none (s : Store σ) {o : Object}
    (h : Text.maxDigits < o.size.digits.length) (hkey : o.key.toList.getLast? = some '/') :
    Yields (s.listedFile (.object o.fields)) none := by
  have hsize : Payload.size (Fields.get o.fields "Size") = .ok 0 := by
    rw [o.showsSize, Payload.size, o.size.readInt?_text, if_neg (Nat.not_le.mpr h)]
    rfl
  have hmarker : isDirectoryMarker (.text o.key) 0 = .ok true := by
    simp [isDirectoryMarker, hkey]
  unfold listedFile
  simp only [o.showsKey, Option.getD_some]
  refine (Yields.ofResult hsize).bind ?_
  refine (Yields.ofResult hmarker).bind ?_
  exact (s.log_yields _ _ _).bind (.pure none)

theorem enrichListed_yields (s : Store σ) (keyPrefix : Value) (files : List FileInfo)
    {option : GetOption} (h : option.asksMore = false) :
    Yields (s.enrichListed keyPrefix files option) files := by
  refine Yields.tryCatch ?_ _
  unfold enrich
  rw [h, Bool.not_false, Bool.or_true]
  exact .pure files

/-! ## Pages -/

variable {option : GetOption}

theorem readPage_yields (s : Store σ) (request : PageRequest) {rest : List Object}
    {most : Nat} {fields : Fields} (hfields : Answers rest most fields)
    {fileOf : Object → Option FileInfo}
    (hlisted : ∀ o ∈ rest.take most, Yields (s.listedFile (.object o.fields)) (fileOf o))
    (hoption : option.asksMore = false) :
    Yields (s.readPage request option (.value (.object fields)))
      { files := ((rest.take most).map fileOf).filterMap id
        cursor := (Fields.get fields "NextMarker").orElse (.text "")
        isTruncated := decide (most < rest.length) } := by
  have hanswer : Payload.answerFields (Answer.value (.object fields)).toValue = .ok fields := by
    cases fields with
    | nil => rfl
    | cons field fields => rfl
  refine (Yields.ofResult hanswer).bind ?_
  refine (Yields.ofResult hfields.contents.pageObjects).bind ?_
  refine (Yields.mapM_map hlisted).bind ?_
  refine (s.enrichListed_yields request.keyPrefix _ hoption).bind ?_
  rw [hfields.truncated.flag]
  exact .pure _

theorem listPageSize_pos (s : Store σ) : 0 < s.config.listPageSize.val.toNat :=
  Int.lt_toNat.mpr s.config.listPageSize.pos

variable {objects : List Object}

theorem eval_listPage_remote (remote : Holds s.service s.bucket objects)
    {keyPrefix marker : String} {fileOf : Object → Option FileInfo}
    (hlisted : ∀ o ∈ remaining objects keyPrefix marker,
      Yields (s.listedFile (.object o.fields)) (fileOf o))
    (hoption : option.asksMore = false) (session : Session σ) :
    ∃ page later,
      (s.listPage (s.requestAt (.text keyPrefix) (.text marker)) option).eval session =
        (.ok page, later) ∧
      PageOf (remaining objects keyPrefix marker) s.config.listPageSize.val.toNat
        ((((remaining objects keyPrefix marker).take
          s.config.listPageSize.val.toNat).map fileOf).filterMap id) page := by
  obtain ⟨fields, state, hanswer, hfields⟩ := remote.answers keyPrefix marker
    s.config.listPageSize.val.toNat session.state s.listPageSize_pos
  rw [Int.toNat_of_nonneg (Int.le_of_lt s.config.listPageSize.pos)] at hanswer
  have hcall := eval_during_call (.list (.text keyPrefix)) hanswer
  rw [s.listPage_eq option (s.checkPageSize_requestAt _ _)]
  obtain ⟨later, hlater⟩ := s.readPage_yields (s.requestAt (.text keyPrefix) (.text marker))
    hfields (fun o ho => hlisted o (List.mem_of_mem_take ho)) hoption _
  refine ⟨_, later, (eval_bind_ok hcall _).trans hlater, rfl, rfl, ?_⟩
  intro hmore last hlast
  exact hfields.cursor_eq hmore hlast

/-! ## Full listings -/

/-- A full listing from a marker on answers the files of what remains after it. -/
theorem eval_listFrom_remote (remote : Holds s.service s.bucket objects)
    {keyPrefix : String} (readable : ∀ o ∈ objects, o.isUnder keyPrefix = true → o.Readable)
    (hoption : option.asksMore = false) (marker : String) (listed : List FileInfo)
    (session : Session σ) {fuel : Nat}
    (hfuel : (remaining objects keyPrefix marker).length < fuel) :
    ∃ later,
      (s.listFrom (.text keyPrefix) option fuel (.text marker) listed).eval session =
        (.ok (some ((listed ++ files (remaining objects keyPrefix marker)).take
          s.config.listMaxObjects.val.toNat)), later) := by
  induction fuel generalizing marker listed session with
  | zero => exact absurd hfuel (Nat.not_lt_zero _)
  | succ fuel ih =>
      obtain ⟨page, mid, hpage, hof⟩ := eval_listPage_remote remote
        (fun o ho => s.listedFile_yields (readable_of_remaining readable ho)) hoption session
      rw [Store.filterMap_unless] at hof
      have hpos := s.listPageSize_pos
      rw [hof.files_rest, ← List.append_assoc]
      by_cases hstops : StopsAt s.config.listMaxObjects.val listed.length [page]
      · rw [listFrom_succ_stop hpage hstops, hof.take_of_stops hpos hstops]
        exact ⟨_, rfl⟩
      · rw [listFrom_succ_goOn hpage hstops]
        rw [StopsAt.singleton_iff, not_or, Bool.not_eq_false, hof.hasMore_eq hpos,
          decide_eq_true_eq] at hstops
        obtain ⟨last, hlast, hcursor⟩ := hof.exists_cursor hpos hstops.2
        have hafter := remaining_after remote.ascending hlast
        rw [hcursor, ← hafter]
        refine ih last.key (listed ++ page.files) mid ?_
        rw [hafter, List.length_drop]
        omega

end Store

/-! ## Services -/

namespace Remote

theorem answerOf_answers (rest : List Object) (most : Nat) :
    Answers rest most (answerOf rest most) := by
  refine ⟨.list _, .truth _, fun _ last hlast => ?_⟩
  have hget : Fields.get (answerOf rest most) "NextMarker" =
      .text (((rest.take most).getLast?.map Object.key).getD "") :=
    rfl
  rw [hget, hlast]
  rfl

theorem serving_holds {objects : List Object}
    (ascending : objects.Pairwise fun a b => a.key < b.key) (bucket : String) :
    Holds (serving objects) bucket objects where
  ascending := ascending
  answers := fun keyPrefix marker most _ _ =>
    ⟨_, (), rfl, answerOf_answers (remaining objects keyPrefix marker) most⟩

end Remote

end BucketStore
