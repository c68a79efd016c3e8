import BucketStore.Proofs.Store.Lemmas.Extras

/-!
# Listing an object and looking at it

Where the service answers by what it is asked alone, a listing and a look at one object find the
same tags and the same URL, with the same calls. If the tags or the URL of an object cannot be had,
no page with that object can be listed.
-/

namespace BucketStore.Store

open BucketStore.Action

variable {σ : Type} {s : Store σ} {option : GetOption}

/-! ## Looking at an object -/

theorem head_eq (s : Store σ) (key : Value) (option : GetOption) :
    s.head key option =
      s.headers key >>= fun headers =>
      s.extras key option >>= fun extra =>
      Action.ofResult (ofHeaders key headers) >>= fun file =>
      pure { file with tagging := extra.1, url := extra.2 } := by
  rw [head]
  simp only [extras_eq, bind_assoc, pure_bind]
  cases option.withTagging <;> cases option.withUrl <;> rfl

/-- Where headers that can be read come, and the tags and the URL, the object is found with these. -/
theorem eval_head_ok {key url : Value} {tags : Option TagMap} {calls : List Call}
    (hextras : Acts (s.extras key option) (.ok (tags, url)) calls) {session : Session σ}
    {answer : Answer}
    (hanswer : (s.service.answer (.headObject s.bucket key) session.state).1 = .ok answer)
    (hreads : HeadersRead answer.toValue) :
    ∃ file later, (s.head key option).eval session = (.ok file, later) ∧
      file.tagging = tags ∧ file.url = url ∧
      later.calls = session.calls ++ (Call.headObject s.bucket key :: calls).toArray := by
  obtain ⟨file, hfile⟩ : ∃ file, ofHeaders key answer.toValue = .ok file :=
    ofHeaders_ok_iff.mpr hreads
  obtain ⟨later, heval, hcalls⟩ :=
    hextras.eval (session.called s.service (.headObject s.bucket key))
  refine ⟨{ file with tagging := tags, url := url }, later, ?_, rfl, rfl, ?_⟩
  · rw [head_eq, eval_bind_ok (s.eval_headers_ok hanswer), eval_bind_ok heval, hfile]
    rfl
  · rw [hcalls]
    simp [Session.called]

theorem eval_head_of_failsAfterHeaders {key : Value} {session : Session σ} {e : Failure}
    (h : s.FailsAfterHeaders key option session e) :
    ((s.head key option).eval session).1 = .error e := by
  obtain ⟨headers, mid, later, hheaders, hextras⟩ := h
  rw [head_eq, eval_bind_ok hheaders, eval_bind_error hextras]

/-- Where headers that can be read come, nothing else fails than fetching the tags or the URL. -/
theorem eval_head_error_iff {key : Value} {session : Session σ} {answer : Answer}
    (hanswer : (s.service.answer (.headObject s.bucket key) session.state).1 = .ok answer)
    (hreads : HeadersRead answer.toValue) {e : Failure} :
    ((s.head key option).eval session).1 = .error e ↔ s.FailsAfterHeaders key option session e := by
  refine ⟨fun hfails => ?_, eval_head_of_failsAfterHeaders⟩
  obtain ⟨file, hfile⟩ : ∃ file, ofHeaders key answer.toValue = .ok file :=
    ofHeaders_ok_iff.mpr hreads
  rw [head_eq, eval_bind_ok (s.eval_headers_ok hanswer)] at hfails
  cases hextras : (s.extras key option).eval
      (session.called s.service (.headObject s.bucket key)) with
  | mk outcome later =>
    cases outcome with
    | error e' =>
      rw [eval_bind_error hextras] at hfails
      cases hfails
      exact ⟨_, _, later, s.eval_headers_ok hanswer, hextras⟩
    | ok extra =>
      rw [eval_bind_ok hextras, hfile] at hfails
      cases hfails

/-! ## Listing a page -/

theorem log_calls (s : Store σ) (level : Log.Level) (message : LogMessage) (fields : Fields) :
    Keeps Session.calls (s.log level message fields) := by
  unfold log
  split
  · exact .pure ()
  · exact fun _ => rfl

/-- An object is listed without tags and a URL. It is left out just if it stands for a directory. -/
theorem of_listedFile_ok {object : Value} {session later : Session σ} {file? : Option FileInfo}
    (hok : (s.listedFile object).eval session = (.ok file?, later)) :
    (∀ f, file? = some f → f.tagging = none ∧ f.url = .null) ∧
      ∀ key, ListedAs key object → ∃ f, file? = some f ∧ f.key = key := by
  unfold listedFile at hok
  cases object with
  | object fields =>
    obtain ⟨size, hsize, hok⟩ := of_eval_ofResult_bind_ok hok
    obtain ⟨isMarker, hmarker, hok⟩ := of_eval_ofResult_bind_ok hok
    cases isMarker with
    | true =>
      obtain ⟨_, mid, -, hok⟩ := of_eval_bind_ok hok
      cases hok
      refine ⟨by simp, fun key hlisted => ?_⟩
      obtain ⟨rfl, hfile⟩ := hlisted
      obtain ⟨-, hnone⟩ | ⟨rfl, text, hkey, hslash⟩ := isDirectoryMarker_ok_iff.mp hmarker
      · cases hnone
      · exact absurd ⟨hsize, text, hkey, by simpa using hslash.symm⟩ hfile
    | false =>
      obtain ⟨time, -, hok⟩ := of_eval_ofResult_bind_ok hok
      obtain ⟨tag, -, hok⟩ := of_eval_ofResult_bind_ok hok
      cases hok
      refine ⟨?_, fun key hlisted => ?_⟩
      · rintro f ⟨⟩
        exact ⟨rfl, rfl⟩
      · obtain ⟨rfl, -⟩ := hlisted
        exact ⟨_, rfl, rfl⟩
  | _ => cases hok

/-- The objects of a page are listed one by one. -/
theorem of_mapM_listedFile_ok {objects : List Value} {session later : Session σ}
    {listed : List (Option FileInfo)}
    (hok : (objects.mapM s.listedFile).eval session = (.ok listed, later)) :
    (∀ f ∈ listed.filterMap id, f.tagging = none ∧ f.url = .null) ∧
      ∀ object ∈ objects, ∀ key, ListedAs key object →
        ∃ f ∈ listed.filterMap id, f.key = key := by
  induction objects generalizing session listed with
  | nil =>
    cases hok
    simp
  | cons object objects ih =>
    rw [List.mapM_cons] at hok
    obtain ⟨file?, mid, hfirst, hok⟩ := of_eval_bind_ok hok
    obtain ⟨rest, mid', hrest, hok⟩ := of_eval_bind_ok hok
    cases hok
    obtain ⟨hplain, hkey⟩ := of_listedFile_ok hfirst
    obtain ⟨hplain', hkey'⟩ := ih hrest
    have hmem : ∀ f, f ∈ (file? :: rest).filterMap id ↔ file? = some f ∨ f ∈ rest.filterMap id := by
      cases file? <;> simp [eq_comm]
    refine ⟨fun f hf => ?_, fun o ho key hlisted => ?_⟩
    · exact ((hmem f).mp hf).elim (hplain f) (hplain' f)
    · rcases List.mem_cons.mp ho with rfl | ho
      · obtain ⟨f, hf, hfkey⟩ := hkey key hlisted
        exact ⟨f, (hmem f).mpr (.inl hf), hfkey⟩
      · obtain ⟨f, hf, hfkey⟩ := hkey' o ho key hlisted
        exact ⟨f, (hmem f).mpr (.inr hf), hfkey⟩

theorem of_listPage_ok (h : s.service.AnswersAlike) {request : PageRequest} {page : Page}
    {session later : Session σ}
    (hok : (s.listPage request option).eval session = (.ok page, later)) :
    (later.calls = session.calls ++
        (s.pageCall request :: s.extraCalls option (page.files.map fun f => f.key)).toArray) ∧
      (∀ f ∈ page.files,
        Acts (s.extras f.key option) (.ok (f.tagging, f.url)) (s.extraCalls option [f.key])) ∧
      ∀ answer key, (s.service.answer (s.pageCall request) session.state).1 = .ok answer →
        PageKeeps answer.toValue key → ∃ f ∈ page.files, f.key = key := by
  cases hsize : checkPageSize request.pageSize with
  | error e =>
    rw [listPage, hsize] at hok
    cases hok
  | ok _ =>
    rw [s.listPage_eq option hsize] at hok
    obtain ⟨answer, asked, hcall, hok⟩ := of_eval_bind_ok hok
    obtain ⟨fields, hfields, hok⟩ := of_eval_ofResult_bind_ok hok
    obtain ⟨objects, hobjects, hok⟩ := of_eval_ofResult_bind_ok hok
    obtain ⟨listed, seen, hlisted, hok⟩ := of_eval_bind_ok hok
    obtain ⟨files, _, hfiles, hok⟩ := of_eval_bind_ok hok
    cases hok
    obtain ⟨hplain, hkept⟩ := of_mapM_listedFile_ok hlisted
    obtain ⟨hcalls, tags, url, rfl, hacts⟩ := of_enrichListed_ok h hfiles
    refine ⟨?calls, fun f hf => ?files, fun answer' key hanswer hkeeps => ?keeps⟩
    case calls =>
      have hasked := s.calls_during_call (s.pageCall request) (.list request.keyPrefix) session
      rw [pageCall, hcall] at hasked
      have hseen : seen.calls = asked.calls :=
        Keeps.of_eval (Keeps.mapM (listedFile_keeps fun _ => s.log_calls _ _ _) objects) hlisted
      have hkeys : ((listed.filterMap id).map fun f => f.enriched option (tags f.key)
          (url f.key)).map (fun f => f.key) = (listed.filterMap id).map fun f => f.key := by
        rw [List.map_map]
        rfl
      rw [hcalls, hseen, hasked, hkeys]
      simp [pageCall]
    case files =>
      obtain ⟨g, hg, rfl⟩ := List.mem_map.mp hf
      obtain ⟨htagging, hurl⟩ := hplain g hg
      have hg := hacts g hg
      rw [← htagging, ← hurl] at hg
      exact hg
    case keeps =>
      obtain ⟨fields', objects', hfields', hobjects', object, hobject, hkey⟩ := hkeeps
      have hsame := hcall.symm.trans
        (eval_during_call (.list request.keyPrefix) (Prod.ext hanswer rfl))
      cases hsame
      cases hfields.symm.trans (Payload.answerFields_ok_iff.mpr hfields')
      cases hobjects.symm.trans (pageObjects_ok_iff.mpr hobjects')
      obtain ⟨f, hf, rfl⟩ := hkept object hobject key hkey
      exact ⟨_, List.mem_map_of_mem hf, rfl⟩

/-! ## The two compared -/

/-- A listed file has the tags and the URL that looking at it with the same option finds, and both
take the same calls, for the same time if a URL is asked for. If looking at an object fails with its
tags or its URL, so does listing a page with it; if its headers can be read, it fails in no other
way. -/
theorem listing_agrees_with_head (h : s.service.AnswersAlike) (option : GetOption) :
    (∀ (request : PageRequest) (session : Session σ) (page : Page) (later : Session σ),
      (s.listPaginated (some request) option).eval session = (.ok page, later) →
      later.calls = session.calls ++
        (s.pageCall request :: s.extraCalls option (page.files.map fun f => f.key)).toArray ∧
      ∀ f ∈ page.files, ∀ (session' : Session σ) (answer : Answer),
        (s.service.answer (.headObject s.bucket f.key) session'.state).1 = .ok answer →
        HeadersRead answer.toValue →
        ∃ file later', (s.head f.key option).eval session' = (.ok file, later') ∧
          file.tagging = f.tagging ∧ file.url = f.url ∧
          later'.calls = session'.calls ++
            (Call.headObject s.bucket f.key :: s.extraCalls option [f.key]).toArray) ∧
    ∀ (key : Value) (session : Session σ) (e : Failure),
      (s.FailsAfterHeaders key option session e →
        ((s.head key option).eval session).1 = .error e ∧
        ∀ (request : PageRequest) (session' : Session σ) (answer : Answer),
          (s.service.answer (s.pageCall request) session'.state).1 = .ok answer →
          PageKeeps answer.toValue key →
          ∃ e', ((s.listPaginated (some request) option).eval session').1 = .error e') ∧
      ∀ answer, (s.service.answer (.headObject s.bucket key) session.state).1 = .ok answer →
        HeadersRead answer.toValue → ((s.head key option).eval session).1 = .error e →
        s.FailsAfterHeaders key option session e := by
  refine ⟨fun request session page later hok => ?_, fun key session e => ⟨fun hfails => ?_, ?_⟩⟩
  · obtain ⟨hcalls, hfiles, -⟩ := of_listPage_ok h hok
    exact ⟨hcalls, fun f hf session' answer => eval_head_ok (hfiles f hf)⟩
  · refine ⟨eval_head_of_failsAfterHeaders hfails, fun request session' answer hanswer hkeeps => ?_⟩
    cases hlisted : (s.listPaginated (some request) option).eval session' with
    | mk outcome later =>
      cases outcome with
      | error e' => exact ⟨e', rfl⟩
      | ok page =>
        obtain ⟨-, hfiles, hkept⟩ := of_listPage_ok h hlisted
        obtain ⟨f, hf, rfl⟩ := hkept answer key hanswer hkeeps
        obtain ⟨headers, mid, later', -, hextras⟩ := hfails
        obtain ⟨heq, -⟩ := (hfiles f hf).of_eval hextras
        cases heq
  · exact fun answer hanswer hreads => (eval_head_error_iff hanswer hreads).mp

/-- A service of two objects that signs no URL for the second one. -/
def halfSigning : Service Unit where
  client
    | .listObjects _ _ _ _, state =>
      (.ok (.value (.object [("Contents", .list [
        .object [("Key", .text "a"), ("Size", .int 1)],
        .object [("Key", .text "b"), ("Size", .int 2)]])])), state)
    | .headObject _ _, state => (.ok (.value (.object [("Content-Length", .int 1)])), state)
    | .getObjectTagging _ key, state =>
      (.ok (.value (.object [("TagSet", .list [
        .object [("Key", .text "owner"), ("Value", key)]])])), state)
    | .signUrl _ key _ expires, state =>
      (if key.sameKey (.text "b") then .error .overflow
        else .ok (.value (.list [key, expires])), state)
    | _, state => (.ok (.value .null), state)

def halfSigner : Store Unit where
  config := default
  endpoint := default
  service := halfSigning
  debug := false

/-- The page of both objects with their tags. -/
def halfSigner.page : Page where
  files := [
    { key := .text "a", size := .int 1, tagging := some [(.text "owner", .text "a")] },
    { key := .text "b", size := .int 2, tagging := some [(.text "owner", .text "b")] }]

theorem listing_agrees_with_head_half_signed :
    ((halfSigner.listPaginated (some { pageSize := .int 2 }) { withTagging := true }).eval
        { state := () }).1 = .ok halfSigner.page ∧
    (∃ file later, (halfSigner.head (.text "b") { withTagging := true }).eval { state := () } =
      (.ok file, later) ∧ file.tagging = some [(.text "owner", .text "b")]) ∧
    ∃ e e', halfSigner.FailsAfterHeaders (.text "b") { withUrl := true, expire := .int (-5) }
        { state := () } e ∧
      ((halfSigner.listPaginated (some { pageSize := .int 2 })
        { withUrl := true, expire := .int (-5) }).eval { state := () }).1 = .error e' := by
  have alike : halfSigner.service.AnswersAlike :=
    ⟨fun _ _ _ _ => rfl, fun _ _ _ _ _ _ => rfl⟩
  have hpage : ((halfSigner.listPaginated (some { pageSize := .int 2 })
      { withTagging := true }).eval { state := () }).1 = .ok halfSigner.page := by
    -- keys are fetched in rounds, which are not defined by structural recursion
    with_unfolding_all rfl
  refine ⟨hpage, ?_, ?_⟩
  · obtain ⟨-, hagrees⟩ := (listing_agrees_with_head alike { withTagging := true }).1
      { pageSize := .int 2 } { state := () } halfSigner.page _ (Prod.ext hpage rfl)
    obtain ⟨file, later, hfile, htagging, -⟩ :=
      hagrees _ (List.mem_cons_of_mem _ List.mem_cons_self) { state := () } _ rfl
        ⟨_, .object _, nofun, .inl rfl, .inl rfl⟩
    exact ⟨file, later, hfile, htagging⟩
  · obtain ⟨e, hfails⟩ : ∃ e, halfSigner.FailsAfterHeaders (.text "b")
        { withUrl := true, expire := .int (-5) } { state := () } e :=
      ⟨_, _, _, _, rfl, rfl⟩
    have hkeeps : PageKeeps (.object [("Contents", .list [
        .object [("Key", .text "a"), ("Size", .int 1)],
        .object [("Key", .text "b"), ("Size", .int 2)]])]) (.text "b") :=
      ⟨_, _, .object _, .list _, _, List.mem_cons_of_mem _ List.mem_cons_self,
        .file rfl fun h => nomatch h.1⟩
    obtain ⟨-, hlisting⟩ := ((listing_agrees_with_head alike
      { withUrl := true, expire := .int (-5) }).2 (.text "b") { state := () } e).1 hfails
    obtain ⟨e', he'⟩ := hlisting { pageSize := .int 2 } { state := () } _ rfl hkeeps
    exact ⟨e, e', hfails, he'⟩

end BucketStore.Store
