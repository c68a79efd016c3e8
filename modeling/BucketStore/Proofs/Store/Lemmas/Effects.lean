import BucketStore.Proofs.Enrichment.Lemmas.Files
import BucketStore.Proofs.Store.Walk

/-!
# What the parts of a listing call and log

Reading and enriching the objects of a page neither ask for another page nor log a warning. So a
page asks for itself, once, and warns of nothing.
-/

namespace BucketStore.Store

open BucketStore.Action

variable {σ : Type}

/-! ## Logging and calling -/

theorem log_watched (r : Log.Record) (hr : r.level ≠ .warning) (session : Session σ) :
    Session.watched { session with records := session.records.push r } = session.watched := by
  simp [Session.watched, Session.listCalls, Session.warnings, hr]

theorem log_keeps (s : Store σ) {level : Log.Level} (message : LogMessage) (fields : Fields)
    (hlevel : level ≠ .warning) : Keeps Session.watched (s.log level message fields) := by
  unfold log
  split
  · exact .pure ()
  · exact log_watched _ hlevel

theorem call_watched (s : Store σ) (c : Call) (session : Session σ) :
    ((s.call c).eval session).2.watched =
      (session.listCalls ++ [c].filter Call.isListing, session.warnings) := by
  simp only [call, eval_call]
  simp [Session.watched, Session.listCalls, Session.warnings]

theorem eval_during_call {s : Store σ} {session : Session σ} {c : Call} {answer : Answer} {state : σ}
    (step : Step) (h : s.service.answer c session.state = (.ok answer, state)) :
    (during step (s.call c)).eval session =
      (.ok answer, { session with state, calls := session.calls.push c }) := by
  rw [during, eval_tryCatch, call, eval_call, h]

theorem call_keeps (s : Store σ) {c : Call} (hc : c.isListing = false) :
    Keeps Session.watched (s.call c) := by
  intro session
  rw [call_watched]
  simp [hc, Session.watched]

theorem report_keeps {α : Type} (step : Step) (e : Failure) :
    Keeps Session.watched (report step e : Action σ α) := by
  unfold report
  split
  · exact .throw e
  · refine (Keeps.ofResult _).bind fun r => ?_
    exact Keeps.bind (log_watched (step.record r) nofun) fun _ => .throw _

theorem during_keeps {α : Type} (step : Step) {action : Action σ α}
    (h : Keeps Session.watched action) : Keeps Session.watched (during step action) :=
  h.tryCatch (report_keeps step)

theorem passOn_keeps {α : Type} (logger : String) (message : LogMessage) (fields : Fields)
    (e : Failure) : Keeps Session.watched (passOn logger message fields e : Action σ α) := by
  unfold passOn
  split
  · refine (Keeps.ofResult _).bind fun r => ?_
    exact Keeps.bind (log_watched _ nofun) fun _ => .throw e
  · exact .throw e

/-! ## Parts of a page -/

theorem tagging_keeps (s : Store σ) (key : Value) : Keeps Session.watched (s.tagging key) :=
  (during_keeps _ (s.call_keeps rfl)).bind fun _ => (Keeps.ofResult _).bind fun _ => .ofResult _

theorem signUrl_keeps (s : Store σ) (key : Value) (option : GetOption) :
    Keeps Session.watched (s.signUrl key option) :=
  (Keeps.ofResult _).bind fun _ => (during_keeps _ (s.call_keeps rfl)).bind fun _ => .pure _

/-- Reading an object of a page keeps what the record of one that is left out keeps. -/
theorem listedFile_keeps {γ : Type} {view : Session σ → γ} {s : Store σ}
    (hlog : ∀ fields, Keeps view (s.log .debug .listSkipDir fields)) (object : Value) :
    Keeps view (s.listedFile object) := by
  unfold listedFile
  split
  · refine (Keeps.ofResult _).bind fun size => (Keeps.ofResult _).bind fun isMarker => ?_
    cases isMarker with
    | true => exact (hlog _).bind fun _ => .pure none
    | false => exact (Keeps.ofResult _).bind fun _ => (Keeps.ofResult _).bind fun _ => .pure _
  · exact .throw _

theorem fetchRound_keeps {α : Type} {fetch : Value → Action σ α}
    (h : ∀ key, Keeps Session.watched (fetch key)) (keys : List Value) :
    Keeps Session.watched (fetchRound fetch keys) :=
  (Keeps.mapM (fun key => (h key).outcome) keys).bind fun _ => .ofResult _

theorem fetchEach_keeps {α : Type} (limit : Int) {fetch : Value → Action σ α}
    (h : ∀ key, Keeps Session.watched (fetch key)) (keys : List Value) :
    Keeps Session.watched (fetchEach limit fetch keys) := by
  unfold fetchEach
  split
  · exact .throw _
  · exact (Keeps.mapM (fetchRound_keeps h) _).bind fun _ => .pure _

theorem enrichListed_keeps (s : Store σ) (keyPrefix : Value) (files : List FileInfo)
    (option : GetOption) : Keeps Session.watched (s.enrichListed keyPrefix files option) :=
  Keeps.tryCatch
    (enrich_of_parts (Keeps Session.watched) .pure .bind (fetchEach_keeps _ s.tagging_keeps)
      fun _ => fetchEach_keeps _ fun key => s.signUrl_keeps key _)
    (passOn_keeps _ _ _)

/-! ## Pages -/

/-- The page that an answer to a request holds. -/
def readPage (s : Store σ) (request : PageRequest) (option : GetOption) (answer : Answer) :
    Action σ Page := do
  let fields ← Action.ofResult (Payload.answerFields answer.toValue)
  let objects ← Action.ofResult (pageObjects (Fields.get fields "Contents"))
  let listed ← objects.mapM s.listedFile
  let files ← s.enrichListed request.keyPrefix (listed.filterMap id) option
  return {
    files
    cursor := (Fields.get fields "NextMarker").orElse (.text "")
    isTruncated := Payload.flag ((Fields.get? fields "IsTruncated").getD (.bool false)) }

theorem readPage_keeps (s : Store σ) (request : PageRequest) (option : GetOption)
    (answer : Answer) : Keeps Session.watched (s.readPage request option answer) :=
  (Keeps.ofResult _).bind fun _ => (Keeps.ofResult _).bind fun objects =>
    (Keeps.mapM (listedFile_keeps fun _ => s.log_keeps _ _ nofun) objects).bind fun _ =>
      (s.enrichListed_keeps _ _ _).bind fun _ => .pure _

theorem listPage_eq (s : Store σ) {request : PageRequest} (option : GetOption)
    (hsize : checkPageSize request.pageSize = .ok ()) :
    s.listPage request option =
      during (.list request.keyPrefix)
        (s.call (.listObjects s.bucket request.keyPrefix request.cursor request.pageSize)) >>=
          s.readPage request option := by
  rw [listPage, hsize]
  rfl

/-- A page of a positive size asks for itself and for nothing else, whether it fails or not. -/
theorem listPage_watched (s : Store σ) {request : PageRequest} (option : GetOption)
    (session : Session σ) (hsize : checkPageSize request.pageSize = .ok ()) :
    ((s.listPage request option).eval session).2.watched =
      (session.listCalls ++
        [.listObjects s.bucket request.keyPrefix request.cursor request.pageSize],
        session.warnings) := by
  rw [s.listPage_eq option hsize, Keeps.after_bind (s.readPage_keeps request option)]
  -- The call is logged before it is known whether it fails, and the report of a failure is no page.
  have hcall := s.call_watched
    (.listObjects s.bucket request.keyPrefix request.cursor request.pageSize) session
  rw [during, eval_tryCatch]
  split
  · rename_i answer later heq
    rw [heq] at hcall
    exact hcall
  · rename_i e later heq
    rw [heq] at hcall
    exact (report_keeps _ e later).trans hcall

end BucketStore.Store
