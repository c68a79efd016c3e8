import BucketStore.Proofs.Store.Lemmas.Contains
import BucketStore.Proofs.Store.Theorems

/-!
# Failing operations

What comes of a failure that a call to the service raises: the operation stops there, fails with the
error of the library for that call, and logs one record of it. Only an object that is not there,
when its headers are asked for, is something else. What a call raises in its own thread is what its
operation gets, but for the few kinds of failure that are handed over in another form.
-/

namespace BucketStore

/-! ## From one thread to another -/

/-- What may come of a failure in the thread of a call for the one who waits for it. -/
inductive Failure.Arrives (e : Failure) : Failure → Prop
  | alike {came : Failure} : came.isException = e.isException → came.typeName = e.typeName →
      came.text = e.text → came.isNotFound = e.isNotFound → e.Arrives came
  | pathless {vs : List Value} : e = .fault .timedOut vs → vs.length ≤ Failure.maxSystemArguments →
      Failure.systemPaths .timedOut vs ≠ [] → e.Arrives (.fault .timedOut (vs.take 2))
  | cancelled : e.typeName = "CancelledError" → e.namePrefix = "concurrent.futures._base." →
      e.Arrives .cancelled

theorem Failure.Arrives.refl (e : Failure) : e.Arrives e :=
  .alike rfl rfl rfl rfl

theorem Failure.arrives_handedOver (e : Failure) : e.Arrives e.handedOver := by
  unfold Failure.handedOver
  split
  case h_1 vs =>
    rw [Fault.keptArguments]
    split
    · next h => exact .pathless rfl h.1 h.2
    · exact .refl _
  case h_2 => exact .cancelled rfl rfl
  case h_3 => exact .alike rfl rfl rfl rfl
  case h_4 => exact .refl _

/-- A call raises something for the one who waits just where it raises something in its thread. -/
theorem Service.raised_arrives {σ : Type} (service : Service σ) (c : Call) (state : σ) :
    Option.Rel Failure.Arrives (Exchange.raised? ⟨c, (service.client c state).1⟩)
      (Exchange.raised? ⟨c, (service.answer c state).1⟩) := by
  have hcame : (service.answer c state).1 =
      ((service.client c state).1.mapError Failure.handedOver).map Answer.handedOver := rfl
  rw [hcame]
  cases (service.client c state).1 with
  | error e => exact .some e.arrives_handedOver
  | ok answer =>
    cases hreading : c.isReading with
    | false =>
      simp only [Exchange.raised?, hreading, Except.mapError, Except.map]
      exact .none
    | true =>
      simp only [Exchange.raised?, hreading, Except.mapError, Except.map, ↓reduceIte]
      cases answer with
      | value v => exact .some (.refl _)
      | object content =>
        cases content with
        | ok bytes => exact .none
        | error e => exact .some e.arrives_handedOver

end BucketStore

namespace BucketStore.Store

open BucketStore.Action

/-! ## Operations -/

variable {σ : Type}

/-- The operations of a store report what their calls raise. A listing reports what the call for its
page raises, before anything else is called. -/
structure ReportsFailures (s : Store σ) : Prop where
  put : ∀ key content option, Reports s.service (s.put key content option)
  putReader : ∀ key content option, Reports s.service (s.putReader key content option)
  fetch : ∀ key, Reports s.service (s.fetch key)
  delete : ∀ key, Reports s.service (s.delete key)
  signUrl : ∀ key option, Reports s.service (s.signUrl key option)
  resourceUrl : ∀ uri, Reports s.service (s.resourceUrl uri)
  head : ∀ key option, Reports s.service (s.head key option)
  contains : ∀ key session,
    Found s.service (.headObject s.bucket key) session ((s.contains key).eval session)
  ensureBucket : Reports s.service s.ensureBucket
  listPaginated : ∀ request option session e, checkPageSize request.pageSize = .ok () →
    (s.service.answer (s.pageCall request) session.state).1 = .error e →
    ∃ told logged, (s.listPaginated (some request) option).eval session =
        (.error told, (session.called s.service (s.pageCall request)).logged logged) ∧
      (s.pageCall request).Told e told logged

/-- Every store reports failures, whatever its service does, and so does opening one; and what a call
raises in its own thread is what arrives to be reported. -/
theorem reports_failures :
    (∀ s : Store σ, s.ReportsFailures) ∧
    (∀ (service : Service σ) (debug : Bool) (config : BucketConfig),
      Reports service (openWith service debug config)) ∧
    ∀ (service : Service σ) (c : Call) (state : σ),
      Option.Rel Failure.Arrives (Exchange.raised? ⟨c, (service.client c state).1⟩)
        (Exchange.raised? ⟨c, (service.answer c state).1⟩) := by
  refine ⟨fun s => ?_, openWith_reports, Service.raised_arrives⟩
  exact {
    put := fun key content option => s.putReader_reports key content _
    putReader := s.putReader_reports
    fetch := s.fetch_reports
    delete := s.delete_reports
    signUrl := s.signUrl_reports
    resourceUrl := fun uri => s.signUrl_reports uri {}
    head := s.head_reports
    contains := s.contains_found
    ensureBucket := s.ensureBucket_reports
    listPaginated := fun _ option _ _ hsize he => s.eval_listPage_raised option hsize he }

/-- An error of the library that has a number in place of its message, and so no text. -/
def untold : Failure :=
  .storage (.general (.int 5) .null .null)

/-- A cancelled future, in the thread of a call. -/
def cancelledFuture : Failure :=
  .foreign "CancelledError" "concurrent.futures._base." "" (by decide)

/-- A failure without a text is neither reported nor logged, and no more is a future that was
cancelled in the thread of the call; of a deadline that passed the path is not told. -/
theorem delete_untold :
    untold.isException = true ∧
    (scripted.service.answer (.deleteObject scripted.bucket (.text "a"))
      [("delete_object", .fail untold)]).1 = .error untold ∧
    ((scripted.delete (.text "a")).eval { state := [("delete_object", .fail untold)] }).1 =
      .error (.badType "__str__ returned non-string (type int)") ∧
    (∀ text, ((scripted.delete (.text "a")).eval
      { state := [("delete_object", .fail untold)] }).1 ≠
        .error ((Call.deleteObject scripted.bucket (.text "a")).remoteError text)) ∧
    ((scripted.delete (.text "a")).eval
      { state := [("delete_object", .fail untold)] }).2.errors = [] ∧
    cancelledFuture.isException = true ∧
    ((scripted.delete (.text "a")).eval
      { state := [("delete_object", .fail cancelledFuture)] }).1 = .error .cancelled ∧
    ((scripted.delete (.text "a")).eval
      { state := [("delete_object", .fail cancelledFuture)] }).2.errors = [] ∧
    Failure.text (.fault .timedOut [.int 110, .text "timed out", .text "file"]) =
      .ok "[Errno 110] timed out: 'file'" ∧
    ((scripted.delete (.text "a")).eval
      { state := [("delete_object",
        .fail (.fault .timedOut [.int 110, .text "timed out", .text "file"]))] }).1 =
      .error ((Call.deleteObject scripted.bucket (.text "a")).remoteError
        "[Errno 110] timed out") := by
  refine ⟨rfl, rfl, rfl, fun text => ?_, rfl, rfl, rfl, rfl, by rfl, by rfl⟩
  nofun

end BucketStore.Store
