import BucketStore.Proofs.Store.Lemmas.Enriched
import BucketStore.Proofs.Store.Lemmas.Guarded

/-!
# Guarded operations

What is read of an object, of a page and of a full listing is guarded, from the parts to the whole.
-/

namespace BucketStore.Store

open BucketStore.Action

variable {σ : Type} (s : Store σ) {documented : Failure → Prop}

/-! ## Objects -/

section objects

variable (hremote : ∀ (c : Call) (text : String), documented (c.remoteError text))
include hremote

theorem tagging_guards (key : Value) : Guards s.service documented True (s.tagging key) := by
  refine Guards.ask (c := .getObjectTagging s.bucket key)
    (fun _ => eval_report_handled (hremote _) rfl) fun answer => ?_
  refine Guards.congr (.read (Misreads.answerFields answer.toValue) fun fields =>
    .ofResult (Misreads.ofAnswer (Fields.get fields "TagSet"))) ?_
  simp only [Call.Reads, TaggingReads, ← Payload.answerFields_ok_iff, ← TagMap.ofAnswer_ok_iff]

theorem signUrl_guards {option : GetOption} {lifetime : Value}
    (hlifetime : s.urlLifetime option = .ok lifetime) (key : Value) :
    Guards s.service documented True (s.signUrl key option) := by
  rw [signUrl, hlifetime]
  refine Guards.ask (c := .signUrl s.bucket key "GET" lifetime)
    (fun _ => eval_report_handled (hremote _) rfl) fun answer => ?_
  exact .pure trivial _

theorem head_guards {key : Value} {option : GetOption}
    (hmissing : documented (.storage (.objectNotFound key [])))
    (hexpire : option.HasLifetime) :
    Guards s.service documented True (s.head key option) := by
  have hread : ∀ (headers : Value) (tags : Option TagMap) (url : Value),
      Guards s.service documented (HeadersRead headers) (do
        let file ← Action.ofResult (ofHeaders key headers)
        return { file with tagging := tags, url }) := fun headers _ _ =>
    .congr (.read (Misreads.ofHeaders key headers) fun _ => .pure trivial _)
      (by simp only [and_true, ofHeaders_ok_iff])
  have hsigned : ∀ (headers : Value) (tags : Option TagMap),
      Guards s.service documented (HeadersRead headers) (do
        let url ← if option.withUrl then s.signUrl key option else pure .null
        let file ← Action.ofResult (ofHeaders key headers)
        return { file with tagging := tags, url }) := by
    intro headers tags
    obtain ⟨lifetime, hlifetime⟩ := s.urlLifetime_ok hexpire
    cases hasked : option.withUrl with
    | false => exact (Guards.pure trivial _).andThen fun _ => hread headers tags _
    | true =>
        exact (s.signUrl_guards hremote (hlifetime hasked) key).andThen fun _ =>
          hread headers tags _
  have hheaders : s.head key option = (tryCatch (s.call (.headObject s.bucket key)) fun e =>
      if e.isNotFound then throw (.storage (.objectNotFound key [])) else report (.head key) e) >>=
    fun answer => do
      let tags ← if option.withTagging then s.tagging key else pure none
      let url ← if option.withUrl then s.signUrl key option else pure .null
      let file ← Action.ofResult (ofHeaders key answer.toValue)
      return { file with tagging := tags, url } := by
    rw [head, headers, bind_assoc]
    rfl
  rw [hheaders]
  refine Guards.ask (s.headers_handles key (hremote _) hmissing) fun answer => ?_
  cases option.withTagging with
  | false => exact (Guards.pure trivial _).andThen fun _ => hsigned _ _
  | true => exact (s.tagging_guards hremote key).andThen fun _ => hsigned _ _

end objects

/-! ## Whether an object is there -/

section contains

variable {key : Value} {session : Session σ}

theorem contains_answered_ok {answer : Answer}
    (hanswer : (s.service.answer (.headObject s.bucket key) session.state).1 = .ok answer) :
    Answered s.service (.headObject s.bucket key) session ((s.contains key).eval session) := by
  rw [eval_contains, s.eval_headers_ok hanswer]
  cases hread : ofHeaders key answer.toValue with
  | ok file =>
      simp only [hread]
      exact .there hanswer (ofHeaders_ok_iff.mp ⟨file, hread⟩)
  | error e =>
      have hforeign := (Misreads.ofHeaders key _).isStorage hread
      simp only [hread, isMissing_of_not_isStorage hforeign]
      refine .unread hanswer (fun hreads => ?_) hforeign
      obtain ⟨file, hfile⟩ := (@ofHeaders_ok_iff key _).mpr hreads
      rw [hread] at hfile
      cases hfile

theorem contains_answered_error {e : Failure}
    (hanswer : (s.service.answer (.headObject s.bucket key) session.state).1 = .error e) :
    Answered s.service (.headObject s.bucket key) session ((s.contains key).eval session) := by
  rw [eval_contains]
  cases hmissing : e.isNotFound with
  | true =>
      rw [s.eval_headers_missing hanswer hmissing]
      exact .missing hanswer (by simp [Call.missing?, hmissing])
  | false =>
      have hnone : (Call.headObject s.bucket key).missing? e = none := by
        simp [Call.missing?, hmissing]
      have hhandled := @eval_report_handled σ Answer Failure.IsRemote _ e
        (fun text => ⟨_, text, rfl⟩) hnone (session.called s.service (.headObject s.bucket key))
      generalize hreport : (report (stepOf (.headObject s.bucket key)) e : Action σ Answer).eval
        (session.called s.service (.headObject s.bucket key)) = came at hhandled
      cases hhandled with
      | told hexception htext htold _ =>
          rw [s.eval_headers_report hanswer hmissing hreport,
            (htold.remote hnone hexception _ htext).1]
          exact .failed hanswer hnone hexception htext
      | untold huntold hforeign =>
          rw [s.eval_headers_report hanswer hmissing hreport]
          simp only [isMissing_of_not_isStorage hforeign]
          exact .untold hanswer huntold hforeign

variable (key session)

theorem contains_answered :
    Answered s.service (.headObject s.bucket key) session ((s.contains key).eval session) := by
  cases hanswer : (s.service.answer (.headObject s.bucket key) session.state).1 with
  | ok answer => exact s.contains_answered_ok hanswer
  | error e => exact s.contains_answered_error hanswer

end contains

/-! ## Pages -/

theorem listedFile_guards (object : Value) :
    Guards s.service documented (ObjectReads object) (s.listedFile object) := by
  cases object with
  | object fields =>
      refine Guards.congr (.read (Misreads.size _) fun n =>
        .read (Misreads.isDirectoryMarker _ n) fun isMarker => ?_) objectReads_iff.symm
      cases isMarker with
      | true =>
          exact (s.log_guards _ _ _).andThen fun _ => .pure nofun none
      | false =>
          refine .congr (.read (Misreads.listedTime _) fun t =>
            .read (Misreads.entityTag _) fun etag => .pure trivial _) ?_
          simp
  | _ => exact .throw rfl nofun

section listings

variable {option : GetOption} (hexpire : option.HasLifetime)
include hexpire

theorem enrichListed_guards (keyPrefix : Value) (files : List FileInfo) :
    Guards s.service Failure.IsRemote True (s.enrichListed keyPrefix files option) := by
  have hremote : ∀ (c : Call) (text : String), (c.remoteError text).IsRemote :=
    fun c text => ⟨c, text, rfl⟩
  have hlimit := s.config.fanoutConcurrency.pos
  obtain ⟨lifetime, hlifetime⟩ := s.urlLifetime_ok hexpire
  refine passOn_guards (enrich_of_parts (Guards s.service Failure.IsRemote True) (.pure trivial)
    .andThen ?_ ?_) (fun _ h => h.text) _ _ _
  · exact fetchEach_guards (s.tagging_guards hremote) hlimit
  · intro hasked
    exact fetchEach_guards (s.signUrl_guards hremote (hlifetime hasked)) hlimit

theorem readPage_guards (request : PageRequest) (answer : Answer) :
    Guards s.service Failure.IsRemote (PageReads answer.toValue)
      (s.readPage request option answer) := by
  refine Guards.congr (.read (Misreads.answerFields _) fun fields =>
    .read (Misreads.pageObjects _) fun objects =>
      (Guards.mapM s.listedFile_guards objects).bind fun listed =>
        (s.enrichListed_guards hexpire _ _).andThen fun _ => .pure trivial _) ?_
  simp only [PageReads, Payload.answerFields_ok_iff, pageObjects_ok_iff, and_true,
    exists_and_left]

theorem listPage_guards {request : PageRequest}
    (hsize : checkPageSize request.pageSize = .ok ()) :
    Guards s.service Failure.IsRemote True (s.listPage request option) := by
  rw [s.listPage_eq option hsize]
  exact Guards.ask (fun _ => eval_report_handled (fun text => ⟨_, text, rfl⟩) rfl)
    (s.readPage_guards hexpire request)

theorem listFrom_guards (keyPrefix : Value) (fuel : Nat) (cursor : Value)
    (listed : List FileInfo) :
    Guards s.service Failure.IsRemote True (s.listFrom keyPrefix option fuel cursor listed) := by
  induction fuel generalizing cursor listed with
  | zero => exact .pure trivial none
  | succ fuel ih =>
      refine (s.listPage_guards hexpire (s.checkPageSize_requestAt keyPrefix cursor)).andThen
        fun page => ?_
      simp only
      split
      · exact (s.log_guards _ _ _).andThen fun _ => .pure trivial _
      · split
        · exact ih page.cursor _
        · exact .pure trivial _

end listings

end BucketStore.Store
