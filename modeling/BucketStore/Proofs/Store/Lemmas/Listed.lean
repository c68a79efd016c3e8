import BucketStore.Proofs.Store.Lemmas.Fetched
import BucketStore.Proofs.Store.Lemmas.Flags

/-!
# Listed entries

Objects are listed as the entries that they read as, one after the other, and what stands for a
directory is left out. Stores whose services answer alike read a page alike.
-/

namespace BucketStore

open BucketStore.Action

/-! ## Readings -/

namespace Payload

theorem TimeIs.listedTime {v : Value} {t : Time.DateTime} (h : TimeIs v t) :
    Payload.listedTime v = .ok t := by
  cases h with
  | absent habsent => exact if_pos (by simp [habsent])
  | @text s t hne ht =>
      have hpresent : (Value.text s).isTruthy = true := by simp [Value.isTruthy, hne]
      simp only [Payload.listedTime, timeBy, hpresent, Bool.not_true, Bool.false_eq_true, if_false]
      exact ht

theorem entityTag_text (s : String) :
    entityTag (.text s) = .ok (.ofList (Text.trimBy (fun c => c == '"') s.toList)) := by
  by_cases hempty : s = ""
  · subst hempty
    rfl
  · have hpresent : (Value.text s).isTruthy = true := by simp [Value.isTruthy, hempty]
    rw [entityTag, Value.orElse, if_pos hpresent]

theorem TagIs.entityTag {v : Value} {tag : String} (h : TagIs v tag) :
    Payload.entityTag v = .ok tag := by
  cases h with
  | absent habsent =>
      rw [Payload.entityTag, Value.orElse, habsent]
      rfl
  | @text s tag before after hs hfirst hlast =>
      have hquotes : ∀ n, ∀ c ∈ List.replicate n '"', (c == '"') = true := by
        intro n c hc
        rw [List.eq_of_mem_replicate hc]
        rfl
      have hother : ∀ {end? : Option Char}, end? ≠ some '"' → ∀ c ∈ end?, (c == '"') = false := by
        intro end? hend c hc
        rw [beq_eq_false_iff_ne]
        rintro rfl
        exact hend hc
      rw [entityTag_text, hs, Text.trimBy_append (hquotes before) (hquotes after),
        Text.trimBy_of_ends (hother hfirst) (hother hlast), String.ofList_toList]

theorem saysTrue_getD_iff (fields : Fields) (name : String) :
    SaysTrue ((Fields.get? fields name).getD (.bool false)) ↔ SaysTrue (Fields.get fields name) := by
  rw [Fields.get?, Fields.get]
  cases fields.lookup name with
  | some v => rfl
  | none => exact ⟨nofun, nofun⟩

end Payload

namespace Store

variable {σ : Type} {s t : Store σ}

/-! ## Entries -/

theorem skipRecords_nil (s : Store σ) : s.skipRecords [] = [] := by
  simp [skipRecords, PageEntry.skipped]

theorem skipRecords_cons (s : Store σ) (e : PageEntry) (entries : List PageEntry) :
    s.skipRecords (e :: entries) =
      (if e.isMarker && s.debug then [e.skipRecord] else []) ++ s.skipRecords entries := by
  cases hdebug : s.debug <;> cases hmarker : e.isMarker <;>
    simp [skipRecords, PageEntry.skipped, hdebug, hmarker]

theorem log_debug_runs (s : Store σ) (message : LogMessage) (fields : Fields) (state : σ) :
    Runs (s.log .debug message fields) state (.ok ()) []
      (if s.debug then [Log.record .debug loggerName message fields none] else []) state := by
  rw [log]
  cases s.debug with
  | true => exact .log _ state
  | false => exact .pure () state

theorem isDirectoryMarker_entry (e : PageEntry) :
    isDirectoryMarker (.text e.key) e.size = .ok e.isMarker := by
  by_cases hsize : e.size = 0 <;> simp [isDirectoryMarker, PageEntry.isMarker, hsize]

/-- An entry is listed as it reads, or left out and logged. -/
theorem listedFile_runs {fields : Fields} {e : PageEntry} (h : e.IsRead fields) (state : σ) :
    Runs (s.listedFile (.object fields)) state (.ok (if e.isMarker then none else some e.file)) []
      (if e.isMarker && s.debug then [e.skipRecord] else []) state := by
  unfold listedFile
  simp only [h.key]
  refine .ofResult_bind h.size (.ofResult_bind (isDirectoryMarker_entry e) ?_)
  cases e.isMarker with
  | true =>
      rw [Bool.true_and]
      exact (log_debug_runs s .listSkipDir [("key", .text e.key)] state).bind_pure fun _ => none
  | false =>
      exact .ofResult_bind h.time.listedTime
        (.ofResult_bind h.tag.entityTag (.pure (some e.file) state))

theorem mapM_listedFile_runs {objects : List Value} {entries : List PageEntry}
    (h : List.Forall₂ (fun object e => ∃ fields, object = .object fields ∧ e.IsRead fields)
      objects entries) (state : σ) :
    Runs (objects.mapM s.listedFile) state
      (.ok (entries.map fun e => if e.isMarker then none else some e.file)) []
      (s.skipRecords entries) state := by
  induction h with
  | nil =>
      rw [skipRecords_nil]
      exact .pure [] state
  | cons hobject _ ih =>
      obtain ⟨fields, rfl, hread⟩ := hobject
      rw [List.mapM_cons, skipRecords_cons]
      exact (listedFile_runs hread state).bind (ih.bind_pure _)

/-! ## Pages -/

/-- An answer is read as the page of the entries that it shows, as these are enriched. -/
theorem readPage_runs {request : PageRequest} {option : GetOption} {answer : Answer}
    {fields : Fields} {entries : List PageEntry} {mid later : σ}
    {outcome : Result (List FileInfo)} {extra : List Call} {failures : List Log.Record}
    (hfields : Payload.HasFields answer.toValue fields)
    (hshows : PageShows (Fields.get fields "Contents") entries)
    (henriched : Runs (s.enrichListed request.keyPrefix
      ((PageEntry.kept entries).map PageEntry.file) option) mid outcome extra failures later) :
    ∃ isTruncated, (isTruncated = true ↔ Payload.SaysTrue (Fields.get fields "IsTruncated")) ∧
      Runs (s.readPage request option answer) mid
        (outcome.map fun files =>
          ⟨files, (Fields.get fields "NextMarker").orElse (.text ""), isTruncated⟩)
        extra (s.skipRecords entries ++ failures) later := by
  obtain ⟨objects, hholds, hentries⟩ := hshows
  refine ⟨_, Payload.flag_iff.trans (Payload.saysTrue_getD_iff fields "IsTruncated"), ?_⟩
  refine .ofResult_bind (Payload.answerFields_ok_iff.mpr hfields)
    (.ofResult_bind (pageObjects_ok_iff.mpr hholds) ?_)
  refine (mapM_listedFile_runs hentries mid).bind ?_
  rw [filterMap_unless]
  exact henriched.bind_pure _

/-! ## Stores that are alike -/

namespace Alike

theorem call (h : s.Alike t) {c : Call} (hc : c.isListing = false) : t.call c = s.call c := by
  rw [Store.call, Store.call, Action.call, Action.call, h.answer c hc]

theorem tagging (h : s.Alike t) (key : Value) : t.tagging key = s.tagging key := by
  rw [Store.tagging, Store.tagging, bucket, bucket, h.config, h.call rfl]

theorem signUrl (h : s.Alike t) (key : Value) (option : GetOption) :
    t.signUrl key option = s.signUrl key option := by
  have hcall : ∀ expires, t.call (.signUrl s.config.bucket key "GET" expires) =
      s.call (.signUrl s.config.bucket key "GET" expires) := fun _ => h.call rfl
  simp only [Store.signUrl, urlLifetime, bucket, h.config, hcall]

theorem enrichListed (h : s.Alike t) (keyPrefix : Value) (files : List FileInfo)
    (option : GetOption) :
    t.enrichListed keyPrefix files option = s.enrichListed keyPrefix files option := by
  rw [Store.enrichListed, Store.enrichListed, h.config, funext h.tagging]
  simp only [h.signUrl]

theorem pageCall (h : s.Alike t) (request : PageRequest) :
    t.pageCall request = s.pageCall request := by
  rw [Store.pageCall, Store.pageCall, bucket, bucket, h.config]

end Alike

end Store

end BucketStore
