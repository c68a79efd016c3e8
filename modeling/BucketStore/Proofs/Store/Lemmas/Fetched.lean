import BucketStore.Proofs.Store.Entries
import BucketStore.Proofs.Store.Lemmas.Extras
import BucketStore.Proofs.Store.Lemmas.Rounds

/-!
# Fetching for a page

Fetching for the keys of a page gets what the service has for each of them, and the files of the page
get that at their positions.
-/

namespace BucketStore.Store

open BucketStore.Action

variable {σ α : Type} {fetch : Value → Action σ α} {c : Value → Call}

/-! ## Exchanges -/

/-- What is fetched in turn, where fetching for a key is a call with an answer of some kind. -/
theorem fetches_iff_exchanges {s : Store σ} {gives : Exchange → α → Prop}
    (hfetch : ∀ key state a later, Gets (fetch key) state a later ↔
      gives ⟨c key, (s.service.answer (c key) state).1⟩ a ∧
        (s.service.answer (c key) state).2 = later) (keys : List Value) (state : σ) (as : List α)
    (later : σ) :
    Fetches fetch keys state as later ↔
      List.Forall₂ gives (s.service.exchanges (keys.map c) state).1 as ∧
        (s.service.exchanges (keys.map c) state).2 = later := by
  induction keys generalizing state as with
  | nil =>
      rw [fetches_nil_iff]
      exact and_congr_left' (List.forall₂_nil_left_iff.symm)
  | cons key keys ih =>
      rw [fetches_cons_iff, List.map_cons, Service.exchanges, List.forall₂_cons_left_iff]
      constructor
      · rintro ⟨a, rest, mid, rfl, hgets, hrest⟩
        obtain ⟨hgives, rfl⟩ := (hfetch ..).mp hgets
        obtain ⟨hall, hlater⟩ := (ih ..).mp hrest
        exact ⟨⟨a, rest, hgives, hall, rfl⟩, hlater⟩
      · rintro ⟨⟨a, rest, hgives, hall, rfl⟩, hlater⟩
        exact ⟨a, rest, _, rfl, (hfetch ..).mpr ⟨hgives, rfl⟩, (ih ..).mpr ⟨hall, hlater⟩⟩

/-! ## The calls for a key -/

variable (s : Store σ)

theorem report_failsAgain (step : Step) (e : Failure) :
    FailsAgain (report step e : Action σ α) := by
  intro state
  cases hexception : e.isException with
  | false =>
      refine ⟨e, [], ?_, nofun⟩
      rintro session rfl
      rw [eval_report, hexception, session.extended_nil]
      rfl
  | true =>
      cases hreport : Log.Report.ofFailure e with
      | error untold =>
          refine ⟨untold, [], ?_, nofun⟩
          rintro session rfl
          rw [eval_report, hexception, hreport, session.extended_nil]
          rfl
      | ok r =>
          refine ⟨step.failure r.text, [step.record r], ?_, List.forall_mem_singleton.mpr rfl⟩
          rintro session rfl
          rw [eval_report, hexception, hreport]
          simp [Session.logged, Session.extended]

theorem passOn_failsAgain (logger : String) (message : LogMessage) (fields : Fields)
    (e : Failure) : FailsAgain (passOn logger message fields e : Action σ α) := by
  intro state
  unfold passOn
  split
  · cases Log.Report.ofFailure e with
    | error untold => exact ⟨untold, [], (Runs.ofResult _ state).bind_error _, nofun⟩
    | ok r =>
        exact ⟨e, [Log.record .error logger message fields (some r)],
          (Runs.ofResult (.ok r) state).bind ((Runs.log _ state).bind (.throw e state)),
          List.forall_mem_singleton.mpr rfl⟩
  · exact ⟨e, [], .throw e state, nofun⟩

theorem during_call_works (step : Step) (c : Call) : Works (during step (s.call c)) [c] :=
  (Works.call s.service c).tryCatch (report_failsAgain step)

theorem during_call_gets {step : Step} {c : Call} {state later : σ} {answer : Answer} :
    Gets (during step (s.call c)) state answer later ↔
      s.service.answer c state = (.ok answer, later) :=
  (Gets.tryCatch_iff (Works.call s.service c) (report_failsAgain step)).trans Gets.call_iff

theorem tagging_works (key : Value) : Works (s.tagging key) [.getObjectTagging s.bucket key] :=
  (s.during_call_works _ _).bind_nil fun _ => (Works.ofResult _).bind_nil fun _ => .ofResult _

theorem tagging_gets (key : Value) (state : σ) (tags : Option TagMap) (later : σ) :
    Gets (s.tagging key) state tags later ↔
      Exchange.GivesTags ⟨.getObjectTagging s.bucket key,
          (s.service.answer (.getObjectTagging s.bucket key) state).1⟩ tags ∧
        (s.service.answer (.getObjectTagging s.bucket key) state).2 = later := by
  have hread : ∀ answer : Answer, Works (Action.ofResult (Payload.answerFields answer.toValue) >>=
      fun fields => Action.ofResult (TagMap.ofAnswer (Fields.get fields "TagSet")) :
        Action σ (Option TagMap)) [] :=
    fun _ => (Works.ofResult _).bind_nil fun _ => .ofResult _
  rw [tagging, Gets.bind_iff (s.during_call_works _ _) hread]
  constructor
  · rintro ⟨answer, mid, hanswer, hgets⟩
    rw [during_call_gets] at hanswer
    rw [Gets.bind_iff (Works.ofResult _) fun _ => .ofResult _] at hgets
    obtain ⟨fields, mid', hanswered, hread⟩ := hgets
    obtain ⟨hfields, rfl⟩ := Gets.ofResult_iff.mp hanswered
    obtain ⟨htags, rfl⟩ := Gets.ofResult_iff.mp hread
    rw [hanswer]
    exact ⟨⟨answer, fields, rfl, Payload.answerFields_ok_iff.mp hfields, htags⟩, rfl⟩
  · rintro ⟨⟨answer, fields, hanswer, hfields, htags⟩, hlater⟩
    refine ⟨answer, later, s.during_call_gets.mpr (Prod.ext hanswer hlater), ?_⟩
    rw [Gets.bind_iff (Works.ofResult _) fun _ => .ofResult _]
    exact ⟨fields, later, Gets.ofResult_iff.mpr ⟨Payload.answerFields_ok_iff.mpr hfields, rfl⟩,
      Gets.ofResult_iff.mpr ⟨htags, rfl⟩⟩

/-- The time for which a URL is to be good is known just if it is absent or a number. -/
theorem urlLifetime_ok_iff {option : GetOption} {expires : Value} :
    s.urlLifetime option = .ok expires ↔
      (option.expire = .null ∨ option.expire.isPositive?.isSome) ∧ s.lifetime option = expires := by
  constructor
  · intro h
    refine ⟨?_, (lifetime_eq h).symm⟩
    by_contra hunknown
    rw [not_or] at hunknown
    obtain ⟨hnull, hnumber⟩ := hunknown
    have hnone : option.expire.isPositive? = none := by simpa using hnumber
    have hfails : isPositive option.expire = .error .wrongType := by
      unfold isPositive
      split
      · rename_i heq
        exact absurd heq hnull
      · rw [hnone]
        rfl
    rw [urlLifetime, hfails] at h
    cases h
  · rintro ⟨hknown, rfl⟩
    obtain ⟨positive, hpositive⟩ := isPositive_ok hknown
    have hok : ∃ expires, s.urlLifetime option = .ok expires := by
      rw [urlLifetime, hpositive]
      exact ⟨_, rfl⟩
    obtain ⟨expires, hexpires⟩ := hok
    rw [hexpires, lifetime_eq hexpires]

theorem signUrl_of_lifetime_error {option : GetOption} {e : Failure}
    (h : s.urlLifetime option = .error e) (key : Value) :
    s.signUrl key option = throw e := by
  rw [signUrl, h]
  rfl

theorem signUrl_of_lifetime {option : GetOption} {expires : Value}
    (h : s.urlLifetime option = .ok expires) (key : Value) :
    s.signUrl key option =
      during (.sign key (s.lifetime option))
        (s.call (.signUrl s.bucket key "GET" (s.lifetime option))) >>= fun answer =>
      pure answer.toValue := by
  rw [signUrl, h, lifetime_eq h]
  rfl

theorem signUrl_works (option : GetOption) (key : Value) :
    Works (s.signUrl key option) [.signUrl s.bucket key "GET" (s.lifetime option)] := by
  cases hlifetime : s.urlLifetime option with
  | error e =>
      rw [s.signUrl_of_lifetime_error hlifetime]
      exact .throw e _
  | ok expires =>
      rw [s.signUrl_of_lifetime hlifetime]
      exact (s.during_call_works _ _).bind_nil fun _ => .pure _

/-- The call was answered with this URL, and the time for which it is to be good is known. -/
def Signs (expire : Value) (x : Exchange) (url : Value) : Prop :=
  (expire = .null ∨ expire.isPositive?.isSome) ∧ x.GivesUrl url

theorem signUrl_gets (option : GetOption) (key : Value) (state : σ) (url : Value) (later : σ) :
    Gets (s.signUrl key option) state url later ↔
      Signs option.expire ⟨.signUrl s.bucket key "GET" (s.lifetime option),
          (s.service.answer (.signUrl s.bucket key "GET" (s.lifetime option)) state).1⟩ url ∧
        (s.service.answer (.signUrl s.bucket key "GET" (s.lifetime option)) state).2 = later := by
  cases hlifetime : s.urlLifetime option with
  | error e =>
      have hunknown : ¬ (option.expire = .null ∨ option.expire.isPositive?.isSome) := by
        intro hknown
        have hok := s.urlLifetime_ok_iff.mpr ⟨hknown, rfl⟩
        rw [hlifetime] at hok
        cases hok
      rw [s.signUrl_of_lifetime_error hlifetime, Gets.iff_of_runs (Runs.throw e state)]
      exact ⟨nofun, fun h => absurd h.1.1 hunknown⟩
  | ok expires =>
      have hknown := (s.urlLifetime_ok_iff.mp hlifetime).1
      rw [s.signUrl_of_lifetime hlifetime,
        Gets.bind_iff (s.during_call_works _ _) fun _ => .pure _]
      constructor
      · rintro ⟨answer, mid, hanswer, hpure⟩
        rw [during_call_gets] at hanswer
        obtain ⟨rfl, rfl⟩ := Gets.pure_iff.mp hpure
        rw [hanswer]
        exact ⟨⟨hknown, answer, rfl, rfl⟩, rfl⟩
      · rintro ⟨⟨-, answer, hanswer, rfl⟩, hlater⟩
        exact ⟨answer, later, s.during_call_gets.mpr (Prod.ext hanswer hlater),
          Gets.pure_iff.mpr ⟨rfl, rfl⟩⟩

/-! ## Enriching -/

theorem length_exchanges (service : Service σ) (calls : List Call) (state : σ) :
    (service.exchanges calls state).1.length = calls.length := by
  induction calls generalizing state with
  | nil => rfl
  | cons c calls ih => simp only [Service.exchanges, List.length_cons, ih]

/-- A list as one that is told by positions. -/
theorem mapIdx_getD {β : Type} {items : List β} {as : List α} (h : as.length = items.length)
    (d : α) : (items.mapIdx fun i _ => as.getD i d) = as := by
  apply List.ext_getElem
  · rw [List.length_mapIdx, h]
  · intro i hi hi'
    rw [List.getElem_mapIdx, List.getD_eq_getElem?_getD, List.getElem?_eq_getElem hi', Option.getD_some]

section asked

variable {s} {gives : Exchange → α → Prop} {limit : Int} (hlimit : 0 < limit)
  (hworks : ∀ key, Works (fetch key) [c key])
  (hgets : ∀ key state a later, Gets (fetch key) state a later ↔
    gives ⟨c key, (s.service.answer (c key) state).1⟩ a ∧
      (s.service.answer (c key) state).2 = later)
include hlimit hworks

theorem fetchAsked_works (asked : Bool) (files : List FileInfo) (own : FileInfo → α) :
    Works (if asked then fetchEach limit fetch (files.map fun f => f.key)
      else pure (files.map own)) (if asked then (files.map fun f => f.key).map c else []) := by
  cases asked with
  | false => exact .pure _
  | true => exact (fetchEach_fetchesAll hworks hlimit _).works

include hgets

theorem fetchAsked_gets (asked : Bool) (files : List FileInfo) (own : FileInfo → α) (d : α)
    (state : σ) (as : List α) (later : σ) :
    Gets (if asked then fetchEach limit fetch (files.map fun f => f.key)
      else pure (files.map own)) state as later ↔
      ∃ got, List.Forall₂ gives (s.service.exchanges
          (if asked then (files.map fun f => f.key).map c else []) state).1 got ∧
        (s.service.exchanges (if asked then (files.map fun f => f.key).map c else []) state).2 =
          later ∧
        as = files.mapIdx fun i f => if asked then got.getD i d else own f := by
  cases asked with
  | false =>
      simp only [Bool.false_eq_true, if_false, mapIdx_const]
      rw [Gets.pure_iff]
      constructor
      · rintro ⟨rfl, rfl⟩
        exact ⟨[], .nil, rfl, rfl⟩
      · rintro ⟨got, -, rfl, rfl⟩
        exact ⟨rfl, rfl⟩
  | true =>
      simp only [if_true]
      rw [(fetchEach_fetchesAll hworks hlimit _).gets, fetches_iff_exchanges hgets]
      have hlength : ∀ got : List α, List.Forall₂ gives
          (s.service.exchanges ((files.map fun f => f.key).map c) state).1 got →
          got.length = files.length := by
        intro got hall
        rw [← hall.length_eq, length_exchanges, List.length_map, List.length_map]
      constructor
      · rintro ⟨hall, hlater⟩
        exact ⟨as, hall, hlater, (mapIdx_getD (hlength as hall) d).symm⟩
      · rintro ⟨got, hall, hlater, rfl⟩
        rw [mapIdx_getD (hlength got hall) d]
        exact ⟨hall, hlater⟩

end asked

theorem extraCalls_eq (option : GetOption) (keys : List Value) :
    s.extraCalls option keys = s.tagCalls option keys ++ s.urlCalls option keys :=
  rfl

section enrich

variable (keyPrefix : Value) (files : List FileInfo) (option : GetOption)

theorem extraCalls_of_nothing {keys : List Value} (h : keys = [] ∨ option.asksMore = false) :
    s.extraCalls option keys = [] := by
  rcases h with rfl | hmore
  · simp [extraCalls]
  · exact extraCalls_of_not_asksMore hmore keys

/-- Where there is nothing to ask for, the service gives nothing. -/
theorem gives_of_nothing {keys : List Value} (h : keys = [] ∨ option.asksMore = false) (state : σ)
    {tags : List (Option TagMap)} {urls : List Value} :
    s.Gives option keys state tags urls ↔ tags = [] ∧ urls = [] := by
  obtain ⟨htagCalls, hurlCalls⟩ := List.append_eq_nil_iff.mp (s.extraCalls_of_nothing option h)
  have htag : s.tagCalls option keys = [] := htagCalls
  have hurl : s.urlCalls option keys = [] := hurlCalls
  constructor
  · rintro ⟨htagging, hsigning, -⟩
    rw [htag] at htagging hsigning
    rw [hurl] at hsigning
    exact ⟨List.forall₂_nil_left_iff.mp htagging, List.forall₂_nil_left_iff.mp hsigning⟩
  · rintro ⟨rfl, rfl⟩
    refine ⟨?_, ?_, fun hkeys hasked => ?_⟩
    · rw [htag]
      exact .nil
    · rw [htag, hurl]
      exact .nil
    · obtain hnil | hmore := h
      · exact absurd hnil hkeys
      · rw [GetOption.asksMore, hasked, Bool.or_true] at hmore
        cases hmore

/-- The time for which URLs are to be good matters just if one is asked for. -/
theorem forall_exchanges_iff {keys : List Value} (state : σ) :
    (∀ x ∈ (s.service.exchanges (s.urlCalls option keys) state).1,
        option.expire = .null ∨ option.expire.isPositive?.isSome) ↔
      (keys ≠ [] → option.HasLifetime) := by
  constructor
  · intro h hkeys hasked
    have hlength := length_exchanges s.service (s.urlCalls option keys) state
    rw [urlCalls, if_pos hasked, List.length_map] at hlength
    have hpos : 0 < (s.service.exchanges (s.urlCalls option keys) state).1.length := by
      rw [urlCalls, if_pos hasked, hlength]
      exact List.length_pos_of_ne_nil hkeys
    exact h _ (List.getElem_mem hpos)
  · intro h x hx
    cases hasked : option.withUrl with
    | false =>
        rw [urlCalls, hasked] at hx
        cases hx
    | true =>
        refine h ?_ hasked
        rintro rfl
        rw [urlCalls, List.map_nil, ite_self] at hx
        cases hx

theorem gives_iff {keys : List Value} {state : σ} {tags : List (Option TagMap)}
    {urls : List Value} :
    s.Gives option keys state tags urls ↔
      List.Forall₂ Exchange.GivesTags (s.service.exchanges (s.tagCalls option keys) state).1 tags ∧
      List.Forall₂ (Signs option.expire)
        (s.service.exchanges (s.urlCalls option keys)
          (s.service.exchanges (s.tagCalls option keys) state).2).1 urls := by
  have hsigns : ∀ xs, List.Forall₂ (Signs option.expire) xs urls ↔
      (∀ x ∈ xs, option.expire = .null ∨ option.expire.isPositive?.isSome) ∧
        List.Forall₂ Exchange.GivesUrl xs urls := fun xs => List.forall₂_and_left xs urls
  rw [hsigns, s.forall_exchanges_iff option]
  exact ⟨fun h => ⟨h.tagging, h.lifetime, h.signing⟩, fun h => ⟨h.1, h.2.2, h.2.1⟩⟩

theorem enrich_works :
    Works (enrich (fetchEach s.config.fanoutConcurrency.val s.tagging)
      (fetchEach s.config.fanoutConcurrency.val fun key =>
        s.signUrl key { expire := option.expire }) files option)
      (s.extraCalls option (files.map fun f => f.key)) := by
  have hlimit := s.config.fanoutConcurrency.pos
  by_cases hnothing : files = [] ∨ option.asksMore = false
  · rw [enrich_of_nothing hnothing]
    rw [s.extraCalls_of_nothing option (hnothing.imp_left fun h => by rw [h, List.map_nil])]
    exact .pure files
  · rw [not_or, Bool.not_eq_false] at hnothing
    rw [enrich_eq_bind hnothing.1 hnothing.2, extraCalls_eq]
    refine (fetchAsked_works hlimit s.tagging_works option.withTagging files _).bind fun _ => ?_
    exact (fetchAsked_works hlimit (s.signUrl_works { expire := option.expire }) option.withUrl
      files _).bind_nil fun _ => .pure _

/-- The files get what the service has for their keys, at their positions. -/
theorem enrich_gets (state : σ) (out : List FileInfo) (later : σ) :
    Gets (enrich (fetchEach s.config.fanoutConcurrency.val s.tagging)
      (fetchEach s.config.fanoutConcurrency.val fun key =>
        s.signUrl key { expire := option.expire }) files option) state out later ↔
      ∃ tags urls, s.Gives option (files.map fun f => f.key) state tags urls ∧
        (s.service.exchanges (s.extraCalls option (files.map fun f => f.key)) state).2 = later ∧
        out = files.mapIdx fun i f => f.enriched option (tags.getD i none) (urls.getD i .null) := by
  have hlimit := s.config.fanoutConcurrency.pos
  by_cases hnothing : files = [] ∨ option.asksMore = false
  · have hkeys : files.map (fun f => f.key) = [] ∨ option.asksMore = false :=
      hnothing.imp_left fun h => by rw [h, List.map_nil]
    have hfiles : (files.mapIdx fun i f => f.enriched option (([] : List (Option TagMap)).getD i
        none) (([] : List Value).getD i .null)) = files := by
      rcases hnothing with rfl | hmore
      · rfl
      · exact FileInfo.mapIdx_enriched_of_not_asksMore hmore files _ _
    rw [enrich_of_nothing hnothing, Gets.pure_iff, s.extraCalls_of_nothing option hkeys]
    constructor
    · rintro ⟨rfl, rfl⟩
      exact ⟨[], [], (s.gives_of_nothing option hkeys state).mpr ⟨rfl, rfl⟩, rfl, hfiles.symm⟩
    · rintro ⟨tags, urls, hgives, hlater, rfl⟩
      obtain ⟨rfl, rfl⟩ := (s.gives_of_nothing option hkeys state).mp hgives
      exact ⟨hfiles.symm, hlater⟩
  · rw [not_or, Bool.not_eq_false] at hnothing
    have hsign : ∀ taggings : List (Option TagMap),
        Works ((if option.withUrl then fetchEach s.config.fanoutConcurrency.val (fun key =>
            s.signUrl key { expire := option.expire }) (files.map fun f => f.key)
          else pure (files.map fun f => f.url)) >>= fun urls =>
            pure (FileInfo.assemble files taggings urls))
          (s.urlCalls option (files.map fun f => f.key)) := fun _ =>
      (fetchAsked_works hlimit (s.signUrl_works { expire := option.expire }) option.withUrl
        files _).bind_nil fun _ => .pure _
    have hsigns := s.signUrl_gets { expire := option.expire }
    have hassemble : ∀ (tags : List (Option TagMap)) (urls : List Value),
        FileInfo.assemble files
          (files.mapIdx fun i f => if option.withTagging then tags.getD i none else f.tagging)
          (files.mapIdx fun i f => if option.withUrl then urls.getD i .null else f.url) =
        files.mapIdx fun i f => f.enriched option (tags.getD i none) (urls.getD i .null) :=
      fun _ _ => FileInfo.assemble_mapIdx files _ _
    rw [enrich_eq_bind hnothing.1 hnothing.2,
      Gets.bind_iff (fetchAsked_works hlimit s.tagging_works option.withTagging files _) hsign]
    simp only [Gets.bind_iff (fetchAsked_works hlimit
        (s.signUrl_works { expire := option.expire }) option.withUrl files _) fun _ => .pure _,
      fetchAsked_gets hlimit s.tagging_works s.tagging_gets _ _ _ none,
      fetchAsked_gets hlimit (s.signUrl_works { expire := option.expire }) hsigns _ _ _ .null,
      Gets.pure_iff]
    constructor
    · rintro ⟨_, _, ⟨tags, htags, rfl, rfl⟩, _, _, ⟨urls, hurls, rfl, rfl⟩, rfl, rfl⟩
      refine ⟨tags, urls, (s.gives_iff option).mpr ⟨htags, hurls⟩, ?_, hassemble tags urls⟩
      rw [extraCalls_eq, Service.exchanges_append]
      rfl
    · rintro ⟨tags, urls, hgives, rfl, rfl⟩
      obtain ⟨htags, hurls⟩ := (s.gives_iff option).mp hgives
      refine ⟨_, _, ⟨tags, htags, rfl, rfl⟩, _, _, ⟨urls, hurls, rfl, rfl⟩, hassemble tags urls, ?_⟩
      rw [extraCalls_eq, Service.exchanges_append]
      rfl

theorem enrichListed_works :
    Works (s.enrichListed keyPrefix files option)
      (s.extraCalls option (files.map fun f => f.key)) :=
  (s.enrich_works files option).tryCatch (passOn_failsAgain _ _ _)

theorem enrichListed_gets (state : σ) (out : List FileInfo) (later : σ) :
    Gets (s.enrichListed keyPrefix files option) state out later ↔
      ∃ tags urls, s.Gives option (files.map fun f => f.key) state tags urls ∧
        (s.service.exchanges (s.extraCalls option (files.map fun f => f.key)) state).2 = later ∧
        out = files.mapIdx fun i f => f.enriched option (tags.getD i none) (urls.getD i .null) :=
  (Gets.tryCatch_iff (s.enrich_works files option) (passOn_failsAgain _ _ _)).trans
    (s.enrich_gets files option state out later)

end enrich

end BucketStore.Store
