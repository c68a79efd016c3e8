import BucketStore.Proofs.TaskGroup.History
import BucketStore.Proofs.TaskGroup.Lemmas.Invariant
import Mathlib.Data.List.Chain

/-!
# The invariant along a history

A path is a sequence of groups that all keep the invariant, each one the continuation of the one
before, where time passes only while no permit is idle. Every act runs along a path, hence so does
every sequence of acts.
-/

namespace BucketStore.TaskGroup

variable {α : Type}

/-! ## Paths -/

/-- What leads from one event to the next: the tasks move on, and while the clock moves no task
waits unless all permits are in use. -/
structure Follows (g h : TaskGroup α) : Prop where
  continues : g.Continues h
  busy : g.clock < h.clock → g.Busy

theorem Follows.of_clock_eq {g h : TaskGroup α} (hc : g.Continues h) (hclock : h.clock = g.clock) :
    g.Follows h :=
  ⟨hc, fun hlt => (Nat.ne_of_lt hlt hclock.symm).elim⟩

/-- From one group through others to the last. -/
inductive Path : TaskGroup α → List (TaskGroup α) → TaskGroup α → Prop
  | refl (g : TaskGroup α) : Path g [] g
  | cons {g h k : TaskGroup α} {states : List (TaskGroup α)} :
      h.Sound → g.Follows h → Path h states k → Path g (h :: states) k

theorem Path.single {g h : TaskGroup α} (hs : h.Sound) (hf : g.Follows h) : Path g [h] h :=
  .cons hs hf (.refl h)

theorem Path.append {g h k : TaskGroup α} {states later : List (TaskGroup α)}
    (hg : Path g states h) (hh : Path h later k) : Path g (states ++ later) k := by
  induction hg with
  | refl => exact hh
  | cons hs hf _ ih => exact .cons hs hf (ih hh)

theorem Path.sound {g k : TaskGroup α} {states : List (TaskGroup α)} (h : Path g states k)
    (hg : g.Sound) : ∀ s ∈ g :: states, s.Sound := by
  induction h with
  | refl => simpa using hg
  | cons hs _ _ ih =>
      intro s hmem
      rcases List.mem_cons.mp hmem with rfl | hmem
      · exact hg
      · exact ih hs s hmem

theorem Path.sound_last {g k : TaskGroup α} {states : List (TaskGroup α)} (h : Path g states k)
    (hg : g.Sound) : k.Sound := by
  induction h with
  | refl => exact hg
  | cons hs _ _ ih => exact ih hs

theorem Path.isChain {g k : TaskGroup α} {states : List (TaskGroup α)} (h : Path g states k) :
    (g :: states).IsChain Follows := by
  induction h with
  | refl => exact .singleton _
  | cons _ hf _ ih => exact .cons_cons hf ih

theorem Path.pairwise {g k : TaskGroup α} {states : List (TaskGroup α)} (h : Path g states k) :
    (g :: states).Pairwise Continues := by
  induction h with
  | refl => exact List.pairwise_singleton _ _
  | cons _ hf _ ih =>
      refine List.pairwise_cons.mpr ⟨?_, ih⟩
      intro s hs
      rcases List.mem_cons.mp hs with rfl | hs
      · exact hf.continues
      · exact hf.continues.trans ((List.pairwise_cons.mp ih).1 s hs)

theorem Path.continues {g k : TaskGroup α} {states : List (TaskGroup α)} (h : Path g states k) :
    g.Continues k := by
  induction h with
  | refl g => exact .refl g
  | cons _ hf _ ih => exact hf.continues.trans ih

/-! ## Events -/

/-- Where the events end. -/
def lastOf (states : List (TaskGroup α)) (g : TaskGroup α) : TaskGroup α :=
  states.getLastD g

/-- No event comes before the deadline. -/
def Exhausted (deadline? : Option Nat) (g : TaskGroup α) : Prop :=
  ∀ now, g.nextFinish? = some now → ∃ deadline, deadline? = some deadline ∧ deadline < now

/-- What holds where events end that began at `g`. -/
structure Ends (stops : TaskGroup α → Bool) (deadline? : Option Nat) (g h : TaskGroup α) :
    Prop where
  sound : h.Sound
  busy : h.Busy
  ended : stops h = true ∨ h.Exhausted deadline?
  inTime : ∀ deadline, deadline? = some deadline → g.clock ≤ deadline → h.clock ≤ deadline

/-- With as much fuel as there are open tasks, the events run along a path to their end. -/
theorem events_path (stops : TaskGroup α → Bool) (deadline? : Option Nat) {fuel : Nat}
    {g : TaskGroup α} (hs : g.Sound) (hb : g.Busy) (hfuel : Task.openCount g.tasks < fuel) :
    Path g (events stops deadline? fuel g) (lastOf (events stops deadline? fuel g) g) ∧
      Ends stops deadline? g (lastOf (events stops deadline? fuel g) g) := by
  induction fuel generalizing g with
  | zero => exact (Nat.not_lt_zero _ hfuel).elim
  | succ fuel ih =>
      have hhere : (stops g = true ∨ g.Exhausted deadline?) → Ends stops deadline? g g :=
        fun hover => ⟨hs, hb, hover, fun _ _ h => h⟩
      simp only [events]
      split
      · rename_i hstop
        exact ⟨.refl g, hhere (Or.inl hstop)⟩
      · split
        · rename_i now hn
          split
          · rename_i hle
            have hnow := hs.clock_le_nextFinish? hn
            have hopen := openCount_advance_lt hn
            obtain ⟨hpath, hend⟩ := ih (hs.advance hnow) (hs.busy_advance hnow) (by omega)
            have hlast : lastOf (g.advance now :: events stops deadline? fuel (g.advance now)) g =
                lastOf (events stops deadline? fuel (g.advance now)) (g.advance now) :=
              List.getLastD_cons ..
            rw [hlast]
            refine ⟨.cons (hs.advance hnow) ⟨continues_advance g hnow, fun _ => hb⟩ hpath,
              hend.sound, hend.busy, hend.ended, ?_⟩
            intro deadline hd _
            subst hd
            have hnowle : now ≤ deadline := by simpa using hle
            exact hend.inTime deadline rfl hnowle
          · rename_i hlate
            refine ⟨.refl g, hhere (Or.inr ?_)⟩
            intro time htime
            rw [hn] at htime
            cases htime
            cases deadline? with
            | none => simp at hlate
            | some deadline => exact ⟨deadline, rfl, by simpa using hlate⟩
        · rename_i hn
          refine ⟨.refl g, hhere (Or.inr ?_)⟩
          intro time htime
          rw [hn] at htime
          cases htime

/-- Where the events up to a deadline end without a stop, time passes to the deadline. -/
theorem Ends.pass {stops : TaskGroup α → Bool} {deadline : Nat} {g h : TaskGroup α}
    (hend : Ends stops (some deadline) g h) (hgo : stops h = false) (hd : g.clock ≤ deadline) :
    Sound { h with clock := deadline } ∧ h.Follows { h with clock := deadline } := by
  have hclock := hend.inTime deadline rfl hd
  have hcontinues : h.Continues { h with clock := deadline } :=
    ⟨rfl, hclock, fun _ t ht => ⟨t, ht, .refl t⟩⟩
  refine ⟨hend.sound.wait hclock ?_, hcontinues, fun _ => hend.busy⟩
  intro now hn
  rcases hend.ended with hstop | hover
  · rw [hgo] at hstop
    cases hstop
  · obtain ⟨d, hdd, hlt⟩ := hover now hn
    cases hdd
    exact hlt

theorem runUntil_eq_lastOf (fuel deadline : Nat) (g : TaskGroup α) :
    runUntil fuel deadline g = lastOf (events (fun _ => false) (some deadline) fuel g) g := by
  induction fuel generalizing g with
  | zero => rfl
  | succ fuel ih =>
      simp only [runUntil, events, Bool.false_eq_true, ↓reduceIte]
      cases hn : g.nextFinish? with
      | none => rfl
      | some now =>
          by_cases hle : now ≤ deadline
          · simp only [hle, ↓reduceIte, Option.all_some, decide_true]
            rw [ih (g.advance now)]
            exact (List.getLastD_cons ..).symm
          · simp only [hle, ↓reduceIte, Option.all_some, decide_false, Bool.false_eq_true]
            rfl

/-! ## The end of a wait -/

/-- What a wait answers where its events end. -/
def conclude (deadline? : Option Nat) (g : TaskGroup α) : Result (List α) × TaskGroup α :=
  match g.failure?, g.results? with
  | some e, _ => (.error e, g.cancelAll)
  | none, some vs => (.ok vs, g)
  | none, none =>
    match g.nextFinish?, deadline? with
    | some _, some deadline => (.error .timedOut, { g with clock := deadline }.cancelAll)
    | _, _ => (.error .cancelled, g.cancelAll)

/-- A wait runs through its events and answers what stands at their end. -/
theorem settleAll_eq_conclude {deadline? : Option Nat} {fuel : Nat} {g : TaskGroup α}
    (hfuel : Task.openCount g.tasks < fuel) :
    settleAll deadline? fuel g =
      conclude deadline? (lastOf (events isOver deadline? fuel g) g) := by
  induction fuel generalizing g with
  | zero => exact (Nat.not_lt_zero _ hfuel).elim
  | succ fuel ih =>
      have hnext : ∀ now, g.nextFinish? = some now →
          settleAll deadline? fuel (g.advance now) = conclude deadline?
            (lastOf (g.advance now :: events isOver deadline? fuel (g.advance now)) g) := by
        intro now hn
        have hopen := openCount_advance_lt hn
        rw [ih (by omega), lastOf, lastOf, List.getLastD_cons]
      cases hf : g.failure? with
      | some e => simp [settleAll, events, isOver, lastOf, conclude, hf]
      | none =>
          cases hr : g.results? with
          | some vs => simp [settleAll, events, isOver, lastOf, conclude, hf, hr]
          | none =>
              have hgo : isOver g = false := by simp [isOver, hf, hr]
              simp only [settleAll, events, hf, hr, hgo, Bool.false_eq_true, ↓reduceIte]
              cases hn : g.nextFinish? with
              | none => cases deadline? <;> simp [lastOf, conclude, hf, hr, hn]
              | some now =>
                  cases deadline? with
                  | none => exact hnext now hn
                  | some deadline =>
                      by_cases hle : now ≤ deadline
                      · simpa [hle] using hnext now hn
                      · simp [hle, lastOf, conclude, hf, hr, hn]

theorem conclude_path {deadline? : Option Nat} {g h : TaskGroup α}
    (hend : Ends isOver deadline? g h)
    (hd : ∀ deadline, deadline? = some deadline → g.clock ≤ deadline) :
    Path h [(conclude deadline? h).2] (conclude deadline? h).2 := by
  have hcancel : Path h [h.cancelAll] h.cancelAll :=
    .single hend.sound.cancelAll (.of_clock_eq (continues_cancelAll h) rfl)
  unfold conclude
  split
  · exact hcancel
  · exact .single hend.sound (.of_clock_eq (.refl h) rfl)
  · rename_i hf hr
    split
    · rename_i now deadline hn
      -- The wait is not over, so it is the deadline that stopped it.
      have hgo : isOver h = false := by simp [isOver, hf, hr]
      obtain ⟨hsound, hfollows⟩ := hend.pass hgo (hd deadline rfl)
      exact .single hsound.cancelAll
        ⟨hfollows.continues.trans (continues_cancelAll _), hfollows.busy⟩
    · exact hcancel

/-! ## Acts -/

theorem start_path {g : TaskGroup α} (hs : g.Sound) : Path g [g.start] g.start :=
  .single hs.start (.of_clock_eq (continues_start g) rfl)

/-- A wait that begins with a start runs along a path to what it answers. -/
theorem waitEvents_path {deadline? : Option Nat} {g : TaskGroup α} (hs : g.Sound)
    (hd : ∀ deadline, deadline? = some deadline → g.clock ≤ deadline) :
    Path g (g.waitEvents deadline? ++ [(settleAll deadline? g.start.eventBound g.start).2])
      (settleAll deadline? g.start.eventBound g.start).2 := by
  obtain ⟨hpath, hend⟩ := events_path isOver deadline? hs.start hs.busy_start
    (openCount_lt_eventBound g.start)
  rw [settleAll_eq_conclude (openCount_lt_eventBound g.start)]
  exact ((start_path hs).append hpath).append (conclude_path hend hd)

theorem sleep_path {g : TaskGroup α} (hs : g.Sound) (duration : Nat) :
    Path g (g.visits (.step (.sleep duration))) (g.sleep duration) := by
  obtain ⟨hpath, hend⟩ := events_path (fun _ => false) (some (g.clock + duration))
    hs.start hs.busy_start
    (openCount_lt_eventBound g.start)
  have hsleep : g.sleep duration =
      { lastOf (events (fun _ => false) (some (g.clock + duration)) g.start.eventBound g.start)
          g.start with clock := g.clock + duration } := by
    simp only [sleep, runUntil_eq_lastOf]
    rfl
  obtain ⟨hsound, hfollows⟩ := hend.pass rfl (Nat.le_add_right _ _)
  rw [← hsleep] at hsound hfollows
  exact ((start_path hs).append hpath).append (.single hsound hfollows)

theorem wait_path {g : TaskGroup α} (hs : g.Sound) :
    Path g (g.waitEvents none ++ [g.wait.2]) g.wait.2 :=
  waitEvents_path hs fun _ h => nomatch h

theorem waitFor_path {g : TaskGroup α} (hs : g.Sound) (timeout : Int) :
    Path g (g.visits (.step (.waitFor timeout))) (g.waitFor timeout).2 := by
  by_cases ht : timeout ≤ 0
  · have hw : (g.waitFor timeout).2 = g.start := by simp only [waitFor, if_pos ht]
    simp only [visits, eventsOf, if_pos ht, perform, step, hw]
    exact (start_path hs).append (.single hs.start (.of_clock_eq (.refl _) rfl))
  · have hw : g.waitFor timeout =
        settleAll (some (g.clock + timeout.toNat)) g.start.eventBound g.start := by
      simp only [waitFor, if_neg ht]
      rfl
    simp only [visits, eventsOf, if_neg ht, perform, step, hw]
    refine waitEvents_path hs ?_
    intro deadline hd
    cases hd
    exact Nat.le_add_right _ _

theorem perform_path {g : TaskGroup α} (hs : g.Sound) (a : Act α) :
    Path g (g.visits a) (g.perform a).2 := by
  cases a with
  | step s =>
      cases s with
      | submit job =>
          exact .single (hs.submit job) (.of_clock_eq (continues_submit g job) rfl)
      | sleep duration => exact sleep_path hs duration
      | wait => exact wait_path hs
      | waitFor timeout => exact waitFor_path hs timeout
      | fail e => exact .single hs (.of_clock_eq (.refl g) rfl)
  | leave failure? =>
      cases failure? with
      | none => exact wait_path hs
      | some e => exact .single hs.cancelAll (.of_clock_eq (continues_cancelAll g) rfl)

theorem history_path {g : TaskGroup α} (hs : g.Sound) (acts : List (Act α)) :
    Path g (g.history acts) (g.after acts) := by
  induction acts generalizing g with
  | nil => exact .refl g
  | cons a acts ih =>
      have hact := perform_path hs a
      exact hact.append (ih (hact.sound_last hs))

theorem after_append (g : TaskGroup α) (acts more : List (Act α)) :
    g.after (acts ++ more) = (g.after acts).after more := by
  induction acts generalizing g with
  | nil => rfl
  | cons a acts ih => exact ih (g.perform a).2

theorem perform_mem_visits (g : TaskGroup α) (a : Act α) : (g.perform a).2 ∈ g.visits a :=
  List.mem_append_right _ (List.mem_singleton_self _)

/-! ## Scopes -/

/-- A scope is left from the group after its body, with the failure of the body. -/
theorem runScope_exit (g : TaskGroup α) (body : List (Step α)) :
    (g.runScope body).2 = (g.after ((g.runBody body).1.map .step)).leave (g.runBody body).2 := by
  induction body generalizing g with
  | nil => rfl
  | cons s ss ih =>
      cases hstep : g.step s with
      | mk answer h =>
          cases answer with
          | ok r =>
              simp only [runScope, runBody, hstep, ih h, List.map_cons, after, perform]
          | error e =>
              simp only [runScope, runBody, hstep, List.map_cons, List.map_nil, after, perform,
                leave]

/-- What the steps in a scope answer is seen in the history of its acts. -/
theorem runScope_mem_history {g : TaskGroup α} {body : List (Step α)}
    {seen : Answer α × TaskGroup α} (hseen : seen ∈ (g.runScope body).1) :
    seen.2 ∈ g.history (g.scopeActs body) := by
  induction body generalizing g with
  | nil => cases hseen
  | cons s ss ih =>
      have hvisit := perform_mem_visits g (.step s)
      cases hstep : g.step s with
      | mk answer h =>
          cases answer with
          | ok r =>
              simp only [runScope, hstep] at hseen
              simp only [perform, hstep] at hvisit
              simp only [scopeActs, runBody, hstep, List.map_cons, List.cons_append, history,
                perform]
              rcases List.mem_cons.mp hseen with rfl | hseen
              · exact List.mem_append_left _ hvisit
              · exact List.mem_append_right _ (ih hseen)
          | error e =>
              simp only [runScope, hstep] at hseen
              cases hseen

/-- What steps answer one by one is seen in their history. -/
theorem run_mem_history {g : TaskGroup α} {steps : List (Step α)} {seen : Answer α × TaskGroup α}
    (hseen : seen ∈ g.run steps) : seen.2 ∈ g.history (steps.map .step) := by
  induction steps generalizing g with
  | nil => cases hseen
  | cons s ss ih =>
      rcases List.mem_cons.mp hseen with rfl | hseen
      · exact List.mem_append_left _ (perform_mem_visits g (.step s))
      · exact List.mem_append_right _ (ih hseen)

/-! ## New groups -/

theorem new_of_pos {limit : Int} (h : 0 < limit) :
    ∃ g : TaskGroup α, new limit = .ok g ∧ (g.limit : Int) = limit ∧ g.tasks = [] ∧ g.peak = 0 := by
  refine ⟨{ limit := limit.toNat, limit_pos := by omega }, ?_, ?_, rfl, rfl⟩
  · simp only [new, h, ↓reduceDIte]
  · exact Int.toNat_of_nonneg (Int.le_of_lt h)

theorem sound_of_empty {g : TaskGroup α} (htasks : g.tasks = []) (hpeak : g.peak = 0) :
    g.Sound := by
  refine ⟨?_, ?_, ?_, ?_, ?_⟩
  · simp [htasks]
  · simp [hpeak]
  · rw [htasks]
    exact .nil
  · simp [htasks]
  · simp [htasks]

end BucketStore.TaskGroup
