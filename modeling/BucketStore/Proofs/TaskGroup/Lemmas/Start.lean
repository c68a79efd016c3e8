import BucketStore.Proofs.TaskGroup.Lemmas.Tasks

/-!
# Starting the pending tasks of a list

Tasks start in the order of the list and only while there are permits: what is left pending stands
behind everything that has started, and something is left pending only when all permits are taken.
-/

namespace BucketStore.Task

variable {α : Type}

/-! ## Task by task -/

theorem startReady_of_full {limit running : Nat} (now : Nat) (h : limit ≤ running)
    (ts : List (Task α)) : startReady limit now running ts = ts := by
  induction ts with
  | nil => rfl
  | cons t ts ih =>
      have hr : ¬ (t.phase = .pending ∧ running < limit) := by omega
      simp only [startReady, hr, ↓reduceIte, ih]

theorem length_startReady (limit now running : Nat) (ts : List (Task α)) :
    (startReady limit now running ts).length = ts.length := by
  induction ts generalizing running with
  | nil => rfl
  | cons t ts ih =>
      simp only [startReady]
      split
      · simp only [List.length_cons, ih]
      · simp only [List.length_cons, ih]

/-- A task is left as it is, or it was pending and starts. -/
theorem startReady_getElem? (limit now running : Nat) {i : Nat} {ts : List (Task α)} {t : Task α}
    (h : ts[i]? = some t) :
    ∃ u, (startReady limit now running ts)[i]? = some u ∧
      (u = t ∨ t.phase = .pending ∧ u = t.begin now) := by
  induction ts generalizing running i with
  | nil => cases h
  | cons s ts ih =>
      simp only [startReady]
      split
      · rename_i hs
        cases i with
        | zero =>
            cases h
            exact ⟨t.begin now, rfl, Or.inr ⟨hs.1, rfl⟩⟩
        | succ i => exact ih _ h
      · cases i with
        | zero =>
            cases h
            exact ⟨t, rfl, Or.inl rfl⟩
        | succ i => exact ih _ h

theorem mem_startReady {limit now running : Nat} {ts : List (Task α)} {u : Task α}
    (h : u ∈ startReady limit now running ts) :
    ∃ t ∈ ts, u = t ∨ t.phase = .pending ∧ u = t.begin now := by
  obtain ⟨i, hi⟩ := List.mem_iff_getElem?.mp h
  have hlen : i < ts.length := by
    have := (List.getElem?_eq_some_iff.mp hi).1
    rwa [length_startReady] at this
  obtain ⟨v, hv, hvt⟩ := startReady_getElem? limit now running (List.getElem?_eq_getElem hlen)
  rw [hi] at hv
  cases hv
  exact ⟨ts[i], List.getElem_mem hlen, hvt⟩

/-! ## Order -/

/-- Behind a pending task there are only pending ones. -/
def InOrder (ts : List (Task α)) : Prop :=
  ts.Pairwise fun t u => t.phase = .pending → u.phase = .pending

theorem InOrder.startReady {ts : List (Task α)} (h : InOrder ts) (limit now running : Nat) :
    InOrder (startReady limit now running ts) := by
  induction ts generalizing running with
  | nil => exact .nil
  | cons t ts ih =>
      obtain ⟨ht, hts⟩ := List.pairwise_cons.mp h
      simp only [Task.startReady]
      split
      · exact List.pairwise_cons.mpr
          ⟨fun u _ hp => (begin_ne_pending t now hp).elim, ih hts _⟩
      · rename_i hn
        refine List.pairwise_cons.mpr ⟨?_, ih hts _⟩
        intro u hu hp
        -- A task is left pending only for want of a permit, so the others are left as they are.
        have hfull : limit ≤ running := Nat.le_of_not_lt fun hlt => hn ⟨hp, hlt⟩
        rw [startReady_of_full now hfull] at hu
        exact ht u hu hp

/-- Phases that move on while no pending task appears keep the order. -/
theorem InOrder.map {ts : List (Task α)} (h : InOrder ts) {f : Task α → Task α}
    (hf : ∀ t, (f t).phase = .pending ↔ t.phase = .pending) : InOrder (ts.map f) := by
  refine List.pairwise_map.mpr (h.imp ?_)
  intro t u htu hp
  exact (hf u).mpr (htu ((hf t).mp hp))

theorem InOrder.append_pending {ts us : List (Task α)} (h : InOrder ts)
    (hus : ∀ u ∈ us, u.phase = .pending) : InOrder (ts ++ us) := by
  refine List.pairwise_append.mpr ⟨h, ?_, fun t _ u hu _ => hus u hu⟩
  exact List.pairwise_of_forall_mem_list fun t _ u hu _ => hus u hu

/-! ## Permits -/

@[simp]
theorem runningCount_nil : runningCount ([] : List (Task α)) = 0 :=
  rfl

@[simp]
theorem runningCount_cons (t : Task α) (ts : List (Task α)) :
    runningCount (t :: ts) = runningCount ts + if t.phase.isRunning then 1 else 0 :=
  List.countP_cons

theorem runningCount_append (ts us : List (Task α)) :
    runningCount (ts ++ us) = runningCount ts + runningCount us :=
  List.countP_append

/-- What a start does to the permits, of which `running` are in use: afterwards `used` of them are,
no more than at the peak, and all of them if something is left pending. -/
theorem startReady_permits {limit running : Nat} (now : Nat) (ts : List (Task α))
    (h : running ≤ limit) :
    ∃ used, running + runningCount (startReady limit now running ts) = used + runningCount ts ∧
      used ≤ startPeak limit running ts ∧ startPeak limit running ts ≤ limit ∧
      ∀ u ∈ startReady limit now running ts, u.phase = .pending → used = limit := by
  induction ts generalizing running with
  | nil => exact ⟨running, rfl, Nat.le_refl _, h, by simp [startReady]⟩
  | cons t ts ih =>
      by_cases ht : t.phase = .pending ∧ running < limit
      · have hnext : (if t.job.delay = 0 then running else running + 1) ≤ limit := by
          split <;> omega
        obtain ⟨used, hcount, hpeak, hlimit, hleft⟩ := ih hnext
        have hpending : t.phase.isRunning = false := by rw [ht.1]; rfl
        refine ⟨used, ?_, ?_, ?_, ?_⟩
        · simp only [startReady, if_pos ht, runningCount_cons, isRunning_begin, hpending]
          by_cases hd : t.job.delay = 0 <;> simp [hd] at hcount ⊢ <;> omega
        · simp only [startPeak, if_pos ht]
          exact Nat.le_trans hpeak (Nat.le_max_right _ _)
        · simp only [startPeak, if_pos ht]
          exact Nat.max_le.mpr ⟨ht.2, hlimit⟩
        · intro u hu hp
          simp only [startReady, if_pos ht] at hu
          rcases List.mem_cons.mp hu with rfl | hu
          · exact (begin_ne_pending t now hp).elim
          · exact hleft u hu hp
      · obtain ⟨used, hcount, hpeak, hlimit, hleft⟩ := ih h
        refine ⟨used, ?_, ?_, ?_, ?_⟩
        · simp only [startReady, if_neg ht, runningCount_cons]
          omega
        · simpa only [startPeak, if_neg ht] using hpeak
        · simpa only [startPeak, if_neg ht] using hlimit
        · intro u hu hp
          simp only [startReady, if_neg ht] at hu
          rcases List.mem_cons.mp hu with rfl | hu
          · -- No permit was free for the first task, so none was for the others.
            have hfull : limit ≤ running := Nat.le_of_not_lt fun hlt => ht ⟨hp, hlt⟩
            rw [startReady_of_full now hfull] at hcount
            omega
          · exact hleft u hu hp

/-! ## Fresh tasks -/

theorem runningCount_startReady_pending {limit now running : Nat} {ts : List (Task α)}
    (h : ∀ t ∈ ts, t.phase = .pending ∧ t.job.delay ≠ 0) :
    runningCount (startReady limit now running ts) = min (limit - running) ts.length := by
  induction ts generalizing running with
  | nil => simp [startReady]
  | cons t ts ih =>
      obtain ⟨hp, hd⟩ := h t List.mem_cons_self
      have hts : ∀ u ∈ ts, u.phase = .pending ∧ u.job.delay ≠ 0 :=
        fun u hu => h u (List.mem_cons_of_mem t hu)
      by_cases hr : running < limit
      · have hi := @ih (running + 1) hts
        simp only [startReady, hp, hr, and_self, ↓reduceIte, hd, runningCount_cons,
          isRunning_begin, ne_eq, not_false_eq_true, decide_true, hi, List.length_cons]
        omega
      · have hfull : limit ≤ running := Nat.le_of_not_lt hr
        have hi := @ih running hts
        rw [startReady_of_full now hfull] at hi ⊢
        have hpending : t.phase.isRunning = false := by rw [hp]; rfl
        simp only [runningCount_cons, hpending, Bool.false_eq_true, ↓reduceIte, hi,
          List.length_cons]
        omega

/-- Where everything else has settled, as many of the fresh tasks run as there are permits. -/
theorem runningCount_startReady_fresh {limit now : Nat} {old fresh : List (Task α)}
    (hold : ∀ t ∈ old, t.phase.isSettled = true)
    (hfresh : ∀ t ∈ fresh, t.phase = .pending ∧ t.job.delay ≠ 0) :
    runningCount (startReady limit now 0 (old ++ fresh)) = min limit fresh.length := by
  induction old with
  | nil => exact runningCount_startReady_pending hfresh
  | cons t old ih =>
      obtain ⟨hp, hr⟩ := Phase.isSettled_iff.mp (hold t List.mem_cons_self)
      have hi := ih fun u hu => hold u (List.mem_cons_of_mem t hu)
      simp only [List.cons_append, startReady, hp, false_and, ↓reduceIte, runningCount_cons, hr,
        Bool.false_eq_true, hi, Nat.add_zero]

end BucketStore.Task
