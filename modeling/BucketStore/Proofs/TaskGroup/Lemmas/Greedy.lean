import BucketStore.Proofs.TaskGroup.Schedule
import Mathlib.Data.List.Forall2
import Mathlib.Data.List.Induction
import Mathlib.Order.Nat

/-!
# Greedy schedules

Jobs always have a greedy schedule, its starts are in order, and between two times no job starts
unless a running one ends. With a higher limit no job starts later.
-/

namespace BucketStore

namespace Slot

variable {α : Type}

theorem start_le_stop (s : Slot α) : s.start ≤ s.stop :=
  Nat.le_add_right _ _

end Slot

namespace Schedule

variable {α : Type} {limit base now : Nat} {slots before after : List (Slot α)} {s : Slot α}

/-! ## Counting unfinished jobs -/

theorem unfinished_append (before after : List (Slot α)) (time : Nat) :
    unfinished (before ++ after) time = unfinished before time + unfinished after time :=
  List.countP_append

theorem unfinished_singleton (s : Slot α) (time : Nat) :
    unfinished [s] time = if time < s.stop then 1 else 0 := by
  simp [unfinished, List.countP_cons]

theorem unfinished_eq_zero (h : ∀ s ∈ slots, s.stop ≤ now) : unfinished slots now = 0 := by
  refine List.countP_eq_zero.mpr fun s hs => ?_
  simpa using h s hs

theorem free_append_subset (before after : List (Slot α)) :
    free limit base (before ++ after) ⊆ free limit base before := by
  intro time htime
  refine ⟨htime.1, Nat.lt_of_le_of_lt ?_ htime.2⟩
  rw [unfinished_append]
  exact Nat.le_add_right _ _

/-- Once all jobs have ended, one more may start. -/
theorem free_nonempty (pos : 0 < limit) (base : Nat) (slots : List (Slot α)) :
    (free limit base slots).Nonempty := by
  have hends : ∃ time, base ≤ time ∧ ∀ s ∈ slots, s.stop ≤ time := by
    induction slots with
    | nil => exact ⟨base, Nat.le_refl _, fun _ h => nomatch h⟩
    | cons s slots ih =>
        obtain ⟨time, hbase, hstop⟩ := ih
        refine ⟨max time s.stop, Nat.le_trans hbase (Nat.le_max_left _ _), ?_⟩
        intro t ht
        rcases List.mem_cons.mp ht with rfl | ht
        · exact Nat.le_max_right _ _
        · exact Nat.le_trans (hstop t ht) (Nat.le_max_left _ _)
  obtain ⟨time, hbase, hstop⟩ := hends
  exact ⟨time, hbase, by rwa [unfinished_eq_zero hstop]⟩

/-- The same job, started no later. -/
def NoLater (s t : Slot α) : Prop :=
  t.job = s.job ∧ t.start ≤ s.start

theorem NoLater.stop_le {s t : Slot α} (h : NoLater s t) : t.stop ≤ s.stop := by
  rw [Slot.stop, Slot.stop, h.1]
  exact Nat.add_le_add_right h.2 _

/-- Of jobs that start no later, no more are unfinished at any time. -/
theorem unfinished_le {others : List (Slot α)} (h : List.Forall₂ NoLater slots others)
    (time : Nat) : unfinished others time ≤ unfinished slots time := by
  induction h with
  | nil => exact Nat.le_refl _
  | @cons s t slots others hst _ ih =>
      have hone : unfinished [t] time ≤ unfinished [s] time := by
        rw [unfinished_singleton, unfinished_singleton]
        have hstop := hst.stop_le
        split_ifs <;> omega
      have hsum := Nat.add_le_add hone ih
      rwa [← unfinished_append, ← unfinished_append] at hsum

/-! ## Building a schedule -/

namespace Greedy

theorem nil : Greedy limit base ([] : List (Slot α)) := by
  intro before s after h
  simp at h

theorem of_append (h : Greedy limit base (before ++ after)) : Greedy limit base before := by
  intro first s rest hs
  exact h first s (rest ++ after) (by rw [hs, List.append_assoc, List.cons_append])

theorem append_singleton (h : Greedy limit base slots)
    (hs : IsLeast (free limit base slots) s.start) : Greedy limit base (slots ++ [s]) := by
  intro first t rest heq
  rcases List.eq_nil_or_concat rest with rfl | ⟨rest, u, rfl⟩
  · obtain ⟨rfl, hst⟩ := List.append_inj' heq rfl
    cases hst
    exact hs
  · rw [List.concat_eq_append, ← List.cons_append, ← List.append_assoc] at heq
    exact h first t rest (List.append_inj' heq rfl).1

theorem exists_slots (pos : 0 < limit) (base : Nat) (jobs : List (Job α)) :
    ∃ slots : List (Slot α), slots.map Slot.job = jobs ∧ Greedy limit base slots := by
  classical
  induction jobs using List.reverseRecOn with
  | nil => exact ⟨[], rfl, nil⟩
  | append_singleton jobs job ih =>
      obtain ⟨slots, hjobs, hgreedy⟩ := ih
      refine ⟨slots ++ [⟨job, Nat.find (free_nonempty pos base slots)⟩], ?_, ?_⟩
      · rw [List.map_append, hjobs]
        rfl
      · exact hgreedy.append_singleton (Nat.isLeast_find (free_nonempty pos base slots))

/-! ## Starting times -/

theorem isLeast_last (h : Greedy limit base (slots ++ [s])) :
    IsLeast (free limit base slots) s.start :=
  h slots s [] rfl

theorem unique (h : Greedy limit base slots) {others : List (Slot α)}
    (hothers : Greedy limit base others) (hjobs : slots.map Slot.job = others.map Slot.job) :
    slots = others := by
  induction slots using List.reverseRecOn generalizing others with
  | nil => exact (List.map_eq_nil_iff.mp hjobs.symm).symm
  | append_singleton slots s ih =>
      rcases List.eq_nil_or_concat others with rfl | ⟨others, t, rfl⟩
      · simp at hjobs
      · rw [List.concat_eq_append] at hothers hjobs ⊢
        rw [List.map_append, List.map_append] at hjobs
        obtain ⟨hinit, hlast⟩ := List.append_inj' hjobs rfl
        obtain rfl := ih h.of_append hothers.of_append hinit
        have hstart := h.isLeast_last.unique hothers.isLeast_last
        cases s
        cases t
        cases hstart
        cases hlast
        rfl

theorem base_le (h : Greedy limit base slots) (hs : s ∈ slots) : base ≤ s.start := by
  obtain ⟨before, after, rfl⟩ := List.append_of_mem hs
  exact (h before s after rfl).1.1

theorem pairwise_start (h : Greedy limit base slots) :
    slots.Pairwise fun s t => s.start ≤ t.start := by
  induction slots using List.reverseRecOn with
  | nil => exact .nil
  | append_singleton slots t ih =>
      refine List.pairwise_append.mpr ⟨ih h.of_append, List.pairwise_singleton _ _, ?_⟩
      intro s hs u hu
      rw [List.mem_singleton.mp hu]
      obtain ⟨first, rest, rfl⟩ := List.append_of_mem hs
      exact (h.of_append first s rest rfl).2 (free_append_subset first _ h.isLeast_last.1)

/-- The jobs that have started by a time stand before the others. -/
theorem exists_split (h : Greedy limit base slots) (now : Nat) :
    ∃ started waiting, slots = started ++ waiting ∧ (∀ s ∈ started, s.start ≤ now) ∧
      ∀ s ∈ waiting, now < s.start := by
  have hsorted := h.pairwise_start
  clear h
  induction slots with
  | nil => exact ⟨[], [], rfl, by simp, by simp⟩
  | cons s slots ih =>
      obtain ⟨hfirst, hrest⟩ := List.pairwise_cons.mp hsorted
      by_cases hs : s.start ≤ now
      · obtain ⟨started, waiting, rfl, hstarted, hwaiting⟩ := ih hrest
        exact ⟨s :: started, waiting, rfl, List.forall_mem_cons.mpr ⟨hs, hstarted⟩, hwaiting⟩
      · have hlater : now < s.start := Nat.lt_of_not_le hs
        refine ⟨[], s :: slots, rfl, by simp, List.forall_mem_cons.mpr ⟨hlater, ?_⟩⟩
        exact fun t ht => Nat.lt_of_lt_of_le hlater (hfirst t ht)

/-- A job that has not started at a time does not start before `next` if none of the running jobs
ends before it. -/
theorem le_start {next : Nat} (h : Greedy limit base slots) (hbase : base ≤ now)
    (hnext : ∀ s ∈ slots, s.start ≤ now → now < s.stop → next ≤ s.stop) :
    ∀ s ∈ slots, now < s.start → next ≤ s.start := by
  induction slots using List.reverseRecOn with
  | nil => exact fun _ hs => nomatch hs
  | append_singleton slots t ih =>
      have hearlier := ih h.of_append fun s hs => hnext s (List.mem_append_left _ hs)
      intro s hs hlater
      rcases List.mem_append.mp hs with hs | hs
      · exact hearlier s hs hlater
      · rw [List.mem_singleton.mp hs] at hlater ⊢
        have hleast := h.isLeast_last
        refine Nat.le_of_not_lt fun hlt => Nat.not_le_of_lt hlater (hleast.2 ⟨hbase, ?_⟩)
        -- Whatever is unfinished now is still unfinished when the job starts.
        refine Nat.lt_of_le_of_lt (List.countP_mono_left fun u hu hopen => ?_) hleast.1.2
        simp only [decide_eq_true_eq] at hopen ⊢
        by_cases hu' : u.start ≤ now
        · exact Nat.lt_of_lt_of_le hlt (hnext u (List.mem_append_left _ hu) hu' hopen)
        · have := hearlier u hu (Nat.lt_of_not_le hu')
          exact Nat.lt_of_lt_of_le hlt (Nat.le_trans this u.start_le_stop)

/-- While no job is running, none is waiting. -/
theorem start_le (h : Greedy limit base slots) (hbase : base ≤ now)
    (hidle : ∀ s ∈ slots, s.start ≤ now → s.stop ≤ now) : ∀ s ∈ slots, s.start ≤ now := by
  intro s hs
  have hnext : ∀ t ∈ slots, t.start ≤ now → now < t.stop → s.start + 1 ≤ t.stop :=
    fun t ht hstart hrun => absurd (hidle t ht hstart) (Nat.not_le_of_lt hrun)
  exact Nat.le_of_not_lt fun hlater =>
    Nat.lt_irrefl s.start (h.le_start hbase hnext s hs hlater)

/-- With a higher limit every job starts no later. -/
theorem noLater {more : Nat} {others : List (Slot α)} (h : Greedy limit base slots)
    (hothers : Greedy more base others) (hle : limit ≤ more)
    (hjobs : slots.map Slot.job = others.map Slot.job) : List.Forall₂ NoLater slots others := by
  induction slots using List.reverseRecOn generalizing others with
  | nil =>
      rw [List.map_eq_nil_iff.mp hjobs.symm]
      exact .nil
  | append_singleton slots s ih =>
      rcases List.eq_nil_or_concat others with rfl | ⟨others, t, rfl⟩
      · simp at hjobs
      · rw [List.concat_eq_append] at hothers hjobs ⊢
        rw [List.map_append, List.map_append] at hjobs
        obtain ⟨hinit, hlast⟩ := List.append_inj' hjobs rfl
        have hearlier := ih h.of_append hothers.of_append hinit
        -- When the one schedule has room for the last job, so has the other.
        have hfree : s.start ∈ free more base others := by
          obtain ⟨hbase, hroom⟩ := h.isLeast_last.1
          refine ⟨hbase, ?_⟩
          calc unfinished others s.start
            _ ≤ unfinished slots s.start := unfinished_le hearlier s.start
            _ < limit := hroom
            _ ≤ more := hle
        have hstart : t.start ≤ s.start := hothers.isLeast_last.2 hfree
        exact List.rel_append hearlier (.cons ⟨(List.singleton_inj.mp hlast).symm, hstart⟩ .nil)

/-- Jobs that take no time all start at once. -/
theorem start_eq_base (h : Greedy limit base slots) (hdelay : ∀ s ∈ slots, s.job.delay = 0)
    (hs : s ∈ slots) : s.start = base := by
  refine Nat.le_antisymm (h.start_le (Nat.le_refl base) ?_ s hs) (h.base_le hs)
  intro t ht hstart
  rw [Slot.stop, hdelay t ht]
  exact hstart

end Greedy

end Schedule

end BucketStore
