import BucketStore.Proofs.Store.Lemmas.Runs
import BucketStore.Store.Listing

/-!
# Fetching in rounds

Fetching for many keys, in rounds, gets what fetching for one key after the other gets, and makes the
same calls unless one fails.
-/

namespace BucketStore.Store

open BucketStore.Action

variable {σ α : Type}

/-! ## One key after the other -/

/-- Fetching for these keys in turn gets these values. -/
inductive Fetches (fetch : Value → Action σ α) : List Value → σ → List α → σ → Prop
  | nil (state : σ) : Fetches fetch [] state [] state
  | cons {key : Value} {keys : List Value} {a : α} {as : List α} {state mid later : σ} :
      Gets (fetch key) state a mid → Fetches fetch keys mid as later →
      Fetches fetch (key :: keys) state (a :: as) later

variable {fetch : Value → Action σ α} {c : Value → Call}

theorem fetches_nil_iff {state later : σ} {as : List α} :
    Fetches fetch [] state as later ↔ as = [] ∧ state = later := by
  constructor
  · rintro ⟨⟩
    exact ⟨rfl, rfl⟩
  · rintro ⟨rfl, rfl⟩
    exact .nil state

theorem fetches_cons_iff {key : Value} {keys : List Value} {state later : σ} {as : List α} :
    Fetches fetch (key :: keys) state as later ↔
      ∃ a rest mid, as = a :: rest ∧ Gets (fetch key) state a mid ∧
        Fetches fetch keys mid rest later := by
  constructor
  · rintro (_ | ⟨hgets, hrest⟩)
    exact ⟨_, _, _, rfl, hgets, hrest⟩
  · rintro ⟨a, rest, mid, rfl, hgets, hrest⟩
    exact .cons hgets hrest

theorem fetches_append_iff {before after : List Value} {state later : σ} {as : List α} :
    Fetches fetch (before ++ after) state as later ↔
      ∃ first rest mid, as = first ++ rest ∧ Fetches fetch before state first mid ∧
        Fetches fetch after mid rest later := by
  induction before generalizing state as with
  | nil =>
      constructor
      · intro h
        exact ⟨[], as, state, rfl, .nil state, h⟩
      · rintro ⟨first, rest, mid, rfl, hfirst, hrest⟩
        obtain ⟨rfl, rfl⟩ := fetches_nil_iff.mp hfirst
        exact hrest
  | cons key before ih =>
      rw [List.cons_append]
      constructor
      · intro h
        obtain ⟨a, tail, mid, rfl, hgets, htail⟩ := fetches_cons_iff.mp h
        obtain ⟨first, rest, mid', rfl, hfirst, hrest⟩ := ih.mp htail
        exact ⟨a :: first, rest, mid', rfl, .cons hgets hfirst, hrest⟩
      · rintro ⟨first, rest, mid, rfl, hfirst, hrest⟩
        obtain ⟨a, first, mid', rfl, hgets, hfirst⟩ := fetches_cons_iff.mp hfirst
        exact .cons hgets (ih.mpr ⟨first, rest, mid, rfl, hfirst, hrest⟩)

/-! ## Rounds -/

theorem mapM_id_cons_iff {r : Result α} {rs : List (Result α)} {as : List α} :
    (r :: rs).mapM id = .ok as ↔ ∃ a rest, as = a :: rest ∧ r = .ok a ∧ rs.mapM id = .ok rest := by
  rw [List.mapM_cons]
  cases r with
  | error e => exact ⟨nofun, nofun⟩
  | ok a =>
      cases rs.mapM (id : Result α → Result α) with
      | error e => exact ⟨nofun, nofun⟩
      | ok rest =>
          constructor
          · rintro ⟨⟩
            exact ⟨a, rest, rfl, rfl, rfl⟩
          · rintro ⟨_, _, rfl, ⟨⟩, ⟨⟩⟩
            rfl

/-- All keys of a round are fetched, also after one that fails. -/
theorem outcomes_run (hfetch : ∀ key, Works (fetch key) [c key]) (keys : List Value) (state : σ) :
    ∃ rs made logged later,
      Runs (keys.mapM fun key => (fetch key).outcome) state (.ok rs) made logged later ∧
      Within (keys.map c) (rs.mapM id) made logged ∧
      ∀ as last, (rs.mapM id = .ok as ∧ later = last) ↔ Fetches fetch keys state as last := by
  induction keys generalizing state with
  | nil =>
      refine ⟨[], [], [], state, .pure [] state, ⟨.refl [], nofun, fun _ _ => rfl, fun _ _ => rfl⟩, ?_⟩
      intro as last
      rw [fetches_nil_iff]
      constructor
      · rintro ⟨⟨⟩, rfl⟩
        exact ⟨rfl, rfl⟩
      · rintro ⟨rfl, rfl⟩
        exact ⟨rfl, rfl⟩
  | cons key keys ih =>
      obtain ⟨r, made, logged, mid, hruns, hwithin⟩ := hfetch key state
      obtain ⟨rs, made', logged', later, hruns', hwithin', hfetches⟩ := ih mid
      refine ⟨r :: rs, made ++ (made' ++ []), logged ++ (logged' ++ []), later, ?_, ?_, ?_⟩
      · rw [List.mapM_cons]
        exact hruns.outcome.bind (hruns'.bind (.pure (r :: rs) later))
      · rw [List.append_nil, List.append_nil, List.map_cons, ← List.singleton_append]
        refine ⟨hwithin.sublist.append hwithin'.sublist,
          forall_mem_append_errors hwithin.errors hwithin'.errors, fun as has => ?_,
          fun as has => ?_⟩
        · obtain ⟨a, rest, -, hr, hrs⟩ := mapM_id_cons_iff.mp has
          rw [hwithin.complete a hr, hwithin'.complete rest hrs]
        · obtain ⟨a, rest, -, hr, hrs⟩ := mapM_id_cons_iff.mp has
          rw [hwithin.quiet a hr, hwithin'.quiet rest hrs, List.append_nil]
      · intro as last
        rw [mapM_id_cons_iff, fetches_cons_iff]
        constructor
        · rintro ⟨⟨a, rest, rfl, hr, hrs⟩, hlast⟩
          exact ⟨a, rest, mid, rfl, (Gets.iff_of_runs hruns).mpr ⟨hr, rfl⟩,
            (hfetches rest last).mp ⟨hrs, hlast⟩⟩
        · rintro ⟨a, rest, mid', rfl, hgets, hrest⟩
          obtain ⟨hr, rfl⟩ := (Gets.iff_of_runs hruns).mp hgets
          obtain ⟨hrs, hlast⟩ := (hfetches rest last).mpr hrest
          exact ⟨⟨a, rest, rfl, hr, hrs⟩, hlast⟩

/-- The action fetches for all of these keys: it makes a call for each, unless one fails, and gets
what fetching for them in turn gets. -/
structure FetchesAll (fetch : Value → Action σ α) (c : Value → Call) (keys : List Value)
    (action : Action σ (List α)) : Prop where
  works : Works action (keys.map c)
  gets : ∀ state as later, Gets action state as later ↔ Fetches fetch keys state as later

theorem fetchRound_fetchesAll (hfetch : ∀ key, Works (fetch key) [c key]) (keys : List Value) :
    FetchesAll fetch c keys (fetchRound fetch keys) := by
  have hruns : ∀ state, ∃ r made logged later, Runs (fetchRound fetch keys) state r made logged
      later ∧ Within (keys.map c) r made logged ∧
      ∀ as last, (r = .ok as ∧ later = last) ↔ Fetches fetch keys state as last := by
    intro state
    obtain ⟨rs, made, logged, later, hruns, hwithin, hfetches⟩ := outcomes_run hfetch keys state
    refine ⟨rs.mapM id, made ++ [], logged ++ [], later, hruns.bind (.ofResult _ later), ?_,
      hfetches⟩
    rw [List.append_nil, List.append_nil]
    exact hwithin
  constructor
  · intro state
    obtain ⟨r, made, logged, later, hround, hwithin, -⟩ := hruns state
    exact ⟨r, made, logged, later, hround, hwithin⟩
  · intro state as last
    obtain ⟨r, made, logged, later, hround, -, hfetches⟩ := hruns state
    rw [Gets.iff_of_runs hround, hfetches]

theorem FetchesAll.append {before after : List Value} {action action' : Action σ (List α)}
    (h : FetchesAll fetch c before action) (h' : FetchesAll fetch c after action') :
    FetchesAll fetch c (before ++ after)
      (action >>= fun first => action' >>= fun rest => pure (first ++ rest)) := by
  have hrest : ∀ first : List α, Works (action' >>= fun rest => pure (first ++ rest))
      (after.map c) := fun first => h'.works.bind_nil fun _ => .pure _
  constructor
  · rw [List.map_append]
    exact h.works.bind hrest
  · intro state as later
    rw [Gets.bind_iff h.works hrest, fetches_append_iff]
    constructor
    · rintro ⟨first, mid, hfirst, hgets⟩
      rw [Gets.bind_iff h'.works fun _ => .pure _] at hgets
      obtain ⟨rest, last, hgets, hpure⟩ := hgets
      obtain ⟨rfl, rfl⟩ := Gets.pure_iff.mp hpure
      exact ⟨first, rest, mid, rfl, (h.gets ..).mp hfirst, (h'.gets ..).mp hgets⟩
    · rintro ⟨first, rest, mid, rfl, hfirst, hgets⟩
      refine ⟨first, mid, (h.gets ..).mpr hfirst, ?_⟩
      rw [Gets.bind_iff h'.works fun _ => .pure _]
      exact ⟨rest, later, (h'.gets ..).mpr hgets, Gets.pure_iff.mpr ⟨rfl, rfl⟩⟩

theorem rounds_fetchesAll (hfetch : ∀ key, Works (fetch key) [c key]) {width : Nat}
    (hwidth : 0 < width) (keys : List Value) :
    FetchesAll fetch c keys
      ((rounds width keys).mapM (fetchRound fetch) >>= fun fetched => pure fetched.flatten) := by
  induction keys using rounds.induct width with
  | case1 keys h =>
      have hnil : keys = [] :=
        List.eq_nil_of_length_eq_zero (h.resolve_left (Nat.ne_of_gt hwidth))
      subst hnil
      rw [rounds, dif_pos h]
      exact ⟨.pure [], fun _ _ _ => by
        rw [fetches_nil_iff]
        exact Gets.pure_iff.trans (and_congr_left' eq_comm)⟩
  | case2 keys h ih =>
      have happend := (fetchRound_fetchesAll hfetch (keys.take width)).append ih
      rw [List.take_append_drop] at happend
      rw [rounds, dif_neg h]
      simp only [List.mapM_cons, bind_assoc, pure_bind, List.flatten_cons] at happend ⊢
      exact happend

theorem fetchEach_fetchesAll (hfetch : ∀ key, Works (fetch key) [c key]) {limit : Int}
    (hlimit : 0 < limit) (keys : List Value) :
    FetchesAll fetch c keys (fetchEach limit fetch keys) := by
  rw [fetchEach, if_neg (Int.not_le.mpr hlimit)]
  exact rounds_fetchesAll hfetch (Int.lt_toNat.mpr hlimit) keys

end BucketStore.Store
