import BucketStore.Enrichment
import Mathlib.Data.List.Basic

/-!
# Enriched files

What a file is with the tags and the URL that are asked for, and what enriching comes to in any
monad: fetching the one, then the other, and writing both to the files at their positions.
-/

namespace BucketStore

/-! ## Enriched files -/

theorem mapIdx_const {α β : Type} (items : List α) (g : α → β) :
    (items.mapIdx fun _ item => g item) = items.map g := by
  refine List.ext_getElem? fun i => ?_
  rw [List.getElem?_mapIdx, List.getElem?_map]

theorem mapIdx_map {α β γ : Type} (items : List α) (f : α → β) (g : Nat → β → γ) :
    (items.map f).mapIdx g = items.mapIdx fun i item => g i (f item) := by
  refine List.ext_getElem? fun i => ?_
  simp only [List.getElem?_mapIdx, List.getElem?_map, Option.map_map]
  rfl

namespace FileInfo

variable {option : GetOption}

/-- A file with the tags and the URL that the option asks for. -/
def enriched (option : GetOption) (tags : Option TagMap) (url : Value) (f : FileInfo) :
    FileInfo :=
  { f with
    tagging := if option.withTagging then tags else f.tagging
    url := if option.withUrl then url else f.url }

theorem enriched_of_not_asksMore (h : option.asksMore = false) (tags : Option TagMap)
    (url : Value) (f : FileInfo) : f.enriched option tags url = f := by
  simp only [GetOption.asksMore, Bool.or_eq_false_iff] at h
  simp [enriched, h.1, h.2]

theorem mapIdx_enriched_of_not_asksMore (h : option.asksMore = false) (files : List FileInfo)
    (tags : Nat → FileInfo → Option TagMap) (url : Nat → FileInfo → Value) :
    (files.mapIdx fun i f => f.enriched option (tags i f) (url i f)) = files := by
  refine List.ext_getElem? fun i => ?_
  simp only [List.getElem?_mapIdx, enriched_of_not_asksMore h, Option.map_id']

/-- What is fetched for the keys of files if it is asked for, in place of their own. -/
theorem map_asked {α : Type} (asked : Bool) (files : List FileInfo) (g : Value → α)
    (own : FileInfo → α) :
    (if asked then (files.map fun f => f.key).map g else files.map own) =
      files.map fun f => if asked then g f.key else own f := by
  cases asked with
  | false => rfl
  | true =>
      rw [if_pos rfl, List.map_map]
      rfl

theorem assemble_mapIdx (files : List FileInfo) (tags : Nat → FileInfo → Option TagMap)
    (url : Nat → FileInfo → Value) :
    assemble files (files.mapIdx tags) (files.mapIdx url) =
      files.mapIdx fun i f => { f with tagging := tags i f, url := url i f } := by
  induction files generalizing tags url with
  | nil => rfl
  | cons f files ih => simp only [List.mapIdx_cons, assemble, ih]

theorem assemble_map (files : List FileInfo) (tags : FileInfo → Option TagMap)
    (url : FileInfo → Value) :
    assemble files (files.map tags) (files.map url) =
      files.map fun f => { f with tagging := tags f, url := url f } := by
  have h := assemble_mapIdx files (fun _ => tags) (fun _ => url)
  rwa [mapIdx_const, mapIdx_const, mapIdx_const] at h

end FileInfo

/-! ## Enriching in any monad -/

section enrich

variable {m : Type → Type} [Monad m] {tagAll : List Value → m (List (Option TagMap))}
  {signAll : List Value → m (List Value)} {files : List FileInfo} {option : GetOption}

theorem enrich_of_nothing (h : files = [] ∨ option.asksMore = false) :
    enrich tagAll signAll files option = pure files := by
  have hskip : (files.isEmpty || !option.asksMore) = true := by
    rcases h with rfl | h
    · rfl
    · rw [h, Bool.not_false, Bool.or_true]
  rw [enrich, if_pos hskip]

theorem enrich_eq_bind (hfiles : files ≠ []) (hmore : option.asksMore = true) :
    enrich tagAll signAll files option =
      (if option.withTagging then tagAll (files.map fun f => f.key)
        else pure (files.map fun f => f.tagging)) >>= fun taggings =>
      (if option.withUrl then signAll (files.map fun f => f.key)
        else pure (files.map fun f => f.url)) >>= fun urls =>
      pure (FileInfo.assemble files taggings urls) := by
  have hgo : ¬ (files.isEmpty || !option.asksMore) = true := by
    simp [hfiles, hmore]
  rw [enrich, if_neg hgo]
  obtain ⟨withTagging, withUrl, expire⟩ := option
  cases withTagging <;> cases withUrl <;> rfl

/-- A property that goes from the parts of a computation to the whole goes from the fetching of tags
and URLs to the enriching. -/
theorem enrich_of_parts (P : ∀ {α : Type}, m α → Prop)
    (hpure : ∀ {α : Type} (a : α), P (pure a : m α))
    (hbind : ∀ {α β : Type} {x : m α} {next : α → m β}, P x → (∀ a, P (next a)) → P (x >>= next))
    (htag : ∀ keys, P (tagAll keys)) (hsign : option.withUrl = true → ∀ keys, P (signAll keys)) :
    P (enrich tagAll signAll files option) := by
  by_cases hnothing : files = [] ∨ option.asksMore = false
  · rw [enrich_of_nothing hnothing]
    exact hpure files
  · rw [not_or, Bool.not_eq_false] at hnothing
    rw [enrich_eq_bind hnothing.1 hnothing.2]
    refine hbind ?tags fun _ => hbind ?urls fun _ => hpure _
    case tags =>
      split
      · exact htag _
      · exact hpure _
    case urls =>
      split
      · rename_i hasked
        exact hsign hasked _
      · exact hpure _

end enrich

end BucketStore
