import BucketStore.Proofs.Endpoint.Lemmas.Sources

/-!
# What is missing of an endpoint

An endpoint cannot be resolved because a part of it is missing just if there is no bucket, or
neither a host nor a region. All other failures are about the text of a host that is there.
-/

namespace BucketStore.Endpoint

open BucketStore.Text

namespace ResolveError

/-- The error says that the bucket, or the host and the region, are missing. -/
def IsMissing (e : ResolveError) : Prop :=
  e.message = "cos bucket name is empty" ∨
    e.message = "cos endpoint is empty and region is missing"

theorem head?_toList_append {s : String} {c : Char} (h : s.toList.head? = some c) (t : String) :
    (s ++ t).toList.head? = some c := by
  rw [String.toList_append, List.head?_append, h]
  rfl

theorem head?_message {e : ResolveError} (hbucket : e ≠ .noBucket) (hendpoint : e ≠ .noEndpoint) :
    e.message.toList.head? = some 'p' := by
  cases e with
  | noBucket => exact absurd rfl hbucket
  | noEndpoint => exact absurd rfl hendpoint
  | authority url error =>
      have hmessage : (authority url error).message =
          "parse cos endpoint failed: " ++ error.message := rfl
      rw [hmessage]
      exact head?_toList_append (by decide) _
  | noHost url =>
      have hmessage : (noHost url).message = "parse cos endpoint failed: missing host" := rfl
      rw [hmessage]
      decide
  | invalidHost url host =>
      have hmessage : (invalidHost url host).message =
          "parse cos endpoint failed: invalid character in host name " ++ quoted host := rfl
      rw [hmessage]
      exact head?_toList_append (by decide) _

theorem isMissing_iff {e : ResolveError} : e.IsMissing ↔ e = .noBucket ∨ e = .noEndpoint := by
  constructor
  · intro h
    by_cases hbucket : e = .noBucket
    · exact .inl hbucket
    · by_cases hendpoint : e = .noEndpoint
      · exact .inr hendpoint
      · have hhead := head?_message hbucket hendpoint
        rcases h with h | h
        · rw [h] at hhead
          exact absurd hhead (by decide)
        · rw [h] at hhead
          exact absurd hhead (by decide)
  · rintro (rfl | rfl)
    · exact .inl rfl
    · exact .inr rfl

theorem text_toFailure (e : ResolveError) : ∃ text, e.toFailure.text = .ok text :=
  ⟨_, rfl⟩

theorem message_of_toFailure {e e' : ResolveError} (h : e.toFailure = e'.toFailure) :
    e.message = e'.message := by
  injection h with h
  injection h with _ h _ _
  injection h

end ResolveError

/-! ## Which part is missing -/

/-- A text that names a host lacks nothing. -/
theorem not_isMissing_of_ofSource {bucket text : String} {e : ResolveError}
    (h : ofSource bucket text = .error e) : ¬ e.IsMissing := by
  rw [ResolveError.isMissing_iff]
  rw [ofSource_eq] at h
  split at h
  · cases h
    exact nofun
  · split at h
    · cases h
      exact nofun
    · split at h
      · cases h
        exact nofun
      · cases h

theorem source_eq_ok {endpoint region : String} (h : ¬ (trim endpoint = "" ∧ region = "")) :
    ∃ text, source endpoint region = .ok text := by
  simp only [source]
  split
  · exact ⟨_, rfl⟩
  · rename_i hendpoint
    have hregion : region.isEmpty = false := by
      rw [Bool.eq_false_iff]
      intro hregion
      exact h ⟨by simpa using hendpoint, by simpa using hregion⟩
    rw [if_neg (by simp [hregion])]
    exact ⟨_, rfl⟩

theorem resolve_isMissing_iff {bucket endpoint region : String} :
    (∃ e, resolve bucket endpoint region = .error e ∧ e.IsMissing) ↔
      bucket = "" ∨ trim endpoint = "" ∧ region = "" := by
  by_cases hbucket : bucket = ""
  · subst hbucket
    exact ⟨fun _ => .inl rfl, fun _ => ⟨.noBucket, rfl, .inl rfl⟩⟩
  · rw [resolve_eq hbucket]
    by_cases hmissing : trim endpoint = "" ∧ region = ""
    · obtain ⟨hendpoint, rfl⟩ := hmissing
      have hsource : source endpoint "" = .error .noEndpoint := by
        rw [source, hendpoint]
        rfl
      rw [hsource]
      exact ⟨fun _ => .inr ⟨hendpoint, rfl⟩, fun _ => ⟨.noEndpoint, rfl, .inr rfl⟩⟩
    · obtain ⟨text, htext⟩ := source_eq_ok hmissing
      rw [htext]
      constructor
      · rintro ⟨e, he, h⟩
        exact absurd h (not_isMissing_of_ofSource he)
      · rintro (h | h)
        · exact absurd h hbucket
        · exact absurd h hmissing

end BucketStore.Endpoint
