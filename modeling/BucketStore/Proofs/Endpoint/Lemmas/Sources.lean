import BucketStore.Endpoint.Resolve
import BucketStore.Proofs.Text.Lemmas.Trimming

/-!
# Sources of endpoints

An endpoint is read from one text, of which white space at the ends and the scheme are taken off
first.
-/

namespace BucketStore.Endpoint

open BucketStore.Text

theorem resolve_eq {bucket : String} (h : bucket ≠ "") (endpoint region : String) :
    resolve bucket endpoint region = source endpoint region >>= ofSource bucket :=
  if_neg (by simpa using h)

theorem resolve_of_source {bucket endpoint region text : String} (h : bucket ≠ "")
    (hsource : source endpoint region = .ok text) :
    resolve bucket endpoint region = ofSource bucket text := by
  rw [resolve_eq h, hsource]
  rfl

theorem source_eq {endpoint : String} (h : trim endpoint ≠ "") (region : String) :
    source endpoint region = .ok (trim endpoint) :=
  if_pos (by simpa using h)

theorem ofSource_eq (bucket text : String) :
    ofSource bucket text =
      match Authority.parse (splitScheme text.toList).2 with
      | .error e => .error (.authority (withScheme text) e)
      | .ok a =>
        if a.location.isEmpty || a.host.isEmpty then .error (.noHost (withScheme text))
        else if !isValidHost a then .error (.invalidHost (withScheme text) (.ofList a.host))
        else .ok ⟨(splitScheme text.toList).1, .ofList a.location,
          bucketHostOf bucket (.ofList a.location)⟩ := by
  simp only [ofSource]
  cases Authority.parse (splitScheme text.toList).2 with
  | error e => rfl
  | ok a =>
      simp only [Except.mapError, bind, Except.bind]
      split
      · rfl
      · split <;> rfl

theorem ofSource_of_parse {text scheme : String} {rest : List Char} {a : Authority}
    (hsplit : splitScheme text.toList = (scheme, rest)) (hparse : Authority.parse rest = .ok a)
    (hlocation : a.location ≠ []) (hhost : a.host ≠ []) (hvalid : isValidHost a = true)
    (bucket : String) :
    ofSource bucket text =
      .ok ⟨scheme, .ofList a.location, bucketHostOf bucket (.ofList a.location)⟩ := by
  rw [ofSource_eq, hsplit]
  simp only [hparse, hvalid]
  rw [if_neg (by simp [hlocation, hhost]), if_neg (by decide)]

/-! ## Schemes -/

theorem splitScheme_fst (cs : List Char) :
    (splitScheme cs).1 = "http" ∨ (splitScheme cs).1 = "https" := by
  rw [splitScheme]
  split
  · exact .inl rfl
  · split <;> exact .inr rfl

/-- What an endpoint was read from. -/
theorem read_of_ofSource {bucket text : String} {e : Endpoint}
    (h : ofSource bucket text = .ok e) :
    e.scheme = (splitScheme text.toList).1 ∧ e.bucketHost = bucketHostOf bucket e.serviceHost ∧
      ∃ a, Authority.parse (splitScheme text.toList).2 = .ok a ∧ isValidHost a = true ∧
        a.location = e.serviceHost.toList := by
  rw [ofSource_eq] at h
  split at h
  · cases h
  · rename_i a ha
    split at h
    · cases h
    · split at h
      · cases h
      · rename_i hvalid
        cases h
        exact ⟨rfl, rfl, a, ha, by simpa using hvalid, String.toList_ofList.symm⟩

theorem of_ofSource {bucket text : String} {e : Endpoint} (h : ofSource bucket text = .ok e) :
    (e.scheme = "http" ∨ e.scheme = "https") ∧
      e.bucketHost = bucketHostOf bucket e.serviceHost ∧
      ∃ rest a, Authority.parse rest = .ok a ∧ isValidHost a = true ∧
        a.location = e.serviceHost.toList := by
  obtain ⟨hscheme, hhost, a, ha⟩ := read_of_ofSource h
  rw [hscheme]
  exact ⟨splitScheme_fst _, hhost, _, a, ha⟩

theorem of_resolve {bucket endpoint region : String} {e : Endpoint}
    (h : resolve bucket endpoint region = .ok e) :
    bucket ≠ "" ∧ ∃ text, ofSource bucket text = .ok e := by
  by_cases hbucket : bucket = ""
  · subst hbucket
    cases h
  · rw [resolve_eq hbucket] at h
    cases hsource : source endpoint region with
    | error e =>
        rw [hsource] at h
        cases h
    | ok text =>
        rw [hsource] at h
        exact ⟨hbucket, text, h⟩

theorem splitScheme_url {scheme : String} (h : scheme = "http" ∨ scheme = "https")
    (rest : String) : splitScheme (scheme ++ "://" ++ rest).toList = (scheme, rest.toList) := by
  rw [String.toList_append]
  rcases h with rfl | rfl
  · rfl
  · rfl

theorem withScheme_url {scheme : String} (h : scheme = "http" ∨ scheme = "https")
    (rest : String) : withScheme (scheme ++ "://" ++ rest) = scheme ++ "://" ++ rest := by
  simp only [withScheme, splitScheme_url h, String.ofList_toList]

/-! ## Trimming -/

theorem trim_url {scheme : String} (h : scheme = "http" ∨ scheme = "https") (host : String) :
    trim (scheme ++ "://" ++ host) =
      scheme ++ "://" ++ .ofList (host.toList.rdropWhile isBlank) := by
  have htrim : trimBy isBlank ((scheme ++ "://").toList ++ host.toList) =
      (scheme ++ "://").toList ++ host.toList.rdropWhile isBlank := by
    have hslash : isBlank '/' = false := by decide
    rcases h with rfl | rfl
    · exact rdropWhile_append_cons hslash "http:/".toList host.toList
    · exact rdropWhile_append_cons hslash "https:/".toList host.toList
  rw [trim, String.toList_append, htrim, String.ofList_append, String.ofList_toList]

/-- The source of a URL, with whatever region. -/
theorem source_url {scheme : String} (h : scheme = "http" ∨ scheme = "https")
    (host region : String) :
    source (scheme ++ "://" ++ host) region = .ok (trim (scheme ++ "://" ++ host)) := by
  refine source_eq ?_ region
  rw [trim_url h]
  rcases h with rfl | rfl <;> simp

/-! ## Hosts of buckets -/

theorem bucketHostOf_eq_self {bucket host : String}
    (h : (bucket ++ ".").toList <+: host.toList) : bucketHostOf bucket host = host :=
  if_pos (List.isPrefixOf_iff_prefix.mpr h)

theorem prefix_bucketHostOf (bucket host : String) :
    (bucket ++ ".").toList <+: (bucketHostOf bucket host).toList := by
  rw [bucketHostOf]
  split
  · rename_i h
    exact List.isPrefixOf_iff_prefix.mp h
  · exact ⟨host.toList, String.toList_append.symm⟩

/-- The host of a bucket is the host of the bucket at itself. -/
theorem bucketHostOf_idem (bucket host : String) :
    bucketHostOf bucket (bucketHostOf bucket host) = bucketHostOf bucket host :=
  bucketHostOf_eq_self (prefix_bucketHostOf bucket host)

end BucketStore.Endpoint
