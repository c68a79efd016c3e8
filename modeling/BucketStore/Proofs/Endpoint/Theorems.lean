import BucketStore.Proofs.Endpoint.Lemmas.Authority
import BucketStore.Proofs.Endpoint.Lemmas.Sources

/-!
# Resolving the URL of a bucket

The URL of a bucket resolves to the bucket's host again, unless that host was made of an address in
brackets: then it is no host of a URL.
-/

namespace BucketStore.Endpoint

open BucketStore.Text

/-- The service is reached at an address in brackets. -/
def IsBracketed (e : Endpoint) : Prop :=
  e.serviceHost.toList.head? = some '['

instance (e : Endpoint) : Decidable e.IsBracketed :=
  inferInstanceAs (Decidable (_ = _))

/-! ## URLs as sources -/

section

variable {scheme : String} (hscheme : scheme = "http" ∨ scheme = "https")
include hscheme

theorem splitScheme_trim_url (host : String) :
    splitScheme (trim (scheme ++ "://" ++ host)).toList =
      (scheme, host.toList.rdropWhile isBlank) := by
  rw [trim_url hscheme, splitScheme_url hscheme, String.toList_ofList]

theorem withScheme_trim_url (host : String) :
    withScheme (trim (scheme ++ "://" ++ host)) = trim (scheme ++ "://" ++ host) := by
  rw [trim_url hscheme, withScheme_url hscheme]

theorem ofSource_url_named {host : String} (h : Authority.Named host.toList) (bucket : String) :
    ofSource bucket (trim (scheme ++ "://" ++ host)) =
      .ok ⟨scheme, host, bucketHostOf bucket host⟩ := by
  have hblank : host.toList.rdropWhile isBlank = host.toList :=
    List.rdropWhile_eq_self_iff.mpr fun hne => by
      rw [(Authority.of_isPlain (h.isPlain _ (List.getLast_mem hne))).1]
      exact Bool.false_ne_true
  have hsplit : splitScheme (trim (scheme ++ "://" ++ host)).toList = (scheme, host.toList) := by
    rw [splitScheme_trim_url hscheme, hblank]
  have hsource := ofSource_of_parse hsplit h.parse h.ne_nil (lowerHost_ne_nil h.nonempty)
    h.isValidHost bucket
  rwa [String.ofList_toList] at hsource

theorem ofSource_url_bracketed {host : String} {before cs : List Char}
    (hhost : host.toList = before ++ '[' :: cs)
    (hbefore : ∀ c ∈ before, Authority.isPlain c = true) (hne : before ≠ [])
    (huserinfo : '@' ∉ cs) (bucket : String) :
    ofSource bucket (trim (scheme ++ "://" ++ host)) =
      .error (.authority (trim (scheme ++ "://" ++ host)) .brackets) := by
  have hrest : '@' ∉ cs.rdropWhile isBlank := fun hc =>
    huserinfo ((List.rdropWhile_prefix _ cs).subset hc)
  have htrim : host.toList.rdropWhile isBlank = before ++ '[' :: cs.rdropWhile isBlank := by
    rw [hhost, rdropWhile_append_cons (by decide)]
  rw [ofSource_eq, splitScheme_trim_url hscheme, withScheme_trim_url hscheme, htrim]
  simp only [Authority.parse_before hbefore hne hrest]

end

/-! ## Hosts of buckets -/

section

variable {bucket host : String} (hbucket : ∀ c ∈ bucket.toList, isHostChar c = true)
include hbucket

theorem named_bucketHostOf (h : Authority.Named host.toList) :
    Authority.Named (bucketHostOf bucket host).toList := by
  rw [bucketHostOf]
  split
  · exact h
  · have hlabel := h.label hbucket
    simpa [String.toList_append] using hlabel

theorem toList_bucketHostOf_bracketed {cs : List Char} (hne : bucket ≠ "")
    (h : host.toList = '[' :: cs) :
    (bucketHostOf bucket host).toList = (bucket.toList ++ ['.']) ++ '[' :: cs := by
  have hprefix : ¬ (bucket ++ ".").toList.isPrefixOf host.toList := by
    rw [List.isPrefixOf_iff_prefix, h, String.toList_append]
    cases hchars : bucket.toList with
    | nil => exact absurd (String.toList_eq_nil_iff.mp hchars) hne
    | cons c label =>
        -- The host begins with a bracket, and a label does not.
        intro hprefix
        have hc : c = '[' := (List.cons_prefix_cons.mp hprefix).1
        have hhost := hbucket c (by rw [hchars]; exact List.mem_cons_self)
        rw [hc] at hhost
        exact absurd hhost (by decide)
  rw [bucketHostOf, if_neg hprefix, String.toList_append, String.toList_append, h]
  rfl

end

/-! ## Resolving again -/

/-- The URL of a bucket resolves to the bucket's host, with the same scheme, unless the service is
reached at an address in brackets. -/
theorem resolve_bucketUrl {bucket endpoint region : String} {e : Endpoint}
    (hbucket : ∀ c ∈ bucket.toList, isHostChar c = true)
    (h : resolve bucket endpoint region = .ok e) :
    resolve bucket e.bucketUrl "" =
      if e.IsBracketed then .error (.authority (trim e.bucketUrl) .brackets)
      else .ok ⟨e.scheme, e.bucketHost, e.bucketHost⟩ := by
  obtain ⟨hne, text, htext⟩ := of_resolve h
  obtain ⟨hscheme, hhost, rest, a, ha, hvalid, hlocation⟩ := of_ofSource htext
  have hsource : source e.bucketUrl "" = .ok (trim e.bucketUrl) :=
    source_url hscheme e.bucketHost ""
  rw [resolve_of_source hne hsource]
  split_ifs with hbracket
  · obtain ⟨cs, hcs⟩ := List.head?_eq_some_iff.mp hbracket
    have huserinfo : '@' ∉ cs := fun hc => Authority.not_mem_location ha (by
      rw [hlocation, hcs]
      exact List.mem_cons_of_mem _ hc)
    have hlabel : ∀ c ∈ bucket.toList ++ ['.'], Authority.isPlain c = true := fun c hc =>
      Authority.isPlain_of_isNameChar (isNameChar_of_isHostChar (isHostChar_label hbucket c hc))
    have hbucketHost := toList_bucketHostOf_bracketed hbucket hne hcs
    rw [← hhost] at hbucketHost
    exact ofSource_url_bracketed hscheme hbucketHost hlabel (by simp) huserinfo bucket
  · have hnamed : Authority.Named a.location :=
      .of_parse ha hvalid (by rwa [hlocation])
    rw [hlocation] at hnamed
    have hbucketHost := named_bucketHostOf hbucket hnamed
    rw [← hhost] at hbucketHost
    have hagain := ofSource_url_named hscheme hbucketHost bucket
    rw [hhost, bucketHostOf_idem, ← hhost] at hagain
    exact hagain

/-- A bucket of a service on this machine, reached by version 4 of the protocol. -/
def localEndpoint : Endpoint :=
  ⟨"http", "127.0.0.1:9000", "demo-bucket.127.0.0.1:9000"⟩

theorem resolve_bucketUrl_local :
    resolve "demo-bucket" "http://127.0.0.1:9000/" "" = .ok localEndpoint ∧
    resolve "demo-bucket" localEndpoint.bucketUrl "" =
      .ok ⟨"http", "demo-bucket.127.0.0.1:9000", "demo-bucket.127.0.0.1:9000"⟩ := by
  have h : resolve "demo-bucket" "http://127.0.0.1:9000/" "" = .ok localEndpoint := by rfl
  have hbucket : ∀ c ∈ "demo-bucket".toList, isHostChar c = true := List.all_eq_true.mp rfl
  refine ⟨h, ?_⟩
  rw [resolve_bucketUrl hbucket h, if_neg (by decide)]
  rfl

/-- A bucket of a service on this machine, reached by version 6 of the protocol. -/
def loopback : Endpoint :=
  ⟨"http", "[::1]:9000", "b.[::1]:9000"⟩

theorem resolve_bucketUrl_loopback :
    resolve "b" "http://[::1]:9000" "" = .ok loopback ∧
    resolve "b" loopback.bucketUrl "" = .error (.authority "http://b.[::1]:9000" .brackets) :=
  ⟨by rfl, by rfl⟩

end BucketStore.Endpoint
