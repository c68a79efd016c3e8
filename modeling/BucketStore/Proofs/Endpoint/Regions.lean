import BucketStore.Proofs.Endpoint.Lemmas.Authority
import BucketStore.Proofs.Endpoint.Lemmas.Sources

/-!
# Resolving a region

Without an endpoint, a region stands for the URL of its service. What a region may say is decided by
reading that URL: a region without delimiters of URLs is read as a part of the host or not at all.
-/

namespace BucketStore.Endpoint

open BucketStore.Text

/-- The host of the service in a region. -/
def regionHost (region : String) : String :=
  "cos." ++ region ++ ".myqcloud.com"

/-- Whether the character ends the host of a URL, begins it anew, or is dropped from the URL. -/
def isDelimiter (c : Char) : Bool :=
  Authority.isEnd c || c == '@' || c == '\t' || c == '\r' || c == '\n'

/-- What a bucket and a region come to under a blank endpoint. The region stands for the URL of its
service, as if that were the endpoint. The scheme is https, and the bucket's host is the service's,
with the bucket's name before it unless it begins with that. If the region has no delimiters, the
service's host names it; if it has no Kelvin sign either, it is resolved just if it consists of host
characters. Whatever is not resolved is an error of the configuration. -/
structure NamesRegion (bucket endpoint region : String) : Prop where
  asEndpoint : region ≠ "" → ∀ other,
    resolve bucket endpoint region = resolve bucket ("https://" ++ regionHost region) other
  scheme : ∀ e, resolve bucket endpoint region = .ok e → e.scheme = "https"
  bucketHost : ∀ e, resolve bucket endpoint region = .ok e →
    e.bucketHost = if (bucket ++ ".").toList <+: e.serviceHost.toList then e.serviceHost
      else bucket ++ "." ++ e.serviceHost
  serviceHost : (∀ c ∈ region.toList, isDelimiter c = false) →
    ∀ e, resolve bucket endpoint region = .ok e → e.serviceHost = regionHost region
  resolves : (∀ c ∈ region.toList, isDelimiter c = false) → kelvinSign ∉ region.toList →
    ((∃ e, resolve bucket endpoint region = .ok e) ↔
      bucket ≠ "" ∧ region ≠ "" ∧ ∀ c ∈ region.toList, isHostChar c = true)
  rejects : ∀ e, resolve bucket endpoint region = .error e →
    e.toFailure.typeName = "ConfigurationError"

/-! ## The URL of a region -/

theorem regionUrl_eq (region : String) :
    regionUrl region = "https" ++ "://" ++ regionHost region := by
  simp only [regionUrl, regionHost, ← String.append_assoc]
  rfl

theorem toList_regionHost (region : String) :
    (regionHost region).toList = "cos.".toList ++ region.toList ++ ".myqcloud.com".toList := by
  rw [regionHost, String.toList_append, String.toList_append]

theorem splitScheme_regionUrl (region : String) :
    splitScheme (regionUrl region).toList = ("https", (regionHost region).toList) := by
  rw [regionUrl_eq, splitScheme_url (.inr rfl)]

/-- No white space stands at the ends of the URL. -/
theorem trim_regionUrl (region : String) : trim (regionUrl region) = regionUrl region := by
  have hlast : isBlank 'm' = false := by decide
  have hend : (regionHost region).toList.rdropWhile isBlank = (regionHost region).toList := by
    refine List.rdropWhile_eq_self_iff.mpr fun hne => ?_
    have hm : (regionHost region).toList.getLast hne = 'm' := by
      simp [toList_regionHost]
    rw [hm, hlast]
    exact Bool.false_ne_true
  rw [regionUrl_eq, trim_url (.inr rfl), hend, String.ofList_toList]

theorem source_region {endpoint region : String} (hblank : trim endpoint = "") (hne : region ≠ "") :
    source endpoint region = .ok (regionUrl region) := by
  have hregion : region.isEmpty = false := by simpa using hne
  rw [source, hblank, hregion]
  rfl

theorem source_regionUrl (region other : String) :
    source (regionUrl region) other = .ok (regionUrl region) := by
  have hne : trim (regionUrl region) ≠ "" := by
    rw [trim_regionUrl, regionUrl_eq]
    simp
  rw [source_eq hne, trim_regionUrl]

/-! ## Regions without delimiters -/

theorem not_isDelimiter_of_any {cs : List Char} (h : cs.any isDelimiter = false) :
    ∀ c ∈ cs, isDelimiter c = false := fun c hc =>
  Bool.eq_false_iff.mpr (List.any_eq_false.mp h c hc)

section

variable {region : String} (hregion : ∀ c ∈ region.toList, isDelimiter c = false)
include hregion

theorem not_isDelimiter_regionHost : ∀ c ∈ (regionHost region).toList, isDelimiter c = false := by
  intro c hc
  rw [toList_regionHost, List.mem_append, List.mem_append] at hc
  have hstart := not_isDelimiter_of_any (by decide : "cos.".toList.any isDelimiter = false)
  have hend := not_isDelimiter_of_any (by decide : ".myqcloud.com".toList.any isDelimiter = false)
  rcases hc with (hc | hc) | hc
  · exact hstart c hc
  · exact hregion c hc
  · exact hend c hc

/-- All of the region stands in the location. -/
theorem location_regionHost {a : Authority}
    (h : Authority.parse (regionHost region).toList = .ok a) :
    a.location = (regionHost region).toList := by
  have hchars := not_isDelimiter_regionHost hregion
  simp only [isDelimiter, Bool.or_eq_false_iff, beq_eq_false_iff_ne] at hchars
  have hbreaks : Authority.dropBreaks (regionHost region).toList = (regionHost region).toList := by
    refine List.filter_eq_self.mpr fun c hc => ?_
    simp [hchars c hc]
  have hends : (regionHost region).toList.takeWhile (fun c => !Authority.isEnd c) =
      (regionHost region).toList := by
    refine List.takeWhile_eq_self_iff.mpr fun c hc => ?_
    simp [hchars c hc]
  rw [(Authority.of_parse h).2.1, Authority.frontOf, hbreaks, hends]
  exact Authority.dropUserinfo_eq_self fun hc => (hchars '@' hc).1.1.1.2 rfl

end

/-! ## Names -/

/-- After a colon in the region there would be the points of the host, which are no digits of a
port. -/
theorem not_mem_of_named {region : String} (h : Authority.Named (regionHost region).toList) :
    ':' ∉ region.toList := by
  intro hcolon
  obtain ⟨before, after, hsplit, hbefore⟩ := List.eq_append_cons_of_mem hcolon
  have hfirst : ∀ c ∈ "cos.".toList ++ before, c ≠ ':' := by
    rintro c hc rfl
    rcases List.mem_append.mp hc with hc | hc
    · exact absurd hc (by decide)
    · exact hbefore hc
  have hhost : (regionHost region).toList =
      ("cos.".toList ++ before) ++ ':' :: (after ++ ".myqcloud.com".toList) := by
    simp [toList_regionHost, hsplit]
  have hport := Authority.isDigit_of_checkPort h.port
  rw [hhost, Authority.cut_append hfirst] at hport
  have hpoint := hport '.' (List.mem_append_right after (by decide))
  exact absurd hpoint (by decide)

theorem isNameChar_of_named {region : String} (h : Authority.Named (regionHost region).toList) :
    ∀ c ∈ region.toList, isNameChar c = true := by
  intro c hc
  have hhost : c ∈ (regionHost region).toList := by
    simp [toList_regionHost, hc]
  have hparts : c ∈ (Authority.cut ':' (regionHost region).toList).1 ∨ c = ':' ∨
      c ∈ (Authority.cut ':' (regionHost region).toList).2 := Authority.mem_cut hhost
  rcases hparts with hname | rfl | hport
  · exact h.chars c hname
  · exact absurd hc (not_mem_of_named h)
  · have hdigit := Authority.isDigit_of_checkPort h.port c hport
    exact isNameChar_of_isHostChar (by simp [isHostChar, Char.isAlphanum, hdigit])

theorem named_regionHost {region : String} (h : ∀ c ∈ region.toList, isHostChar c = true) :
    Authority.Named (regionHost region).toList := by
  have hstart : ∀ c ∈ "cos.".toList, isHostChar c = true := List.all_eq_true.mp (by decide)
  have hlabel : ∀ c ∈ "cos.".toList ++ region.toList, isHostChar c = true := fun c hc =>
    (List.mem_append.mp hc).elim (hstart c) (h c)
  have hdomain : Authority.Named "myqcloud.com".toList :=
    ⟨by decide, List.all_eq_true.mp rfl, rfl⟩
  rw [toList_regionHost]
  exact hdomain.label hlabel

/-! ## Resolving -/

theorem bucketHostOf_eq (bucket host : String) :
    bucketHostOf bucket host =
      if (bucket ++ ".").toList <+: host.toList then host else bucket ++ "." ++ host := by
  simp only [bucketHostOf, List.isPrefixOf_iff_prefix]

section

variable {bucket endpoint region : String} (hblank : trim endpoint = "")
include hblank

/-- What is resolved was read from the URL of the region. -/
theorem of_resolve_region {e : Endpoint} (h : resolve bucket endpoint region = .ok e) :
    bucket ≠ "" ∧ region ≠ "" ∧ ofSource bucket (regionUrl region) = .ok e := by
  have hbucket := (of_resolve h).1
  have hne : region ≠ "" := by
    rintro rfl
    rw [resolve_eq hbucket, source, hblank] at h
    cases h
  rw [resolve_of_source hbucket (source_region hblank hne)] at h
  exact ⟨hbucket, hne, h⟩

theorem resolve_asEndpoint (hne : region ≠ "") (other : String) :
    resolve bucket endpoint region = resolve bucket ("https://" ++ regionHost region) other := by
  have hurl : "https://" ++ regionHost region = regionUrl region := (regionUrl_eq region).symm
  have hnone : ∀ endpoint region, resolve "" endpoint region = .error .noBucket := fun _ _ => rfl
  by_cases hbucket : bucket = ""
  · rw [hbucket, hnone, hnone]
  · rw [hurl, resolve_of_source hbucket (source_region hblank hne),
      resolve_of_source hbucket (source_regionUrl region other)]

end

/-- What is read from the URL of a region without delimiters names the region. -/
theorem named_of_ofSource {bucket region : String} {e : Endpoint}
    (hregion : ∀ c ∈ region.toList, isDelimiter c = false)
    (h : ofSource bucket (regionUrl region) = .ok e) :
    e.serviceHost = regionHost region ∧ Authority.Named (regionHost region).toList := by
  obtain ⟨-, -, a, hparse, hvalid, hhost⟩ := read_of_ofSource h
  rw [splitScheme_regionUrl] at hparse
  have hlocation := location_regionHost hregion hparse
  have hbracket : a.location.head? ≠ some '[' := by
    simp [hlocation, toList_regionHost]
  have hnamed := Authority.Named.of_parse hparse hvalid hbracket
  rw [hlocation] at hnamed hhost
  exact ⟨String.toList_inj.mp hhost.symm, hnamed⟩

theorem ofSource_regionUrl {region : String} (h : ∀ c ∈ region.toList, isHostChar c = true)
    (bucket : String) : ofSource bucket (regionUrl region) =
      .ok ⟨"https", regionHost region, bucketHostOf bucket (regionHost region)⟩ := by
  have hnamed := named_regionHost h
  have hsource := ofSource_of_parse (splitScheme_regionUrl region) hnamed.parse hnamed.ne_nil
    (lowerHost_ne_nil hnamed.nonempty) hnamed.isValidHost bucket
  rwa [String.ofList_toList] at hsource

/-- Under a blank endpoint, whatever bucket and region are, the region is named or refused. -/
theorem resolve_region {bucket endpoint : String} (hblank : trim endpoint = "") (region : String) :
    NamesRegion bucket endpoint region := by
  constructor
  · exact resolve_asEndpoint hblank
  · intro e h
    obtain ⟨-, -, hsource⟩ := of_resolve_region hblank h
    rw [(read_of_ofSource hsource).1, splitScheme_regionUrl]
  · intro e h
    obtain ⟨-, -, hsource⟩ := of_resolve_region hblank h
    rw [(read_of_ofSource hsource).2.1, bucketHostOf_eq]
  · intro hregion e h
    obtain ⟨-, -, hsource⟩ := of_resolve_region hblank h
    exact (named_of_ofSource hregion hsource).1
  · intro hregion hkelvin
    constructor
    · rintro ⟨e, h⟩
      obtain ⟨hbucket, hne, hsource⟩ := of_resolve_region hblank h
      refine ⟨hbucket, hne, fun c hc => ?_⟩
      have hname := isNameChar_of_named (named_of_ofSource hregion hsource).2 c hc
      have hc : c ≠ kelvinSign := ne_of_mem_of_not_mem hc hkelvin
      simpa [isNameChar, hc] using hname
    · rintro ⟨hbucket, hne, hchars⟩
      rw [resolve_of_source hbucket (source_region hblank hne), ofSource_regionUrl hchars]
      exact ⟨_, rfl⟩
  · intro e _
    rfl

/-- A region under an endpoint of white space. -/
theorem resolve_region_beijing :
    trim " \t" = "" ∧ ∃ e, resolve "demo" " \t" "ap-beijing" = .ok e ∧
      e.serviceHost = "cos.ap-beijing.myqcloud.com" := by
  have hblank : trim " \t" = "" := by decide
  have hnames : NamesRegion "demo" " \t" "ap-beijing" := resolve_region hblank "ap-beijing"
  have hregion : ∀ c ∈ "ap-beijing".toList, isDelimiter c = false :=
    not_isDelimiter_of_any (by decide)
  obtain ⟨e, he⟩ := (hnames.resolves hregion (by decide)).mpr
    ⟨by decide, by decide, List.all_eq_true.mp rfl⟩
  exact ⟨hblank, e, he, hnames.serviceHost hregion e he⟩

/-- A bucket that the host of the service begins with, and a region that ends the host early. -/
theorem resolve_region_not_named :
    resolve "cos" "" "ap-beijing" =
      .ok ⟨"https", "cos.ap-beijing.myqcloud.com", "cos.ap-beijing.myqcloud.com"⟩ ∧
    resolve "demo" "" "ap/beijing" = .ok ⟨"https", "cos.ap", "demo.cos.ap"⟩ :=
  ⟨by rfl, by rfl⟩

end BucketStore.Endpoint
