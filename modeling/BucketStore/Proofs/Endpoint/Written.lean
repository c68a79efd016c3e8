import BucketStore.Proofs.Endpoint.Lemmas.Authority
import BucketStore.Proofs.Endpoint.Lemmas.Sources

/-!
# Written endpoints

An endpoint may be written with a userinfo before its host and with a path, a query or a fragment
after it, with white space around the whole, and with or without a scheme. Whatever these are, it
resolves to its host and port.
-/

namespace BucketStore.Endpoint

open BucketStore.Text

/-- The parts of a written endpoint, its scheme apart. -/
structure Written where
  userinfo : String
  host : String
  port : String
  tail : String
  /-- Printable ASCII up to an at-sign, if there is any. -/
  userinfo_ends : userinfo = "" ∨
    ∃ info, userinfo.toList = info ++ ['@'] ∧ ∀ c ∈ info, Authority.isInfoChar c = true
  host_ne : host ≠ ""
  host_chars : ∀ c ∈ host.toList, isHostChar c = true
  /-- A colon and the digits of a number, if there are any. -/
  port_reads : port = "" ∨ ∃ digits, port.toList = ':' :: digits ∧
    (∀ c ∈ digits, c.isDigit = true) ∧ digits.length ≤ 4300 ∧ Nat.ofDigitChars 10 digits 0 ≤ 65535
  /-- Anything that begins with a slash, a question mark or a number sign, if there is any. -/
  tail_begins : tail = "" ∨
    ∃ c rest, tail.toList = c :: rest ∧ (c = '/' ∨ c = '?' ∨ c = '#')

namespace Written

variable (w : Written)

def location : String :=
  w.host ++ w.port

def text : String :=
  w.userinfo ++ w.location ++ w.tail

/-- The endpoint of a bucket at the host and port that are written. -/
def endpoint (scheme bucket : String) : Endpoint where
  scheme := scheme
  serviceHost := w.location
  bucketHost :=
    if (bucket ++ ".").toList <+: w.location.toList then w.location
    else bucket ++ "." ++ w.location

/-! ## Parts -/

theorem toList_text : w.text.toList = w.userinfo.toList ++ w.location.toList ++ w.tail.toList := by
  rw [text, String.toList_append, String.toList_append]

theorem isUserinfo : Authority.IsUserinfo w.userinfo.toList := by
  rcases w.userinfo_ends with hempty | hends
  · rw [hempty]
    exact .inl rfl
  · exact .inr hends

theorem isTail : Authority.IsTail w.tail.toList := by
  rcases w.tail_begins with hempty | ⟨c, rest, htail, hc⟩
  · rw [hempty]
    exact .inl rfl
  · refine .inr ⟨c, rest, htail, ?_⟩
    rcases hc with rfl | rfl | rfl <;> rfl

theorem cut_location : Authority.cut ':' w.location.toList =
    (w.host.toList, (Authority.cut ':' w.port.toList).2) := by
  have hcolon : ∀ c ∈ w.host.toList, c ≠ ':' := fun c hc heq => by
    have hhost := w.host_chars c hc
    rw [heq] at hhost
    exact absurd hhost (by decide)
  have hport : (Authority.cut ':' w.port.toList).1 = [] := by
    rcases w.port_reads with hempty | ⟨digits, hport, -⟩
    · rw [hempty]
      rfl
    · rw [hport]
      rfl
  rw [location, String.toList_append, Authority.cut_append hcolon, hport, List.append_nil]

theorem checkPort : Authority.checkPort (Authority.cut ':' w.port.toList).2 = .ok () := by
  rcases w.port_reads with hempty | ⟨digits, hport, hdigits, hlength, hvalue⟩
  · rw [hempty]
    rfl
  · have hrest : (Authority.cut ':' w.port.toList).2 = digits := by
      rw [hport]
      rfl
    have hall : digits.all Char.isDigit = true := List.all_eq_true.mpr hdigits
    have hlength : digits.length ≤ maxDigits := hlength
    have hvalue : Address.natOf digits ≤ 65535 := hvalue
    rw [hrest, Authority.checkPort]
    simp only [hall, Bool.not_true, Bool.false_eq_true, if_false]
    rw [if_neg (Nat.not_lt.mpr hlength), if_neg (Nat.not_lt.mpr hvalue), ite_self]

theorem named : Authority.Named w.location.toList := by
  constructor
  · rw [cut_location]
    exact fun hempty => w.host_ne (String.toList_eq_nil_iff.mp hempty)
  · rw [cut_location]
    exact fun c hc => isNameChar_of_isHostChar (w.host_chars c hc)
  · rw [cut_location]
    exact w.checkPort

end Written

/-! ## White space -/

theorem dropWhile_isUserinfo {cs : List Char} (h : Authority.IsUserinfo cs) :
    Authority.IsUserinfo (cs.dropWhile isBlank) := by
  obtain rfl | ⟨info, rfl, hinfo⟩ := h
  · exact .inl rfl
  · refine .inr ⟨info.dropWhile isBlank, dropWhile_append_cons (by decide) info [], ?_⟩
    exact fun c hc => hinfo c ((List.dropWhile_suffix isBlank).subset hc)

theorem rdropWhile_isTail {cs : List Char} (h : Authority.IsTail cs) :
    Authority.IsTail (cs.rdropWhile isBlank) := by
  obtain rfl | ⟨c, rest, rfl, hc⟩ := h
  · exact .inl rfl
  · have hblank : isBlank c = false := by
      simp only [Authority.isEnd, Bool.or_eq_true, beq_iff_eq] at hc
      obtain (rfl | rfl) | rfl := hc <;> decide
    exact .inr ⟨c, rest.rdropWhile isBlank, rdropWhile_append_cons hblank [] rest, hc⟩

/-- What has a slash and no at-sign does not stand before an at-sign that no slash precedes. -/
theorem not_prefix_append_at {start info rest : List Char} (hslash : '/' ∈ start)
    (hat : '@' ∉ start) (hinfo : '/' ∉ info) : ¬ start <+: info ++ '@' :: rest := by
  rintro ⟨more, hmore⟩
  rcases List.append_eq_append_iff.mp hmore with ⟨between, rfl, -⟩ | ⟨between, rfl, hbetween⟩
  · exact hinfo (List.mem_append_left between hslash)
  · cases between with
    | nil => exact hinfo (by simpa using hslash)
    | cons c between =>
        obtain ⟨rfl, -⟩ := List.cons_eq_cons.mp hbetween
        exact hat (by simp)

namespace Written

variable (w : Written) {before after : String}

section

variable (hbefore : ∀ c ∈ before.toList, isBlank c = true)
  (hafter : ∀ c ∈ after.toList, isBlank c = true)
include hbefore hafter

/-- Inside of white space, no more of it is taken off than stands in userinfo and tail. -/
theorem toList_trim (lead : String) :
    (trim (before ++ (lead ++ w.text) ++ after)).toList =
      (lead.toList ++ w.userinfo.toList).dropWhile isBlank ++ w.location.toList ++
        w.tail.toList.rdropWhile isBlank := by
  have hlocation : ∀ c ∈ w.location.toList, isBlank c = false :=
    fun c hc => (Authority.of_isPlain (w.named.isPlain c hc)).1
  have htrim := @trimBy_around isBlank _ (lead.toList ++ w.userinfo.toList) _ w.tail.toList _
    hbefore w.named.ne_nil hlocation hafter
  rw [trim, String.toList_ofList, ← htrim]
  simp only [String.toList_append, toList_text, List.append_assoc]

end

/-- A text that is a written endpoint after the scheme and within white space resolves to it. -/
theorem resolve_of_splitScheme {w : Written} {bucket endpoint scheme : String}
    {info tail : List Char} (hbucket : bucket ≠ "")
    (hsplit : splitScheme (trim endpoint).toList = (scheme, info ++ w.location.toList ++ tail))
    (hinfo : Authority.IsUserinfo info) (htail : Authority.IsTail tail) (region : String) :
    resolve bucket endpoint region = .ok (w.endpoint scheme bucket) := by
  have hne : trim endpoint ≠ "" := by
    intro hempty
    rw [hempty] at hsplit
    have hnil : [] = info ++ w.location.toList ++ tail := congrArg Prod.snd hsplit
    have hlocation : w.location.toList = [] := by
      simp only [List.nil_eq, List.append_eq_nil_iff] at hnil
      exact hnil.1.2
    exact w.named.ne_nil hlocation
  have hparse : Authority.parse (info ++ w.location.toList ++ tail) =
      .ok ⟨w.location.toList, Authority.lowerHost (Authority.cut ':' w.location.toList).1⟩ := by
    rw [Authority.parse_around hinfo w.named.isPlain htail, w.named.port]
    rfl
  rw [resolve_of_source hbucket (source_eq hne region),
    ofSource_of_parse hsplit hparse w.named.ne_nil (lowerHost_ne_nil w.named.nonempty)
      w.named.isValidHost bucket, String.ofList_toList, Written.endpoint, bucketHostOf]
  simp only [List.isPrefixOf_iff_prefix]

/-- If the text does not begin with a scheme, it does not within white space. -/
theorem not_prefix_trimmed {start : List Char} (hslash : '/' ∈ start) (hat : '@' ∉ start)
    (h : ¬ start <+: w.text.toList) :
    ¬ start <+: w.userinfo.toList.dropWhile isBlank ++ w.location.toList ++
      w.tail.toList.rdropWhile isBlank := by
  obtain hempty | ⟨info, hends, hinfo⟩ := w.isUserinfo
  · intro hstart
    rw [hempty, List.dropWhile_nil, List.nil_append] at hstart
    refine h (hstart.trans ?_)
    rw [toList_text, hempty, List.nil_append]
    exact List.prefix_append_right_inj _ |>.mpr (List.rdropWhile_prefix isBlank _)
  · have hnone : '/' ∉ info.dropWhile isBlank := fun hc =>
      absurd (hinfo '/' ((List.dropWhile_suffix isBlank).subset hc)) (by decide)
    rw [hends, dropWhile_append_cons (by decide), List.append_assoc, List.append_assoc]
    exact not_prefix_append_at hslash hat hnone

end Written

/-! ## Resolving -/

/-- A written endpoint resolves to its host and port and to those of the bucket, with the scheme that
is written and with https without one, whatever userinfo, tail, white space and region are. -/
theorem resolve_written (w : Written) {bucket before after : String} (hbucket : bucket ≠ "")
    (hbefore : ∀ c ∈ before.toList, isBlank c = true)
    (hafter : ∀ c ∈ after.toList, isBlank c = true) (region : String) :
    (∀ scheme, scheme = "http" ∨ scheme = "https" →
      resolve bucket (before ++ (scheme ++ "://" ++ w.text) ++ after) region =
        .ok (w.endpoint scheme bucket)) ∧
    (¬ "http://".toList <+: w.text.toList → ¬ "https://".toList <+: w.text.toList →
      resolve bucket (before ++ w.text ++ after) region = .ok (w.endpoint "https" bucket)) := by
  refine ⟨fun scheme hscheme => ?_, fun hhttp hhttps => ?_⟩
  · have hstart : ((scheme ++ "://").toList ++ w.userinfo.toList).dropWhile isBlank =
        (scheme ++ "://").toList ++ w.userinfo.toList := by
      rcases hscheme with rfl | rfl <;> exact List.dropWhile_cons_of_neg (by decide)
    have htrim := w.toList_trim hbefore hafter (scheme ++ "://")
    have hsplit := splitScheme_url hscheme
      (.ofList (w.userinfo.toList ++ w.location.toList ++ w.tail.toList.rdropWhile isBlank))
    rw [String.toList_append, String.toList_ofList, ← List.append_assoc, ← List.append_assoc,
      ← hstart, ← htrim] at hsplit
    exact Written.resolve_of_splitScheme hbucket hsplit w.isUserinfo (rdropWhile_isTail w.isTail)
      region
  · have htrim := w.toList_trim hbefore hafter ""
    rw [String.empty_append, String.toList_empty, List.nil_append] at htrim
    have hnone : ∀ start : String, '/' ∈ start.toList → '@' ∉ start.toList →
        ¬ start.toList <+: w.text.toList →
        ¬ start.toList.isPrefixOf (trim (before ++ w.text ++ after)).toList := by
      intro start hslash hat h
      rw [List.isPrefixOf_iff_prefix, htrim]
      exact w.not_prefix_trimmed hslash hat h
    have hsplit : splitScheme (trim (before ++ w.text ++ after)).toList =
        ("https", w.userinfo.toList.dropWhile isBlank ++ w.location.toList ++
          w.tail.toList.rdropWhile isBlank) := by
      rw [splitScheme, if_neg (hnone "http://" (by decide) (by decide) hhttp),
        if_neg (hnone "https://" (by decide) (by decide) hhttps), htrim]
    exact Written.resolve_of_splitScheme hbucket hsplit (dropWhile_isUserinfo w.isUserinfo)
      (rdropWhile_isTail w.isTail) region

/-- An endpoint with at-signs in its userinfo, zeros before its port, and a scheme and a bracket in
its tail. -/
def crowded : Written where
  userinfo := " a@b:@"
  host := "demo.Cos_1-a"
  port := ":0443"
  tail := "?x=http://[ \n"
  userinfo_ends := .inr ⟨" a@b:".toList, by decide, List.all_eq_true.mp (by decide)⟩
  host_ne := by decide
  host_chars := List.all_eq_true.mp (by decide)
  port_reads := .inr ⟨"0443".toList, by decide, List.all_eq_true.mp (by decide), by decide, by decide⟩
  tail_begins := .inr ⟨'?', "x=http://[ \n".toList, by decide, by decide⟩

theorem resolve_written_crowded :
    resolve "demo" "\thttp:// a@b:@demo.Cos_1-a:0443?x=http://[ \n\u3000" "" =
      .ok ⟨"http", "demo.Cos_1-a:0443", "demo.Cos_1-a:0443"⟩ ∧
    resolve "Cos" "\t a@b:@demo.Cos_1-a:0443?x=http://[ \n\u3000" "ap-x" =
      .ok ⟨"https", "demo.Cos_1-a:0443", "Cos.demo.Cos_1-a:0443"⟩ := by
  have hblank : ∀ c ∈ "\t".toList, isBlank c = true := List.all_eq_true.mp (by decide)
  have hblank' : ∀ c ∈ "\u3000".toList, isBlank c = true := List.all_eq_true.mp (by decide)
  exact ⟨(resolve_written crowded (by decide) hblank hblank' "").1 "http" (.inl rfl),
    (resolve_written crowded (by decide) hblank hblank' "ap-x").2 (by decide) (by decide)⟩

end BucketStore.Endpoint
