import BucketStore.Proofs.Endpoint.Lemmas.HostChars
import Mathlib.Data.List.DropRight

/-!
# Reading authorities

An authority of plain characters is a host and a port at the first colon. In any other one that can
be read and names a host, the host is an address in brackets, and no label can be put before it.
-/

namespace BucketStore.Authority

open BucketStore.Endpoint BucketStore.Text

/-- Whether the character stands for itself in an authority: it is no white space, ends nothing and
looks like nothing that does, and is no at-sign or bracket. -/
def isPlain (c : Char) : Bool :=
  !isBlank c && !isEnd c && !lookalikes.contains c.toNat && c != '@' && c != '[' && c != ']'

/-! ## Plain characters -/

theorem isPlain_of_isNameChar {c : Char} (h : isNameChar c = true) : isPlain c = true := by
  rw [isNameChar, Bool.or_eq_true, beq_iff_eq] at h
  rcases h with h | rfl
  · exact ascii_forall (P := fun c => isHostChar c = true → isPlain c = true) (by decide +kernel)
      (toNat_lt_of_isHostChar h) h
  · decide +kernel

theorem isPlain_of_isDigit {c : Char} (h : c.isDigit = true) : isPlain c = true :=
  isPlain_of_isNameChar (isNameChar_of_isHostChar (by simp [isHostChar, Char.isAlphanum, h]))

theorem of_isPlain {c : Char} (h : isPlain c = true) :
    isBlank c = false ∧ isEnd c = false ∧ lookalikes.contains c.toNat = false := by
  simp only [isPlain, Bool.and_eq_true, Bool.not_eq_true'] at h
  obtain ⟨⟨⟨⟨⟨hblank, hend⟩, hlookalike⟩, -⟩, -⟩, -⟩ := h
  exact ⟨hblank, hend, hlookalike⟩

theorem not_mem_of_isPlain {cs : List Char} {d : Char} (h : ∀ c ∈ cs, isPlain c = true)
    (hd : isPlain d = false) : d ∉ cs := by
  intro hmem
  rw [h d hmem] at hd
  cases hd

/-! ## Parts of an authority -/

/-- A text is its parts around the separator, if it has one. -/
theorem eq_of_cut (sep : Char) (cs : List Char) :
    cs = (cut sep cs).1 ∧ (cut sep cs).2 = [] ∨ cs = (cut sep cs).1 ++ sep :: (cut sep cs).2 := by
  have hsplit := List.takeWhile_append_dropWhile (p := fun c => c != sep) (l := cs)
  cases hrest : cs.dropWhile fun c => c != sep with
  | nil =>
      rw [hrest, List.append_nil] at hsplit
      exact .inl ⟨hsplit.symm, by rw [cut, hrest]; rfl⟩
  | cons d rest =>
      have hsep : d = sep := by
        have hhead := List.head?_dropWhile_not (fun c => c != sep) cs
        rw [hrest] at hhead
        simpa using hhead
      rw [hrest, hsep] at hsplit
      exact .inr (by rw [cut, hrest]; exact hsplit.symm)

theorem mem_cut {c sep : Char} {cs : List Char} (h : c ∈ cs) :
    c ∈ (cut sep cs).1 ∨ c = sep ∨ c ∈ (cut sep cs).2 := by
  rcases eq_of_cut sep cs with ⟨hcs, -⟩ | hcs
  · rw [hcs] at h
    exact .inl h
  · rw [hcs, List.mem_append, List.mem_cons] at h
    exact h

theorem cut_append {sep : Char} {before : List Char} (h : ∀ c ∈ before, c ≠ sep)
    (cs : List Char) : cut sep (before ++ cs) = (before ++ (cut sep cs).1, (cut sep cs).2) := by
  have hbefore : ∀ c ∈ before, (c != sep) = true := fun c hc => bne_iff_ne.mpr (h c hc)
  rw [cut, List.takeWhile_append_of_pos hbefore, List.dropWhile_append_of_pos hbefore]
  rfl

theorem isDigit_of_checkPort {port : List Char} (h : checkPort port = .ok ()) :
    ∀ c ∈ port, c.isDigit = true := by
  rw [checkPort] at h
  split at h
  · rename_i hempty
    rw [List.isEmpty_iff.mp hempty]
    exact nofun
  · split at h
    · cases h
    · rename_i hdigits
      simpa using hdigits

theorem not_mem_dropUserinfo (cs : List Char) : '@' ∉ dropUserinfo cs := fun h =>
  absurd (List.mem_rtakeWhile_imp (p := fun c => c != '@') h) (by decide)

theorem dropUserinfo_eq_self {cs : List Char} (h : '@' ∉ cs) : dropUserinfo cs = cs :=
  List.rtakeWhile_eq_self_iff.mpr fun _ hc => bne_iff_ne.mpr (ne_of_mem_of_not_mem hc h)

/-! ## Reading -/

/-- The authority that a text begins with. -/
def frontOf (cs : List Char) : List Char :=
  (dropBreaks cs).takeWhile fun c => !isEnd c

theorem of_parse {cs : List Char} {a : Authority} (h : parse cs = .ok a) :
    checkBrackets (frontOf cs) = .ok () ∧ a.location = dropUserinfo (frontOf cs) ∧
      checkPort (hostAndPort a.location).2 = .ok () ∧
      a.host = lowerHost (hostAndPort a.location).1 := by
  simp only [parse, bind, Except.bind] at h
  split at h
  · cases h
  · rename_i hbrackets
    split at h
    · cases h
    · split at h
      · cases h
      · rename_i hport
        cases h
        exact ⟨hbrackets, rfl, hport, rfl⟩

theorem head?_of_checkBrackets {authority : List Char} (h : checkBrackets authority = .ok ())
    (hbracket : '[' ∈ dropUserinfo authority) :
    (dropUserinfo authority).head? = some '[' := by
  have hmem : '[' ∈ authority := List.rtakeWhile_suffix _ authority |>.subset hbracket
  rw [checkBrackets, if_neg (by simp [hmem])] at h
  split at h
  · cases h
  · simp only [List.contains_eq_mem, hbracket, decide_true, if_true] at h
    split at h
    · cases h
    · rename_i hbefore
      -- Nothing stands before the first opening bracket.
      have hempty : (dropUserinfo authority).takeWhile (fun c => c != '[') = [] := by
        simpa [cut] using hbefore
      cases hlocation : dropUserinfo authority with
      | nil => simp [hlocation] at hbracket
      | cons c cs =>
          rw [hlocation, List.takeWhile_cons] at hempty
          split at hempty
          · cases hempty
          · rename_i hc
            simpa using hc

theorem not_mem_location {cs : List Char} {a : Authority} (h : parse cs = .ok a) :
    '@' ∉ a.location := by
  rw [(of_parse h).2.1]
  exact not_mem_dropUserinfo (frontOf cs)

/-! ## What stands around a location -/

/-- Whether the character may stand in a userinfo: it is printable ASCII, ends no authority and is no
bracket. -/
def isInfoChar (c : Char) : Bool :=
  decide (32 ≤ c.toNat) && decide (c.toNat ≤ 126) && !isEnd c && c != '[' && c != ']'

/-- Nothing, or characters with an at-sign after them. -/
def IsUserinfo (cs : List Char) : Prop :=
  cs = [] ∨ ∃ info, cs = info ++ ['@'] ∧ ∀ c ∈ info, isInfoChar c = true

/-- Nothing, or anything that begins with the end of an authority. -/
def IsTail (cs : List Char) : Prop :=
  cs = [] ∨ ∃ c rest, cs = c :: rest ∧ isEnd c = true

/-- Whether the character is kept in an authority, does not end it and looks like nothing that does,
and is no bracket. -/
def isInner (c : Char) : Bool :=
  c != '\t' && c != '\r' && c != '\n' && !isEnd c && !lookalikes.contains c.toNat && c != '[' &&
    c != ']'

theorem isInner_of_isPlain {c : Char} (h : isPlain c = true) : isInner c = true := by
  obtain ⟨hblank, -, -⟩ := of_isPlain h
  have hne : ∀ d, isBlank d = true → c ≠ d := by
    rintro d hd rfl
    rw [hblank] at hd
    cases hd
  simp only [isPlain, Bool.and_eq_true, bne_iff_ne] at h
  simp only [isInner, Bool.and_eq_true, bne_iff_ne]
  exact ⟨⟨⟨⟨⟨⟨hne _ (by decide), hne _ (by decide)⟩, hne _ (by decide)⟩, h.1.1.1.1.2⟩, h.1.1.1.2⟩,
    h.1.2⟩, h.2⟩

theorem IsUserinfo.isInner {cs : List Char} (h : IsUserinfo cs) : ∀ c ∈ cs, isInner c = true := by
  obtain rfl | ⟨info, rfl, hinfo⟩ := h
  · exact nofun
  · intro c hc
    rcases List.mem_append.mp hc with hc | hc
    · have hchar := hinfo c hc
      have hascii : c.toNat < 128 := by
        simp only [isInfoChar, Bool.and_eq_true, decide_eq_true_eq] at hchar
        omega
      exact ascii_forall (P := fun c => isInfoChar c = true → Authority.isInner c = true)
        (by decide +kernel) hascii hchar
    · rw [List.mem_singleton.mp hc]
      decide +kernel

theorem dropUserinfo_append {info location : List Char} (hinfo : IsUserinfo info)
    (hlocation : '@' ∉ location) : dropUserinfo (info ++ location) = location := by
  obtain rfl | ⟨info, rfl, -⟩ := hinfo
  · exact dropUserinfo_eq_self hlocation
  · have hkept : ∀ c ∈ location.reverse, (c != '@') = true := fun c hc =>
      bne_iff_ne.mpr (ne_of_mem_of_not_mem (List.mem_reverse.mp hc) hlocation)
    rw [dropUserinfo, List.append_assoc, List.reverse_append, List.reverse_append,
      List.append_assoc, List.takeWhile_append_of_pos hkept]
    simp

theorem dropBreaks_eq_self {cs : List Char} (h : ∀ c ∈ cs, isInner c = true) :
    dropBreaks cs = cs := by
  refine List.filter_eq_self.mpr fun c hc => ?_
  have hinner := h c hc
  simp only [isInner, Bool.and_eq_true] at hinner ⊢
  exact hinner.1.1.1.1

/-- Of an inner part and a tail, the authority is the inner part. -/
theorem takeWhile_dropBreaks_append {authority tail : List Char}
    (h : ∀ c ∈ authority, isInner c = true) (htail : IsTail tail) :
    (dropBreaks (authority ++ tail)).takeWhile (fun c => !isEnd c) = authority := by
  have hends : ∀ c ∈ authority, (!isEnd c) = true := fun c hc => by
    have hinner := h c hc
    simp only [isInner, Bool.and_eq_true] at hinner
    exact hinner.1.1.1.2
  rw [dropBreaks, List.filter_append, ← dropBreaks, dropBreaks_eq_self h,
    List.takeWhile_append_of_pos hends]
  obtain rfl | ⟨c, rest, rfl, hc⟩ := htail
  · simp
  · have hkept : (c != '\t' && c != '\r' && c != '\n') = true := by
      simp only [isEnd, Bool.or_eq_true, beq_iff_eq] at hc
      obtain (rfl | rfl) | rfl := hc <;> rfl
    rw [List.filter_cons, if_pos hkept, List.takeWhile_cons_of_neg (by simp [hc]), List.append_nil]

theorem parse_around {info location tail : List Char} (hinfo : IsUserinfo info)
    (h : ∀ c ∈ location, isPlain c = true) (htail : IsTail tail) :
    parse (info ++ location ++ tail) =
      (checkPort (cut ':' location).2).map fun _ =>
        ⟨location, lowerHost (cut ':' location).1⟩ := by
  have hinner : ∀ c ∈ info ++ location, isInner c = true := fun c hc =>
    (List.mem_append.mp hc).elim (hinfo.isInner c) fun hc => isInner_of_isPlain (h c hc)
  have hopening : '[' ∉ info ++ location := fun hc =>
    absurd (hinner '[' hc) (by decide +kernel)
  have hclosing : ']' ∉ info ++ location := fun hc =>
    absurd (hinner ']' hc) (by decide +kernel)
  have hbrackets : checkBrackets (info ++ location) = .ok () := by
    rw [checkBrackets, List.contains_eq_mem, List.contains_eq_mem, decide_eq_false hopening,
      decide_eq_false hclosing]
    rfl
  have hlookalikes : ((info ++ location).any fun c => lookalikes.contains c.toNat) = false := by
    rw [List.any_eq_false]
    intro c hc hlookalike
    have hchar := hinner c hc
    simp only [isInner, Bool.and_eq_true, hlookalike] at hchar
    exact absurd hchar.1.1.2 (by decide)
  have huserinfo : '@' ∉ location := not_mem_of_isPlain h (by decide)
  have hparts : hostAndPort location = cut ':' location := by
    rw [hostAndPort, if_neg (by simpa using fun hc => hopening (List.mem_append_right info hc))]
  simp only [parse, takeWhile_dropBreaks_append hinner htail, hbrackets, hlookalikes,
    dropUserinfo_append hinfo huserinfo, hparts]
  cases checkPort (cut ':' location).2 <;> rfl

/-! ## Plain authorities -/

theorem not_isEnd_of_isPlain {c : Char} (h : isPlain c = true) : (!isEnd c) = true := by
  rw [(of_isPlain h).2.1]
  rfl

theorem parse_of_isPlain {cs : List Char} (h : ∀ c ∈ cs, isPlain c = true) :
    parse cs = (checkPort (cut ':' cs).2).map fun _ => ⟨cs, lowerHost (cut ':' cs).1⟩ := by
  have hparse := parse_around (.inl rfl) h (.inl rfl)
  rwa [List.nil_append, List.append_nil] at hparse

/-! ## Names -/

/-- A host in name characters, and a port after a colon if there is one. -/
structure Named (location : List Char) : Prop where
  nonempty : (cut ':' location).1 ≠ []
  chars : ∀ c ∈ (cut ':' location).1, isNameChar c = true
  port : checkPort (cut ':' location).2 = .ok ()

theorem Named.of_parse {cs : List Char} {a : Authority} (h : parse cs = .ok a)
    (hvalid : isValidHost a = true) (hbracket : a.location.head? ≠ some '[') :
    Named a.location := by
  obtain ⟨hbrackets, hlocation, hport, hhost⟩ := Authority.of_parse h
  have hnone : '[' ∉ a.location := by
    intro hmem
    rw [hlocation] at hmem hbracket
    exact hbracket (head?_of_checkBrackets hbrackets hmem)
  have hparts : hostAndPort a.location = cut ':' a.location := by
    rw [hostAndPort, if_neg (by simpa using hnone)]
  rw [isValidHost, if_neg hbracket, hhost, hparts, all_isHostChar_lowerHost] at hvalid
  rw [hparts] at hport
  simp only [Bool.and_eq_true, List.all_eq_true] at hvalid
  refine ⟨?_, hvalid.2, hport⟩
  intro hempty
  rw [hempty] at hvalid
  exact absurd hvalid.1 (by decide)

namespace Named

variable {location : List Char}

theorem isPlain (h : Named location) : ∀ c ∈ location, isPlain c = true := by
  intro c hc
  have hparts : c ∈ (cut ':' location).1 ∨ c = ':' ∨ c ∈ (cut ':' location).2 := mem_cut hc
  rcases hparts with hhost | rfl | hport
  · exact isPlain_of_isNameChar (h.chars c hhost)
  · decide +kernel
  · exact isPlain_of_isDigit (isDigit_of_checkPort h.port c hport)

theorem ne_nil (h : Named location) : location ≠ [] := by
  rintro rfl
  exact h.nonempty rfl

/-- The name with a label before it. -/
theorem label {bucket : List Char} (h : Named location)
    (hbucket : ∀ c ∈ bucket, isHostChar c = true) : Named (bucket ++ '.' :: location) := by
  have hlabel := isHostChar_label hbucket
  have hcolon : ∀ c ∈ bucket ++ ['.'], c ≠ ':' := fun c hc heq => by
    have hhost := hlabel c hc
    rw [heq] at hhost
    exact absurd hhost (by decide)
  rw [List.append_cons]
  have hcut := cut_append hcolon location
  constructor
  · rw [hcut]
    exact List.append_ne_nil_of_right_ne_nil _ h.nonempty
  · rw [hcut]
    intro c hc
    rcases List.mem_append.mp hc with hc | hc
    · exact isNameChar_of_isHostChar (hlabel c hc)
    · exact h.chars c hc
  · rw [hcut]
    exact h.port

theorem parse (h : Named location) :
    parse location = .ok ⟨location, lowerHost (cut ':' location).1⟩ := by
  rw [parse_of_isPlain h.isPlain, h.port]
  rfl

theorem isValidHost (h : Named location) :
    isValidHost ⟨location, lowerHost (cut ':' location).1⟩ = true := by
  have hbracket : location.head? ≠ some '[' := fun hhead =>
    not_mem_of_isPlain h.isPlain (by decide) (List.mem_of_mem_head? hhead)
  rw [Endpoint.isValidHost, if_neg hbracket, all_isHostChar_lowerHost, Bool.and_eq_true,
    List.all_eq_true]
  exact ⟨by simpa using lowerHost_ne_nil h.nonempty, h.chars⟩

end Named

/-! ## Addresses in brackets -/

theorem checkBrackets_before {before cs : List Char} (hbefore : ∀ c ∈ before, isPlain c = true)
    (hne : before ≠ []) (huserinfo : '@' ∉ cs) :
    checkBrackets (before ++ '[' :: cs) = .error .brackets := by
  rw [checkBrackets, if_neg (by simp)]
  split
  · rfl
  · have hnone : '@' ∉ before ++ '[' :: cs := by
      simp only [List.mem_append, List.mem_cons, not_or]
      exact ⟨not_mem_of_isPlain hbefore (by decide), by decide, huserinfo⟩
    have hopening : ∀ c ∈ before, c ≠ '[' := fun _ hc =>
      ne_of_mem_of_not_mem hc (not_mem_of_isPlain hbefore (by decide))
    rw [dropUserinfo_eq_self hnone, if_pos (by simp)]
    simp only [cut_append hopening]
    rw [if_pos (by simp [hne])]

/-- Nothing can be put before an address in brackets. -/
theorem parse_before {before cs : List Char} (hbefore : ∀ c ∈ before, isPlain c = true)
    (hne : before ≠ []) (huserinfo : '@' ∉ cs) :
    parse (before ++ '[' :: cs) = .error .brackets := by
  have hauthority : ((dropBreaks (before ++ '[' :: cs)).takeWhile fun c => !isEnd c) =
      before ++ '[' :: (dropBreaks cs).takeWhile fun c => !isEnd c := by
    have hbreaks : dropBreaks (before ++ '[' :: cs) = before ++ '[' :: dropBreaks cs := by
      rw [dropBreaks, List.filter_append, List.filter_cons_of_pos (by decide)]
      exact congrArg (· ++ _) (dropBreaks_eq_self fun c hc => isInner_of_isPlain (hbefore c hc))
    rw [hbreaks, List.takeWhile_append_of_pos fun c hc => not_isEnd_of_isPlain (hbefore c hc),
      List.takeWhile_cons_of_pos (by decide)]
  have hrest : '@' ∉ (dropBreaks cs).takeWhile fun c => !isEnd c := fun hc =>
    huserinfo (List.mem_filter.mp ((List.takeWhile_prefix _).subset hc)).1
  simp only [parse, hauthority, checkBrackets_before hbefore hne hrest]
  rfl

end BucketStore.Authority
