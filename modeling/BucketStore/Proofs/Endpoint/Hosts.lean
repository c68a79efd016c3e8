import BucketStore.Proofs.Endpoint.Lemmas.Brackets
import BucketStore.Proofs.Endpoint.Lemmas.Sources

/-!
# Which hosts get through

The host of a service is checked in small letters, without its port and without a scope, and kept
as it is written. So besides well-formed hosts, those get through that differ from one in what the
check does not see: the Kelvin sign, the characters of a scope, and a closing bracket that is
missing.
-/

namespace BucketStore.Endpoint

open BucketStore.Address BucketStore.Authority

/-- Whether the character is ASCII, no white space or other control, and no backslash. -/
def isVisible (c : Char) : Bool :=
  decide (33 ≤ c.toNat) && decide (c.toNat ≤ 126) && c != '\\'

/-- A name of host characters, or in brackets an address with a scope of visible characters or
without one, and a port. -/
inductive WellFormed : List Char → Prop
  | name {host port : List Char} :
      host ≠ [] → (∀ c ∈ host, isHostChar c = true) → IsPort port → WellFormed (host ++ port)
  | address {address scope port : List Char} :
      Version6 address → IsScope scope → (∀ c ∈ scope, isVisible c = true) → ']' ∉ scope →
      IsPort port → WellFormed ('[' :: address ++ scope ++ ']' :: port)

/-- A name of characters whose small forms are host characters, or in brackets an address with any
scope or without one, and a port, which a bracket that is not closed leaves no room for. -/
inductive Admitted : List Char → Prop
  | name {host port : List Char} :
      host ≠ [] → (∀ c ∈ host, isNameChar c = true) → IsPort port → Admitted (host ++ port)
  | address {address scope port : List Char} :
      Version6 address → IsScope scope → ']' ∉ scope → IsPort port →
      Admitted ('[' :: address ++ scope ++ ']' :: port)
  | unclosed {address scope : List Char} :
      Version6 address → IsScope scope → ']' ∉ scope → Admitted ('[' :: address ++ scope)

/-- What is known of the hosts of an endpoint: the scheme is http or https, and the host of the
service has no userinfo, is admitted, and is well-formed just if its characters are visible and its
bracket, if it has one, is closed. -/
structure HasHost (e : Endpoint) : Prop where
  scheme : e.scheme = "http" ∨ e.scheme = "https"
  userinfo : '@' ∉ e.serviceHost.toList
  admitted : Admitted e.serviceHost.toList
  wellFormed_iff : WellFormed e.serviceHost.toList ↔
    (∀ c ∈ e.serviceHost.toList, isVisible c = true) ∧
      ('[' ∈ e.serviceHost.toList → ']' ∈ e.serviceHost.toList)

/-! ## Characters -/

theorem isVisible_of_isHostChar {c : Char} (h : isHostChar c = true) : isVisible c = true :=
  Text.ascii_forall (P := fun c => isHostChar c = true → isVisible c = true) (by decide +kernel)
    (toNat_lt_of_isHostChar h) h

theorem toNat_lt_of_isAddressChar {c : Char} (h : isAddressChar c = true) : c.toNat < 128 := by
  have hbound : ∀ d : Char, d.toNat < 128 → c ≤ d → c.toNat < 128 := fun d hd hcd =>
    Nat.lt_of_le_of_lt (UInt32.le_iff_toNat_le.mp hcd) hd
  simp only [isAddressChar, isHexDigit, Bool.or_eq_true, Bool.and_eq_true, decide_eq_true_eq,
    beq_iff_eq] at h
  rcases h with (((h | h) | h) | rfl) | rfl
  · exact Nat.lt_of_le_of_lt (Text.toNat_of_isDigit h).2 (by decide)
  · exact hbound 'f' (by decide) h.2
  · exact hbound 'F' (by decide) h.2
  · decide
  · decide

theorem isVisible_of_isAddressChar {c : Char} (h : isAddressChar c = true) :
    isVisible c = true :=
  Text.ascii_forall (P := fun c => isAddressChar c = true → isVisible c = true) (by decide +kernel)
    (toNat_lt_of_isAddressChar h) h

theorem isHostChar_of_isVisible {c : Char} (hname : isNameChar c = true)
    (hvisible : isVisible c = true) : isHostChar c = true := by
  rw [isNameChar, Bool.or_eq_true, beq_iff_eq] at hname
  rcases hname with hhost | rfl
  · exact hhost
  · exact absurd hvisible (by decide)

/-! ## Well-formed hosts -/

namespace WellFormed

variable {location : List Char}

theorem visible (h : WellFormed location) : ∀ c ∈ location, isVisible c = true := by
  intro c hc
  cases h with
  | name _ hhost hport =>
      rcases List.mem_append.mp hc with hc | hc
      · exact isVisible_of_isHostChar (hhost c hc)
      · exact isVisible_of_isAddressChar (hport.chars c hc)
  | address haddress _ hscope _ hport =>
      simp only [List.cons_append, List.mem_cons, List.mem_append] at hc
      rcases hc with rfl | (hc | hc) | rfl | hc
      · rfl
      · exact isVisible_of_isAddressChar (haddress.chars c hc)
      · exact hscope c hc
      · rfl
      · exact isVisible_of_isAddressChar (hport.chars c hc)

theorem closed (h : WellFormed location) (hopen : '[' ∈ location) : ']' ∈ location := by
  cases h with
  | name _ hhost hport =>
      rcases List.mem_append.mp hopen with hc | hc
      · exact absurd (hhost '[' hc) (by decide)
      · exact absurd (hport.chars '[' hc) (by decide)
  | address => simp

end WellFormed

namespace Admitted

variable {location : List Char}

theorem wellFormed (h : Admitted location) (hvisible : ∀ c ∈ location, isVisible c = true)
    (hclosed : '[' ∈ location → ']' ∈ location) : WellFormed location := by
  cases h with
  | name hne hhost hport =>
      refine .name hne (fun c hc => ?_) hport
      exact isHostChar_of_isVisible (hhost c hc) (hvisible c (List.mem_append_left _ hc))
  | address haddress hscope hbracket hport =>
      refine .address haddress hscope (fun c hc => hvisible c ?_) hbracket hport
      simp [hc]
  | unclosed haddress hscope hbracket =>
      have hmem := hclosed (by simp)
      simp only [List.cons_append, List.mem_cons, List.mem_append] at hmem
      rcases hmem with hmem | hmem | hmem
      · cases hmem
      · exact absurd (haddress.chars ']' hmem) (by decide)
      · exact absurd hmem hbracket

theorem wellFormed_iff (h : Admitted location) :
    WellFormed location ↔
      (∀ c ∈ location, isVisible c = true) ∧ ('[' ∈ location → ']' ∈ location) :=
  ⟨fun hw => ⟨hw.visible, hw.closed⟩, fun hw => h.wellFormed hw.1 hw.2⟩

theorem of_parse {cs : List Char} {a : Authority} (h : Authority.parse cs = .ok a)
    (hvalid : isValidHost a = true) : Admitted a.location := by
  by_cases hbracket : a.location.head? = some '['
  · obtain ⟨address, scope, haddress, hscope, hclosing, hlocation | ⟨port, hport, hlocation⟩⟩ :=
      Authority.bracketed_of_parse h hvalid hbracket
    · rw [hlocation]
      exact .unclosed haddress hscope hclosing
    · rw [hlocation]
      exact .address haddress hscope hclosing hport
  · have hnamed := Authority.Named.of_parse h hvalid hbracket
    obtain ⟨port, hlocation, hport⟩ := hnamed.exists_port
    rw [hlocation]
    exact .name hnamed.nonempty hnamed.chars hport

end Admitted

/-! ## Resolving -/

/-- Whatever is resolved, the host of the service is admitted, and well-formed just if what the
check of hosts does not see is in order. -/
theorem resolve_hasHost {bucket endpoint region : String} {e : Endpoint}
    (h : resolve bucket endpoint region = .ok e) : HasHost e := by
  obtain ⟨-, text, htext⟩ := of_resolve h
  obtain ⟨hscheme, -, rest, a, hparse, hvalid, hlocation⟩ := of_ofSource htext
  have hadmitted := Admitted.of_parse hparse hvalid
  have huserinfo := Authority.not_mem_location hparse
  rw [hlocation] at hadmitted huserinfo
  exact ⟨hscheme, huserinfo, hadmitted, hadmitted.wellFormed_iff⟩

theorem resolve_hasHost_scoped :
    resolve "demo" "http://user@[fe80::1%eth0]:9000/" "" =
      .ok ⟨"http", "[fe80::1%eth0]:9000", "demo.[fe80::1%eth0]:9000"⟩ ∧
    WellFormed "[fe80::1%eth0]:9000".toList := by
  have h : resolve "demo" "http://user@[fe80::1%eth0]:9000/" "" =
      .ok ⟨"http", "[fe80::1%eth0]:9000", "demo.[fe80::1%eth0]:9000"⟩ := by rfl
  exact ⟨h, (resolve_hasHost h).wellFormed_iff.mpr ⟨List.all_eq_true.mp rfl, by decide⟩⟩

/-- A Kelvin sign in a name, a scope of a blank, a backslash and a letter of another script, and a
bracket that only the userinfo closes. -/
theorem resolve_hasHost_not_wellFormed :
    resolve "demo" "https://\u212A.com" "" =
      .ok ⟨"https", "\u212A.com", "demo.\u212A.com"⟩ ∧ ¬ WellFormed "\u212A.com".toList ∧
    resolve "demo" "http://[::1% \\é]" "" =
      .ok ⟨"http", "[::1% \\é]", "demo.[::1% \\é]"⟩ ∧ ¬ WellFormed "[::1% \\é]".toList ∧
    resolve "demo" "http://]@[::1" "" =
      .ok ⟨"http", "[::1", "demo.[::1"⟩ ∧ ¬ WellFormed "[::1".toList := by
  have hkelvin : ¬ WellFormed "\u212A.com".toList := fun h =>
    absurd (h.visible '\u212A' (by decide)) (by decide)
  have hscope : ¬ WellFormed "[::1% \\é]".toList := fun h =>
    absurd (h.visible ' ' (by decide)) (by decide)
  have hunclosed : ¬ WellFormed "[::1".toList := fun h =>
    absurd (h.closed (by decide)) (by decide)
  exact ⟨by decide +kernel, hkelvin, by rfl, hscope, by rfl, hunclosed⟩

end BucketStore.Endpoint
