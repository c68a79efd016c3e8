import BucketStore.Proofs.Endpoint.Lemmas.Addresses
import BucketStore.Proofs.Endpoint.Lemmas.Authority

/-!
# Hosts in brackets

What stands in the brackets of an authority that can be read is an address of version 6, with a
scope after a percent sign if there is one. The closing bracket is followed by the port, if it is
there at all: brackets are looked for in the whole authority, the userinfo included.
-/

namespace BucketStore.Authority

open BucketStore.Address BucketStore.Endpoint BucketStore.Text

/-- Nothing, or a colon and the digits of a number up to 65535, if any. -/
def IsPort (cs : List Char) : Prop :=
  cs = [] ∨ ∃ digits, cs = ':' :: digits ∧ (∀ c ∈ digits, c.isDigit = true) ∧
    Nat.ofDigitChars 10 digits 0 ≤ 65535

/-- A port is a colon and digits, and so address characters as well. -/
theorem IsPort.chars {port : List Char} (h : IsPort port) :
    ∀ c ∈ port, isAddressChar c = true := by
  obtain rfl | ⟨digits, rfl, hdigits, -⟩ := h
  · exact nofun
  · refine List.forall_mem_cons.mpr ⟨rfl, fun c hc => ?_⟩
    simp [isAddressChar, isHexDigit, hdigits c hc]

/-- Nothing, or a percent sign and some text without one. -/
def IsScope (cs : List Char) : Prop :=
  cs = [] ∨ ∃ zone, cs = '%' :: zone ∧ zone ≠ [] ∧ '%' ∉ zone

/-! ## Parts -/

theorem not_mem_cut (sep : Char) (cs : List Char) : sep ∉ (cut sep cs).1 := fun h =>
  absurd (List.mem_takeWhile_imp (p := fun c => c != sep) h) (by simp)

theorem isPort_of_checkPort {port : List Char} (h : checkPort port = .ok ()) :
    IsPort (':' :: port) := by
  refine .inr ⟨port, rfl, isDigit_of_checkPort h, ?_⟩
  rw [checkPort] at h
  split at h
  · rename_i hempty
    rw [List.isEmpty_iff.mp hempty]
    exact Nat.zero_le _
  · split at h
    · cases h
    · split at h
      · cases h
      · split at h
        · cases h
        · rename_i hvalue
          exact Nat.le_of_not_lt hvalue

theorem isPort_of_cut {cs : List Char} (h : checkPort (cut ':' cs).2 = .ok ())
    (hstart : (cut ':' cs).1 = []) : IsPort cs := by
  rcases eq_of_cut ':' cs with ⟨hcs, -⟩ | hcs
  · rw [hcs, hstart]
    exact .inl rfl
  · rw [hcs, hstart]
    exact isPort_of_checkPort h

theorem Named.exists_port {location : List Char} (h : Named location) :
    ∃ port, location = (cut ':' location).1 ++ port ∧ IsPort port := by
  rcases eq_of_cut ':' location with ⟨hlocation, -⟩ | hlocation
  · exact ⟨[], by rw [List.append_nil, ← hlocation], .inl rfl⟩
  · exact ⟨_, hlocation, isPort_of_checkPort h.port⟩

/-! ## Addresses -/

theorem of_isScopedVersion6 {host : List Char} (h : isScopedVersion6 host = true) :
    ∃ address scope, host = address ++ scope ∧ Version6 address ∧ IsScope scope := by
  simp only [isScopedVersion6, Bool.and_eq_true, Bool.or_eq_true, Bool.not_eq_true',
    List.contains_eq_mem, decide_eq_false_iff_not, List.isEmpty_eq_false_iff] at h
  obtain ⟨haddress, hscope⟩ := h
  rcases eq_of_cut '%' host with ⟨hhost, -⟩ | hhost
  · exact ⟨host, [], by simp, by rw [hhost]; exact version6_of_isVersion6 haddress, .inl rfl⟩
  · have hmem : '%' ∈ host := by
      rw [hhost]
      simp
    obtain ⟨hne, hnone⟩ := hscope.resolve_left fun hnot => hnot hmem
    exact ⟨_, _, hhost, version6_of_isVersion6 haddress, .inr ⟨_, rfl, hne, hnone⟩⟩

/-- A host that begins with a v is no address of version 6 in small letters either. -/
theorem isVersion6_lowerHost_v (cs : List Char) :
    isVersion6 ((lowerHost ('v' :: cs)).takeWhile fun c => c != '%') = false := by
  rw [Bool.eq_false_iff]
  intro h
  have hlower : ∃ rest, lowerHost ('v' :: cs) = 'v' :: rest := by
    rw [lowerHost, List.takeWhile_cons_of_pos (by decide), toList_lower, lowerFrom]
    exact ⟨_, rfl⟩
  obtain ⟨rest, hrest⟩ := hlower
  rw [hrest, List.takeWhile_cons_of_pos (by decide)] at h
  have hv := (version6_of_isVersion6 h).chars 'v' List.mem_cons_self
  exact absurd hv (by decide)

theorem isScopedVersion6_of_checkAddress {host : List Char} (h : checkAddress host = .ok ())
    (hvalid : isVersion6 ((lowerHost host).takeWhile fun c => c != '%') = true) :
    isScopedVersion6 host = true := by
  rw [checkAddress] at h
  split at h
  · rename_i hv
    obtain ⟨cs, rfl⟩ := List.head?_eq_some_iff.mp hv
    rw [isVersion6_lowerHost_v] at hvalid
    cases hvalid
  · split at h
    · cases h
    · split at h
      · rename_i hscoped
        exact hscoped
      · cases h

/-! ## Reading -/

theorem of_checkBrackets {authority inner : List Char} (h : checkBrackets authority = .ok ())
    (hlocation : dropUserinfo authority = '[' :: inner) :
    checkAddress (cut ']' inner).1 = .ok () ∧ (cut ':' (cut ']' inner).2).1 = [] := by
  have hbracket : '[' ∈ dropUserinfo authority := by
    rw [hlocation]
    exact List.mem_cons_self
  have hmem : '[' ∈ authority := (List.rtakeWhile_suffix _ authority).subset hbracket
  have hcut : cut '[' ('[' :: inner) = ([], inner) := by simp [cut]
  rw [checkBrackets, if_neg (by simp [hmem])] at h
  split at h
  · cases h
  · simp only [hlocation, hcut, List.contains_cons, beq_self_eq_true, Bool.true_or, if_true,
      List.isEmpty_nil, Bool.not_true, Bool.false_eq_true, if_false] at h
    split at h
    · cases h
    · rename_i hafter
      refine ⟨h, ?_⟩
      cases hrest : (cut ']' inner).2 with
      | nil => rfl
      | cons c rest =>
          have hc : c = ':' := by simpa [hrest] using hafter
          rw [hc]
          rfl

/-- A location in brackets is an address, with a scope or without one; after the closing bracket, if
there is any, stands the port. -/
theorem bracketed_of_parse {cs : List Char} {a : Authority} (h : parse cs = .ok a)
    (hvalid : isValidHost a = true) (hbracket : a.location.head? = some '[') :
    ∃ address scope, Version6 address ∧ IsScope scope ∧ ']' ∉ scope ∧
      (a.location = '[' :: address ++ scope ∨
        ∃ port, IsPort port ∧ a.location = '[' :: address ++ scope ++ ']' :: port) := by
  obtain ⟨hbrackets, hlocation, hport, hhost⟩ := of_parse h
  obtain ⟨inner, hinner⟩ := List.head?_eq_some_iff.mp hbracket
  rw [hlocation] at hinner
  obtain ⟨haddress, hafter⟩ := of_checkBrackets hbrackets hinner
  rw [← hlocation] at hinner
  have hparts : hostAndPort a.location =
      ((cut ']' inner).1, (cut ':' (cut ']' inner).2).2) := by
    rw [hinner, hostAndPort, if_pos (by simp)]
    simp [cut]
  rw [hparts] at hport hhost
  rw [isValidHost, if_pos hbracket, hhost] at hvalid
  obtain ⟨address, scope, hsplit, hversion, hscope⟩ :=
    of_isScopedVersion6 (isScopedVersion6_of_checkAddress haddress hvalid)
  have hclosing := not_mem_cut ']' inner
  rw [hsplit] at hclosing
  refine ⟨address, scope, hversion, hscope, fun hc => hclosing (List.mem_append_right _ hc), ?_⟩
  rcases eq_of_cut ']' inner with ⟨hopen, -⟩ | hclosed
  · exact .inl (by rw [hinner, hopen, hsplit]; rfl)
  · refine .inr ⟨(cut ']' inner).2, isPort_of_cut hport hafter, ?_⟩
    rw [hinner, List.cons_append, ← hsplit]
    exact congrArg _ hclosed

end BucketStore.Authority
