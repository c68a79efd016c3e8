import BucketStore.Endpoint.Address
import BucketStore.Proofs.Text.Lemmas.Numerals
import BucketStore.Proofs.Text.Lemmas.Splits

/-!
# The form of addresses

An address of version 6 is written as eight groups with colons between them. Two colons together
stand for one group or more, and an address of version 4 at the end for two. What is read as an
address is written so.
-/

namespace BucketStore.Address

open BucketStore.Text

/-! ## Written addresses -/

/-- One to four hexadecimal digits. -/
structure IsGroup (cs : List Char) : Prop where
  nonempty : cs ≠ []
  length : cs.length ≤ 4
  digits : ∀ c ∈ cs, isHexDigit c = true

/-- Four numbers up to 255 in decimal, with points between them. -/
def IsQuad (cs : List Char) : Prop :=
  ∃ ns : List Nat, ns.length = 4 ∧ (∀ n ∈ ns, n ≤ 255) ∧
    cs = ['.'].intercalate (ns.map (Nat.toDigits 10))

/-- Groups, perhaps with four numbers at the end that stand for two of them, and how many groups
these are. -/
inductive Groups : Nat → List (List Char) → Prop
  | nil : Groups 0 []
  | quad {quad : List Char} : IsQuad quad → Groups 2 [quad]
  | cons {n : Nat} {group : List Char} {groups : List (List Char)} :
      IsGroup group → Groups n groups → Groups (n + 1) (group :: groups)

/-- An address of version 6: eight groups, or fewer with one gap between them. -/
inductive Version6 : List Char → Prop
  | full {groups : List (List Char)} : Groups 8 groups → Version6 ([':'].intercalate groups)
  | gap {n : Nat} {before after : List (List Char)} :
      (∀ group ∈ before, IsGroup group) → Groups n after → before.length + n < 8 →
      Version6 ([':'].intercalate before ++ "::".toList ++ [':'].intercalate after)

/-! ## Numbers -/

theorem toDigits_of_isDigit {c : Char} (h : c.isDigit = true) :
    Nat.toDigits 10 (c.toNat - 48) = [c] := by
  obtain ⟨hlow, hhigh⟩ := toNat_of_isDigit h
  have hlt : c.toNat - 48 < 10 := by omega
  have hvalue := Nat.toNat_digitChar_sub_48_of_lt_ten hlt
  have hdigit : (c.toNat - 48).digitChar.isDigit = true := by
    rw [Nat.isDigit_digitChar, decide_eq_true hlt]
  have hlow' := (toNat_of_isDigit hdigit).1
  have hchar : (c.toNat - 48).digitChar = c := Char.toNat_inj.mp (by omega)
  rw [Nat.toDigits_of_lt_base hlt, hchar]

/-- Digits without needless zeros are those of the number that they denote. -/
theorem toDigits_ofDigitChars {cs : List Char} (hdigits : ∀ c ∈ cs, c.isDigit = true)
    (hne : cs ≠ []) (hzero : cs.head? ≠ some '0') :
    0 < Nat.ofDigitChars 10 cs 0 ∧ Nat.toDigits 10 (Nat.ofDigitChars 10 cs 0) = cs := by
  induction cs using List.reverseRecOn with
  | nil => exact absurd rfl hne
  | append_singleton cs d ih =>
      have hd : d.isDigit = true := hdigits d (by simp)
      have hrange := toNat_of_isDigit hd
      have hvalue : Nat.ofDigitChars 10 (cs ++ [d]) 0 =
          10 * Nat.ofDigitChars 10 cs 0 + (d.toNat - 48) := by
        rw [Nat.ofDigitChars_append]
        rfl
      rw [hvalue]
      cases cs with
      | nil =>
          have hd0 : d ≠ '0' := by simpa using hzero
          have hpos : d.toNat ≠ 48 := fun h => hd0 (Char.toNat_inj.mp h)
          rw [Nat.ofDigitChars_nil, Nat.mul_zero, Nat.zero_add, List.nil_append]
          exact ⟨by omega, toDigits_of_isDigit hd⟩
      | cons c cs =>
          obtain ⟨hpos, hrest⟩ := ih (fun c hc => hdigits c (List.mem_append_left [d] hc))
            (List.cons_ne_nil c cs) hzero
          refine ⟨by omega, ?_⟩
          rw [← Nat.toDigits_append_toDigits (by decide) hpos (by omega), hrest,
            toDigits_of_isDigit hd]

theorem of_isOctet {cs : List Char} (h : isOctet cs = true) :
    Nat.ofDigitChars 10 cs 0 ≤ 255 ∧ Nat.toDigits 10 (Nat.ofDigitChars 10 cs 0) = cs := by
  simp only [isOctet, Bool.and_eq_true, Bool.or_eq_true, Bool.not_eq_true',
    List.isEmpty_eq_false_iff, decide_eq_true_eq, beq_iff_eq, bne_iff_ne, List.all_eq_true] at h
  obtain ⟨⟨⟨⟨hne, hdigits⟩, -⟩, hzero⟩, hvalue⟩ := h
  refine ⟨hvalue, ?_⟩
  rcases hzero with rfl | hzero
  · rfl
  · exact (toDigits_ofDigitChars hdigits hne hzero).2

theorem isQuad_of_isVersion4 {cs : List Char} (h : isVersion4 cs = true) : IsQuad cs := by
  simp only [isVersion4, Bool.and_eq_true, beq_iff_eq, List.all_eq_true] at h
  obtain ⟨hlength, hoctets⟩ := h
  refine ⟨(splitAt '.' cs).map fun part => Nat.ofDigitChars 10 part 0, ?_, ?_, ?_⟩
  · rw [List.length_map, hlength]
  · intro n hn
    obtain ⟨part, hpart, rfl⟩ := List.mem_map.mp hn
    exact (of_isOctet (hoctets part hpart)).1
  · have hdigits : ((splitAt '.' cs).map fun part => Nat.ofDigitChars 10 part 0).map
        (Nat.toDigits 10) = splitAt '.' cs := by
      rw [List.map_map]
      exact (List.map_congr_left fun part hpart => (of_isOctet (hoctets part hpart)).2).trans
        (List.map_id' _)
    rw [hdigits, intercalate_splitAt]

theorem of_isGroup {cs : List Char} (h : isGroup cs = true) : IsGroup cs := by
  simp only [isGroup, Bool.and_eq_true, Bool.not_eq_true', List.isEmpty_eq_false_iff,
    decide_eq_true_eq, List.all_eq_true] at h
  exact ⟨h.1.1, h.1.2, h.2⟩

/-! ## Expanding -/

/-- The parts of an address, and the same with two groups for four numbers at the end. -/
inductive Expands : List (List Char) → List (List Char) → Prop
  | refl (parts : List (List Char)) : Expands parts parts
  | quad {front : List (List Char)} {quad : List Char} :
      IsQuad quad → Expands (front ++ [quad]) (front ++ [['0'], ['0']])

theorem expands_of_expandVersion4? {parts expanded : List (List Char)}
    (h : expandVersion4? parts = some expanded) : Expands parts expanded := by
  unfold expandVersion4? at h
  split at h
  · rename_i last hlast
    split at h
    · split at h
      · rename_i hquad
        cases h
        conv_lhs => rw [← List.dropLast_append_getLast? last hlast]
        exact .quad (isQuad_of_isVersion4 hquad)
      · cases h
    · cases h
      exact .refl parts
  · cases h

/-- Groups that parts are expanded to are counted by the parts. -/
theorem Expands.groups {parts expanded : List (List Char)} (h : Expands parts expanded)
    (hgroups : ∀ part ∈ expanded, IsGroup part) : Groups expanded.length parts := by
  cases h with
  | refl =>
      induction parts with
      | nil => exact .nil
      | cons part parts ih =>
          exact .cons (hgroups part List.mem_cons_self)
            (ih fun q hq => hgroups q (List.mem_cons_of_mem part hq))
  | @quad front quad hquad =>
      induction front with
      | nil => exact .quad hquad
      | cons part front ih =>
          exact .cons (hgroups part List.mem_cons_self)
            (ih fun q hq => hgroups q (List.mem_cons_of_mem part hq))

theorem Expands.ne_nil {parts expanded : List (List Char)} (h : Expands parts expanded)
    (hne : expanded ≠ []) : parts ≠ [] := by
  cases h with
  | refl => exact hne
  | quad => exact List.append_ne_nil_of_right_ne_nil _ (List.cons_ne_nil _ _)

/-- Before an empty part nothing is expanded. -/
theorem Expands.of_gap {parts before after : List (List Char)}
    (h : Expands parts (before ++ [] :: after)) :
    ∃ tail, parts = before ++ [] :: tail ∧ Expands tail after := by
  generalize hexpanded : before ++ [] :: after = expanded at h
  cases h with
  | refl => exact ⟨after, hexpanded.symm, .refl after⟩
  | @quad front quad hquad =>
      rcases List.append_eq_append_iff.mp hexpanded with
        ⟨between, rfl, hrest⟩ | ⟨between, rfl, hrest⟩
      · cases between with
        | nil => simp at hrest
        | cons part between =>
            simp only [List.cons_append, List.cons.injEq] at hrest
            obtain ⟨rfl, rfl⟩ := hrest
            exact ⟨between ++ [quad], by simp, .quad hquad⟩
      · exfalso
        match between with
        | [] => simp at hrest
        | [_] => simp at hrest
        | _ :: _ :: between => simp at hrest

/-! ## Gaps -/

/-- Around a gap there are parts on both sides. -/
theorem exists_of_gap? {parts : List (List Char)} {i : Nat} (h : gap? parts = some i) :
    parts = parts.take i ++ [] :: parts.drop (i + 1) ∧ parts.take i ≠ [] ∧
      parts.drop (i + 1) ≠ [] := by
  obtain ⟨j, hj, rfl⟩ := Option.map_eq_some_iff.mp h
  obtain ⟨hlt, hempty, -⟩ := List.findIdx?_eq_some_iff_getElem.mp hj
  rw [List.length_dropLast, List.length_drop] at hlt
  have hlength : j + 1 < parts.length := by omega
  have hpart : parts[j + 1] = [] := by
    simpa [Nat.add_comm 1 j] using hempty
  refine ⟨?_, ?_, ?_⟩
  · rw [← hpart, List.getElem_cons_drop, List.take_append_drop]
  · exact List.ne_nil_of_length_pos (by rw [List.length_take]; omega)
  · exact List.ne_nil_of_length_pos (by rw [List.length_drop]; omega)

theorem of_areGroups {parts : List (List Char)} (h : areGroups parts = true) :
    parts = [[]] ∨ ∀ part ∈ parts, IsGroup part := by
  rw [areGroups, Bool.or_eq_true, beq_iff_eq, List.all_eq_true] at h
  exact h.imp_right fun h part hpart => of_isGroup (h part hpart)

theorem groupCount_eq_length {parts : List (List Char)} (h : ∀ part ∈ parts, IsGroup part) :
    groupCount parts = parts.length := by
  rw [groupCount, List.filter_eq_self.mpr fun part hpart => by simpa using (h part hpart).nonempty]

/-- Before a gap stand groups, or nothing. -/
theorem exists_before {parts : List (List Char)} (h : areGroups parts = true) :
    ∃ groups, (∀ group ∈ groups, IsGroup group) ∧ groups.length = groupCount parts ∧
      [':'].intercalate groups = [':'].intercalate parts := by
  rcases of_areGroups h with rfl | hgroups
  · exact ⟨[], nofun, rfl, rfl⟩
  · exact ⟨parts, hgroups, (groupCount_eq_length hgroups).symm, rfl⟩

/-- After a gap stand groups, or nothing. -/
theorem exists_after {parts expanded : List (List Char)} (hexpands : Expands parts expanded)
    (h : areGroups expanded = true) :
    ∃ groups, Groups (groupCount expanded) groups ∧
      [':'].intercalate groups = [':'].intercalate parts := by
  rcases of_areGroups h with hempty | hgroups
  · cases hexpands with
    | refl =>
        rw [hempty]
        exact ⟨[], .nil, rfl⟩
    | @quad front quad hquad =>
        -- What is expanded has two parts at least.
        have hlength := congrArg List.length hempty
        rw [List.length_append] at hlength
        exact absurd hlength (by simp)
  · refine ⟨parts, ?_, rfl⟩
    rw [groupCount_eq_length hgroups]
    exact hexpands.groups hgroups

/-! ## Reading -/

/-- What is read as an address of version 6 is written as one. -/
theorem version6_of_isVersion6 {cs : List Char} (h : isVersion6 cs = true) : Version6 cs := by
  simp only [isVersion6, Bool.and_eq_true] at h
  obtain ⟨-, h⟩ := h
  split at h
  · rename_i expanded hexpanded
    have hexpands := expands_of_expandVersion4? hexpanded
    rw [← intercalate_splitAt ':' cs]
    unfold areVersion6Parts at h
    split at h
    · simp only [Bool.and_eq_true, beq_iff_eq, List.all_eq_true] at h
      have hgroups := hexpands.groups fun part hpart => of_isGroup (h.2 part hpart)
      rw [h.1] at hgroups
      exact .full hgroups
    · rename_i i hgap
      simp only [Bool.and_eq_true, decide_eq_true_eq] at h
      obtain ⟨⟨hbefore, hafter⟩, hcount⟩ := h
      obtain ⟨hsplit, hne, hne'⟩ := exists_of_gap? hgap
      rw [hsplit] at hexpands
      obtain ⟨tail, htail, hexpands⟩ := hexpands.of_gap
      obtain ⟨groups, hgroups, hlength, hjoin⟩ := exists_before hbefore
      obtain ⟨groups', hgroups', hjoin'⟩ := exists_after hexpands hafter
      have htext : [':'].intercalate (splitAt ':' cs) =
          [':'].intercalate groups ++ "::".toList ++ [':'].intercalate groups' := by
        rw [htail, intercalate_append _ hne (List.cons_ne_nil _ _),
          List.intercalate_cons_of_ne_nil (hexpands.ne_nil hne'), hjoin, hjoin']
        simp
      rw [htext]
      exact .gap hgroups hgroups' (by omega)
  · cases h

/-! ## Characters -/

/-- The characters of an address are hexadecimal digits, colons and points. -/
def isAddressChar (c : Char) : Bool :=
  isHexDigit c || c == ':' || c == '.'

theorem IsQuad.chars {cs : List Char} (h : IsQuad cs) : ∀ c ∈ cs, isAddressChar c = true := by
  obtain ⟨ns, -, -, rfl⟩ := h
  intro c hc
  rcases mem_intercalate hc with hc | ⟨part, hpart, hc⟩
  · rw [List.mem_singleton.mp hc]
    rfl
  · obtain ⟨n, -, rfl⟩ := List.mem_map.mp hpart
    have hdigit : c.isDigit = true := Nat.isDigit_of_mem_toDigits (by decide) (by decide) hc
    simp [isAddressChar, isHexDigit, hdigit]

theorem IsGroup.chars {cs : List Char} (h : IsGroup cs) : ∀ c ∈ cs, isAddressChar c = true :=
  fun c hc => by simp [isAddressChar, h.digits c hc]

theorem Groups.chars {n : Nat} {groups : List (List Char)} (h : Groups n groups) :
    ∀ group ∈ groups, ∀ c ∈ group, isAddressChar c = true := by
  induction h with
  | nil => exact nofun
  | quad hquad => exact fun group hgroup => List.mem_singleton.mp hgroup ▸ hquad.chars
  | cons hgroup _ ih => exact List.forall_mem_cons.mpr ⟨hgroup.chars, ih⟩

theorem isAddressChar_join {groups : List (List Char)}
    (h : ∀ group ∈ groups, ∀ c ∈ group, isAddressChar c = true) :
    ∀ c ∈ [':'].intercalate groups, isAddressChar c = true := by
  intro c hc
  rcases mem_intercalate hc with hc | ⟨group, hgroup, hc⟩
  · rw [List.mem_singleton.mp hc]
    rfl
  · exact h group hgroup c hc

theorem Version6.chars {cs : List Char} (h : Version6 cs) : ∀ c ∈ cs, isAddressChar c = true := by
  cases h with
  | full hgroups => exact isAddressChar_join hgroups.chars
  | gap hbefore hafter _ =>
      intro c hc
      rcases List.mem_append.mp hc with hc | hc
      · rcases List.mem_append.mp hc with hc | hc
        · exact isAddressChar_join (fun group hgroup => (hbefore group hgroup).chars) c hc
        · exact List.all_eq_true.mp (by decide : "::".toList.all isAddressChar = true) c hc
      · exact isAddressChar_join hafter.chars c hc

end BucketStore.Address
