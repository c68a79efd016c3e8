import BucketStore.Text.Blank
import Mathlib.Data.List.DropRight

/-!
# Trimming

What trimming takes off a text by what stands at its ends, and that it takes off nothing else.
-/

namespace BucketStore.Text

/-! ## Nothing to take off -/

theorem dropWhile_eq_self {p : Char → Bool} {cs : List Char}
    (h : ∀ c ∈ cs.head?, p c = false) : cs.dropWhile p = cs := by
  cases cs with
  | nil => rfl
  | cons c cs => rw [List.dropWhile_cons_of_neg (by simp [h c rfl])]

/-- Nothing is removed if neither end is of the class. -/
theorem trimBy_of_ends {p : Char → Bool} {cs : List Char} (hfirst : ∀ c ∈ cs.head?, p c = false)
    (hlast : ∀ c ∈ cs.getLast?, p c = false) : trimBy p cs = cs := by
  have hreverse : ∀ c ∈ cs.reverse.head?, p c = false := by
    rw [List.head?_reverse]
    exact hlast
  rw [trimBy, dropWhile_eq_self hfirst, dropWhile_eq_self hreverse, List.reverse_reverse]

theorem trimBy_eq_self {p : Char → Bool} {cs : List Char} (h : ∀ c ∈ cs, p c = false) :
    trimBy p cs = cs :=
  trimBy_of_ends (fun c hc => h c (List.mem_of_mem_head? hc))
    fun c hc => h c (List.mem_of_mem_getLast? hc)

/-! ## One end -/

theorem rdropWhile_append_cons {p : Char → Bool} {c : Char} (h : p c = false)
    (before cs : List Char) :
    (before ++ c :: cs).rdropWhile p = before ++ c :: cs.rdropWhile p := by
  induction cs using List.reverseRecOn with
  | nil => rw [List.rdropWhile_nil, List.rdropWhile_concat_neg _ _ _ (by simp [h])]
  | append_singleton cs d ih =>
      rw [← List.cons_append, ← List.append_assoc, List.rdropWhile_concat, List.rdropWhile_concat]
      split
      · exact ih
      · rw [List.append_assoc, List.cons_append]

theorem dropWhile_append_cons {p : Char → Bool} {c : Char} (h : p c = false)
    (before cs : List Char) :
    (before ++ c :: cs).dropWhile p = before.dropWhile p ++ c :: cs := by
  rw [List.dropWhile_append]
  split
  · rename_i hempty
    rw [List.isEmpty_iff.mp hempty, List.dropWhile_cons_of_neg (by simp [h]), List.nil_append]
  · rfl

theorem rdropWhile_append_of_pos {p : Char → Bool} {after : List Char}
    (h : ∀ c ∈ after, p c = true) (cs : List Char) :
    (cs ++ after).rdropWhile p = cs.rdropWhile p := by
  have hreverse : ∀ c ∈ after.reverse, p c = true := fun c hc => h c (List.mem_reverse.mp hc)
  rw [List.rdropWhile, List.reverse_append, List.dropWhile_append_of_pos hreverse, List.rdropWhile]

/-! ## Both ends -/

/-- Around a part without characters of the class, these are taken off at the ends alone. -/
theorem trimBy_around {p : Char → Bool} {before head part tail after : List Char}
    (hbefore : ∀ c ∈ before, p c = true) (hne : part ≠ []) (hpart : ∀ c ∈ part, p c = false)
    (hafter : ∀ c ∈ after, p c = true) :
    trimBy p (before ++ (head ++ part ++ tail) ++ after) =
      head.dropWhile p ++ part ++ tail.rdropWhile p := by
  have hstart : (head ++ part ++ tail ++ after).dropWhile p =
      head.dropWhile p ++ part ++ tail ++ after := by
    obtain ⟨c, cs, rfl⟩ := List.exists_cons_of_ne_nil hne
    have hc := hpart c List.mem_cons_self
    simpa using dropWhile_append_cons hc head (cs ++ (tail ++ after))
  have hend : (head.dropWhile p ++ part ++ tail).rdropWhile p =
      head.dropWhile p ++ part ++ tail.rdropWhile p := by
    obtain ⟨cs, c, rfl⟩ := List.eq_nil_or_concat part |>.resolve_left hne
    have hc := hpart c (by simp)
    simpa using rdropWhile_append_cons hc (head.dropWhile p ++ cs) tail
  rw [trimBy, List.append_assoc, List.dropWhile_append_of_pos hbefore, hstart, ← List.rdropWhile,
    rdropWhile_append_of_pos hafter, hend]

/-- Characters of the class at the ends make no difference. -/
theorem trimBy_append {p : Char → Bool} {before after : List Char}
    (hbefore : ∀ c ∈ before, p c = true) (hafter : ∀ c ∈ after, p c = true) (cs : List Char) :
    trimBy p (before ++ cs ++ after) = trimBy p cs := by
  rw [trimBy, List.append_assoc, List.dropWhile_append_of_pos hbefore, trimBy, ← List.rdropWhile,
    ← List.rdropWhile, List.dropWhile_append]
  split
  · rename_i hempty
    rw [List.isEmpty_iff.mp hempty, List.dropWhile_eq_nil_iff.mpr hafter]
  · exact rdropWhile_append_of_pos hafter _

/-- A text is what trimming leaves of it, with characters of the class around. -/
theorem exists_append_trimBy (p : Char → Bool) (cs : List Char) :
    ∃ before after, (∀ c ∈ before, p c = true) ∧ (∀ c ∈ after, p c = true) ∧
      cs = before ++ trimBy p cs ++ after := by
  refine ⟨cs.takeWhile p, (cs.dropWhile p).rtakeWhile p, fun c hc => ?_, fun c hc => ?_, ?_⟩
  · exact List.mem_takeWhile_imp hc
  · exact List.mem_rtakeWhile_imp hc
  · rw [trimBy, ← List.rdropWhile, List.append_assoc, List.rdropWhile_append_rtakeWhile,
      List.takeWhile_append_dropWhile]

end BucketStore.Text
