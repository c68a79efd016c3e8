import BucketStore.Proofs.Text.Lemmas.Trimming
import Mathlib.Data.List.Induction

/-!
# Words and parts

Words with blanks between them are the words of the text, and parts without a separator, joined by
it, are the parts between its occurrences.
-/

namespace BucketStore.Text

/-! ## Runs outside a class of characters -/

section

variable {p : Char → Bool}

theorem splitBy_cons_of_pos {c : Char} (hc : p c = true) (cs : List Char) :
    splitBy p (c :: cs) = splitBy p cs := by
  rw [splitBy.eq_def]
  simp only [hc, if_true]

/-- A character alone between two of the class is a word. -/
theorem splitBy_cons_cons_of_pos {c d : Char} (hc : p c = false) (hd : p d = true)
    (cs : List Char) : splitBy p (c :: d :: cs) = [c] :: splitBy p cs := by
  rw [splitBy.eq_def]
  simp only [hc, Bool.false_eq_true, if_false, splitBy_cons_of_pos hd]
  cases splitBy p cs with
  | nil => rfl
  | cons word words => simp only [hd, if_true]

theorem splitBy_cons_cons_of_neg {c d : Char} {cs word : List Char} {words : List (List Char)}
    (hc : p c = false) (hd : p d = false) (h : splitBy p (d :: cs) = word :: words) :
    splitBy p (c :: d :: cs) = (c :: word) :: words := by
  rw [splitBy.eq_def]
  simp only [hc, hd, h, Bool.false_eq_true, if_false]

theorem exists_splitBy_cons {c : Char} (hc : p c = false) (cs : List Char) :
    ∃ word words, splitBy p (c :: cs) = word :: words := by
  rw [splitBy.eq_def]
  simp only [hc, Bool.false_eq_true, if_false]
  split
  · split
    · exact ⟨_, _, rfl⟩
    · exact ⟨_, _, rfl⟩
  · exact ⟨_, _, rfl⟩

/-- A character of the class parts the runs before it from those after it. -/
theorem splitBy_append_cons {s : Char} (hs : p s = true) (before after : List Char) :
    splitBy p (before ++ s :: after) = splitBy p before ++ splitBy p after := by
  -- The next character decides whether a run goes on, so two of them are taken off.
  induction before using List.twoStepInduction with
  | nil => exact splitBy_cons_of_pos hs after
  | singleton c =>
      cases hc : p c with
      | true =>
          rw [List.singleton_append, splitBy_cons_of_pos hc, splitBy_cons_of_pos hs,
            splitBy_cons_of_pos hc]
          rfl
      | false =>
          have halone : splitBy p [c] = [[c]] := by simp [splitBy, hc]
          rw [List.singleton_append, splitBy_cons_cons_of_pos hc hs, halone]
          rfl
  | cons_cons c d before ih ih' =>
      simp only [List.cons_append] at ih' ⊢
      cases hc : p c with
      | true => rw [splitBy_cons_of_pos hc, splitBy_cons_of_pos hc, ih' d]
      | false =>
          cases hd : p d with
          | true =>
              rw [splitBy_cons_cons_of_pos hc hd, splitBy_cons_cons_of_pos hc hd, ih]
              rfl
          | false =>
              obtain ⟨word, words, hwords⟩ := exists_splitBy_cons hd before
              have happend := ih' d
              rw [hwords] at happend
              rw [splitBy_cons_cons_of_neg hc hd hwords, splitBy_cons_cons_of_neg hc hd happend]
              rfl

theorem splitBy_of_forall {word : List Char} (hne : word ≠ []) (hword : ∀ c ∈ word, p c = false) :
    splitBy p word = [word] := by
  induction word with
  | nil => exact absurd rfl hne
  | cons c cs ih =>
      have hc : p c = false := hword c List.mem_cons_self
      cases cs with
      | nil => simp [splitBy, hc]
      | cons d ds =>
          have hd : p d = false := hword d (List.mem_cons_of_mem c List.mem_cons_self)
          exact splitBy_cons_cons_of_neg hc hd
            (ih (List.cons_ne_nil d ds) fun e he => hword e (List.mem_cons_of_mem c he))

end

/-! ## Runs of the class at the ends -/

section

variable {p : Char → Bool} {blanks : List Char} (hblanks : ∀ c ∈ blanks, p c = true)
include hblanks

theorem splitBy_append_of_pos (cs : List Char) : splitBy p (blanks ++ cs) = splitBy p cs := by
  induction blanks with
  | nil => rfl
  | cons c blanks ih =>
      rw [List.cons_append, splitBy_cons_of_pos (hblanks c List.mem_cons_self)]
      exact ih fun d hd => hblanks d (List.mem_cons_of_mem c hd)

theorem splitBy_of_pos : splitBy p blanks = [] := by
  have happend := splitBy_append_of_pos hblanks []
  rwa [List.append_nil] at happend

theorem splitBy_append_of_pos_right (cs : List Char) :
    splitBy p (cs ++ blanks) = splitBy p cs := by
  cases blanks with
  | nil => rw [List.append_nil]
  | cons c blanks =>
      have hrest : ∀ d ∈ blanks, p d = true := fun d hd => hblanks d (List.mem_cons_of_mem c hd)
      rw [splitBy_append_cons (hblanks c List.mem_cons_self), splitBy_of_pos hrest, List.append_nil]

end

theorem words_trim (cs : List Char) : words (trimBy isBlank cs) = words cs := by
  obtain ⟨before, after, hbefore, hafter, hcs⟩ := exists_append_trimBy isBlank cs
  rw [words, words]
  conv => rhs; rw [hcs]
  rw [splitBy_append_of_pos_right hafter, splitBy_append_of_pos hbefore]

/-! ## How many there are -/

/-- There is one run more than characters of the class between them, at most. -/
theorem length_splitBy_le (p : Char → Bool) (cs : List Char) :
    (splitBy p cs).length ≤ cs.countP p + 1 := by
  induction cs using List.twoStepInduction with
  | nil => exact Nat.zero_le _
  | singleton c => cases hc : p c <;> simp [splitBy, hc]
  | cons_cons c d cs ih ih' =>
      have ihd := ih' d
      cases hc : p c with
      | true =>
          rw [splitBy_cons_of_pos hc, List.countP_cons_of_pos hc]
          exact Nat.le_succ_of_le ihd
      | false =>
          cases hd : p d with
          | true =>
              rw [splitBy_cons_cons_of_pos hc hd, List.countP_cons_of_neg (by simp [hc]),
                List.countP_cons_of_pos hd, List.length_cons]
              exact Nat.succ_le_succ ih
          | false =>
              obtain ⟨word, words, hwords⟩ := exists_splitBy_cons hd cs
              rw [hwords] at ihd
              rw [splitBy_cons_cons_of_neg hc hd hwords, List.countP_cons_of_neg (by simp [hc])]
              exact ihd

/-! ## Words with blanks between them -/

theorem words_append_blank (before after : List Char) :
    words (before ++ ' ' :: after) = words before ++ words after :=
  splitBy_append_cons (by decide) before after

theorem words_intercalate {ws : List (List Char)}
    (h : ∀ w ∈ ws, w ≠ [] ∧ ∀ c ∈ w, isBlank c = false) : words ([' '].intercalate ws) = ws := by
  induction ws with
  | nil => rfl
  | cons w ws ih =>
      obtain ⟨hne, hw⟩ := h w List.mem_cons_self
      have hword : words w = [w] := splitBy_of_forall hne hw
      cases ws with
      | nil => rw [List.intercalate_singleton, hword]
      | cons v ws =>
          rw [List.intercalate_cons_cons, List.append_assoc, List.singleton_append,
            words_append_blank, hword, ih fun u hu => h u (List.mem_cons_of_mem w hu)]
          rfl

/-! ## Parts between separators -/

section

variable {sep : Char} {part : List Char} (hpart : sep ∉ part)
include hpart

theorem splitAt_of_not_mem : splitAt sep part = [part] := by
  induction part with
  | nil => rfl
  | cons c cs ih =>
      have hc : c ≠ sep := (List.ne_of_not_mem_cons hpart).symm
      rw [splitAt, if_neg hc, ih (List.not_mem_of_not_mem_cons hpart)]

/-- Splitting takes one part off after the other. -/
theorem splitAt_append_cons (cs : List Char) :
    splitAt sep (part ++ sep :: cs) = part :: splitAt sep cs := by
  induction part with
  | nil => rw [List.nil_append, splitAt, if_pos rfl]
  | cons c part ih =>
      have hc : c ≠ sep := (List.ne_of_not_mem_cons hpart).symm
      rw [List.cons_append, splitAt, if_neg hc, ih (List.not_mem_of_not_mem_cons hpart)]

end

theorem splitAt_intercalate {sep : Char} {parts : List (List Char)} (hne : parts ≠ [])
    (h : ∀ part ∈ parts, sep ∉ part) : splitAt sep ([sep].intercalate parts) = parts := by
  induction parts with
  | nil => exact absurd rfl hne
  | cons part parts ih =>
      have hpart : sep ∉ part := h part List.mem_cons_self
      cases parts with
      | nil =>
          rw [List.intercalate_singleton]
          exact splitAt_of_not_mem hpart
      | cons next parts =>
          rw [List.intercalate_cons_cons, List.append_assoc, List.singleton_append,
            splitAt_append_cons hpart]
          rw [ih (List.cons_ne_nil _ _) fun q hq => h q (List.mem_cons_of_mem part hq)]

theorem splitAt_ne_nil (sep : Char) (cs : List Char) : splitAt sep cs ≠ [] := by
  cases cs with
  | nil => exact List.cons_ne_nil _ _
  | cons c cs =>
      rw [splitAt]
      split
      · exact List.cons_ne_nil _ _
      · split <;> exact List.cons_ne_nil _ _

/-- The text is its parts with the separator between them. -/
theorem intercalate_splitAt (sep : Char) (cs : List Char) :
    [sep].intercalate (splitAt sep cs) = cs := by
  induction cs with
  | nil => rfl
  | cons c cs ih =>
      rw [splitAt]
      split
      · rename_i hc
        rw [List.intercalate_cons_of_ne_nil (splitAt_ne_nil sep cs), ih, hc]
        rfl
      · cases hparts : splitAt sep cs with
        | nil => exact absurd hparts (splitAt_ne_nil sep cs)
        | cons part parts =>
            rw [hparts] at ih
            simp only [List.intercalate_cons_cons_left, ih]

/-! ## Parts joined by separators -/

theorem intercalate_append {α : Type} (sep : List α) {xs ys : List (List α)} (hxs : xs ≠ [])
    (hys : ys ≠ []) :
    sep.intercalate (xs ++ ys) = sep.intercalate xs ++ sep ++ sep.intercalate ys := by
  induction xs with
  | nil => exact absurd rfl hxs
  | cons x xs ih =>
      cases xs with
      | nil =>
          rw [List.singleton_append, List.intercalate_cons_of_ne_nil hys,
            List.intercalate_singleton]
      | cons y xs =>
          rw [List.cons_append, List.intercalate_cons_of_ne_nil (by simp),
            ih (List.cons_ne_nil y xs), List.intercalate_cons_cons]
          simp only [List.append_assoc]

theorem mem_intercalate {α : Type} {c : α} {sep : List α} {parts : List (List α)}
    (h : c ∈ sep.intercalate parts) : c ∈ sep ∨ ∃ part ∈ parts, c ∈ part := by
  induction parts with
  | nil => cases h
  | cons part parts ih =>
      cases parts with
      | nil =>
          rw [List.intercalate_singleton] at h
          exact .inr ⟨part, List.mem_cons_self, h⟩
      | cons next parts =>
          rw [List.intercalate_cons_cons, List.mem_append, List.mem_append] at h
          rcases h with (h | h) | h
          · exact .inr ⟨part, List.mem_cons_self, h⟩
          · exact .inl h
          · exact (ih h).imp_right fun ⟨q, hq, hc⟩ => ⟨q, List.mem_cons_of_mem part hq, hc⟩

end BucketStore.Text
