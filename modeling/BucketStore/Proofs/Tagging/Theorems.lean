import BucketStore.Proofs.Store.Lemmas.Readable
import BucketStore.Proofs.Tagging.Lemmas.Form
import Mathlib.Data.String.Basic
import Mathlib.Data.List.Sort

/-!
# Tags written are tags read

The form of an upload's tags is read back as the tags in the order of their names, and so are the
records that a service answers for them. So the form says which tags were given, and nothing else.
-/

namespace BucketStore

open BucketStore.Action

/-! ## Sorting -/

namespace TextTags

variable {m m' : TextTags} {pairs : List (String × String)}

/-- The tags in the order in which they are sent. -/
def sorted (m : TextTags) : List (String × String) :=
  m.pairs.mergeSort fun p q => decide (p.1 ≤ q.1)

theorem header_eq (m : TextTags) :
    m.header = String.ofList
      (List.intercalate ['&'] (m.sorted.map fun p => Form.encodePair (p.1, .text p.2))) := by
  have hsorted : m.fields.mergeSort (fun a b => decide (a.1 ≤ b.1)) =
      m.sorted.map fun p => (p.1, Value.text p.2) := by
    rw [sorted, List.map_mergeSort (s := fun a b : String × Value => decide (a.1 ≤ b.1))]
    · rfl
    · exact fun _ _ _ _ => rfl
  rw [header, Form.ofFields, hsorted, List.map_map]
  rfl

theorem sorted_spec (m : TextTags) : m.Sorted m.sorted := by
  have hperm := List.mergeSort_perm m.pairs fun p q => decide (p.1 ≤ q.1)
  refine ⟨hperm, ?_⟩
  have hle : m.sorted.Pairwise fun p q => p.1 ≤ q.1 := by
    refine (List.pairwise_mergeSort (fun p q r hpq hqr => ?trans) (fun p q => ?total) m.pairs).imp
      fun h => of_decide_eq_true h
    case trans => exact decide_eq_true (le_trans (of_decide_eq_true hpq) (of_decide_eq_true hqr))
    case total => simpa using le_total p.1 q.1
  -- no two names are the same, so the order is strict
  have hne : m.sorted.Pairwise fun p q => p.1 ≠ q.1 :=
    List.pairwise_map.mp (((hperm.map Prod.fst).nodup_iff).mpr m.distinct)
  exact hle.imp₂ (fun _ _ h hne => lt_of_le_of_ne h hne) hne

theorem Sorted.unique {pairs' : List (String × String)} (h : m.Sorted pairs)
    (h' : m'.Sorted pairs') (hm : m.pairs.Perm m'.pairs) : pairs = pairs' := by
  refine List.Perm.eq_of_pairwise (fun p q _ _ hpq hqp => ?_) h.ascending h'.ascending
    ((h.perm.trans hm).trans h'.perm.symm)
  exact absurd hqp (lt_asymm hpq)

theorem isWritable_texts (pairs : List (String × String)) :
    Value.areWritableFields (pairs.map fun p => (p.1, .text p.2)) = true := by
  induction pairs with
  | nil => rfl
  | cons p pairs ih => exact ih

theorem sorted_eq_nil_iff : m.sorted = [] ↔ m.pairs = [] := by
  rw [← List.length_eq_zero_iff, m.sorted_spec.perm.length_eq, List.length_eq_zero_iff]

theorem pairs?_header (h : m.pairs ≠ []) : Form.pairs? m.header = some m.sorted := by
  rw [header_eq, Form.pairs?_intercalate (sorted_eq_nil_iff.not.mpr h)]

theorem pairs?_header_of_nil (h : m.pairs = []) : Form.pairs? m.header = none := by
  rw [header_eq, sorted_eq_nil_iff.mpr h]
  simp [Form.pairs?, Form.pair?]

/-- The form depends on the tags, not on the order in which they were put, and says which they are. -/
theorem header_eq_iff : m.header = m'.header ↔ m.pairs.Perm m'.pairs := by
  constructor
  · intro heq
    have hread : Form.pairs? m.header = Form.pairs? m'.header := by rw [heq]
    by_cases hm : m.pairs = []
    · by_cases hm' : m'.pairs = []
      · rw [hm, hm']
      · rw [pairs?_header_of_nil hm, pairs?_header hm'] at hread
        cases hread
    · by_cases hm' : m'.pairs = []
      · rw [pairs?_header hm, pairs?_header_of_nil hm'] at hread
        cases hread
      · rw [pairs?_header hm, pairs?_header hm'] at hread
        have hsorted : m.sorted = m'.sorted := Option.some.inj hread
        exact m.sorted_spec.perm.symm.trans (hsorted ▸ m'.sorted_spec.perm)
  · intro hperm
    rw [header_eq, header_eq, m.sorted_spec.unique m'.sorted_spec hperm]

end TextTags

/-! ## Records -/

namespace TagMap

theorem insert_of_new {tags : TagMap} {key v : Value}
    (h : ∀ tag ∈ tags, tag.1.sameKey key = false) : tags.insert key v = tags ++ [(key, v)] := by
  have hany : (tags.any fun tag => tag.1.sameKey key) = false := by simpa using h
  rw [insert, hany]
  rfl

/-- Records of new and pairwise different texts are read one after the other. -/
theorem addRecords_recordsOfPairs {read pairs : List (String × String)}
    (h : ((read ++ pairs).map fun p => p.1).Nodup) :
    addRecords (ofPairs read) (recordsOfPairs pairs) = .ok (ofPairs (read ++ pairs)) := by
  induction pairs generalizing read with
  | nil => rw [List.append_nil]; rfl
  | cons p pairs ih =>
    have hnew : ∀ tag ∈ ofPairs read, tag.1.sameKey (.text p.1) = false := by
      intro tag htag
      obtain ⟨q, hq, rfl⟩ := List.mem_map.mp htag
      have hne : q.1 ≠ p.1 := by
        rw [List.map_append, List.nodup_append] at h
        exact h.2.2 q.1 (List.mem_map_of_mem hq) p.1 List.mem_cons_self
      simpa [Value.sameKey, Value.isKey, Value.key?] using hne
    have hinsert : (ofPairs read).insert (.text p.1) (.text p.2) = ofPairs (read ++ [p]) := by
      rw [insert_of_new hnew, ofPairs, ofPairs, List.map_append]
      rfl
    have hrest : addRecords (ofPairs (read ++ [p])) (recordsOfPairs pairs) =
        .ok (ofPairs (read ++ [p] ++ pairs)) := ih (by rwa [List.append_assoc])
    rw [List.append_assoc, ← hinsert] at hrest
    exact hrest

theorem ofAnswer_recordsOfPairs {pairs : List (String × String)} (hpairs : pairs ≠ [])
    (h : (pairs.map fun p => p.1).Nodup) :
    ofAnswer (.list (recordsOfPairs pairs)) = .ok (some (ofPairs pairs)) ∧
    ofAnswer (.object [("Tag", .list (recordsOfPairs pairs))]) = .ok (some (ofPairs pairs)) := by
  have hrecords : ofRecords (.list (recordsOfPairs pairs)) = .ok (ofPairs pairs) :=
    @addRecords_recordsOfPairs [] pairs h
  have htruthy : (Value.list (recordsOfPairs pairs)).isTruthy = true := by
    simpa [Value.isTruthy, recordsOfPairs] using hpairs
  constructor
  · simp only [ofAnswer, recordsOf, htruthy]
    rw [hrecords]
    rfl
  · have hobject : (Value.object [("Tag", .list (recordsOfPairs pairs))]).isTruthy = true := rfl
    have hget : Fields.get [("Tag", .list (recordsOfPairs pairs))] "Tag" =
        .list (recordsOfPairs pairs) := rfl
    simp only [ofAnswer, recordsOf, hobject, hget, htruthy]
    rw [hrecords]
    rfl

end TagMap

/-! ## Uploads -/

namespace Store

variable {σ : Type} {option : PutOption} {tag : Value}

theorem lookup_sent_of_ne {name other : String} (v : Value) (h : other ≠ name) :
    (sent name v).lookup other = none := by
  cases v <;> simp [sent, beq_eq_false_iff_ne.mpr h, List.lookup_cons]

theorem write_ok_iff {v : Value} : (∃ text, v.write = .ok text) ↔ v.isWritable = true := by
  unfold Value.write
  split <;> simp_all

theorem lengthText_ok_iff {size : Value} :
    (∃ length, lengthText size = .ok length) ↔
      ∃ positive, isPositive size = .ok positive ∧
        (positive = true → size.isWritable = true) := by
  rw [lengthText, Result.bind_ok_iff]
  refine exists_congr fun positive => and_congr_right fun _ => ?_
  cases positive with
  | false => simp [pure, Except.pure]
  | true => simp [Result.bind_ok_iff, write_ok_iff, pure, Except.pure]

theorem mapM_format_ok_iff {expires : Option Time.DateTime} :
    (∃ text, expires.mapM Time.HttpDate.format = .ok text) ↔
      ∀ t, expires = some t → ∃ text, Time.HttpDate.format t = .ok text := by
  cases expires with
  | none => simp [pure, Except.pure]
  | some t =>
    have hmap : (some t).mapM Time.HttpDate.format = (Time.HttpDate.format t).map some := by
      rw [Option.mapM_some]
      rfl
    rw [hmap, Result.map_ok_iff]
    simp

theorem putParameters_ok_iff (htag : taggingText option.tagging = .ok tag) :
    (∃ parameters, putParameters option = .ok parameters) ↔ option.IsWritable := by
  rw [putParameters, Result.bind_ok_iff]
  simp only [Result.bind_ok_iff, htag]
  rw [PutOption.IsWritable, ← mapM_format_ok_iff, ← lengthText_ok_iff]
  constructor
  · rintro ⟨expires, hexpires, length, hlength, -⟩
    exact ⟨⟨expires, hexpires⟩, length, hlength⟩
  · rintro ⟨⟨expires, hexpires⟩, length, hlength⟩
    exact ⟨expires, hexpires, length, hlength, tag, rfl, _, rfl⟩

theorem get?_putParameters {parameters : Fields} (h : putParameters option = .ok parameters)
    (htag : taggingText option.tagging = .ok tag) :
    Fields.get? parameters "Tagging" = (sent "Tagging" tag).lookup "Tagging" := by
  rw [putParameters, htag] at h
  cases hexpires : option.expires.mapM Time.HttpDate.format with
  | error e => rw [hexpires] at h; cases h
  | ok expires =>
    cases hlength : lengthText option.objectSize with
    | error e => rw [hexpires, hlength] at h; cases h
    | ok length =>
      rw [hexpires, hlength] at h
      cases h
      simp [Fields.get?, List.lookup_append, lookup_sent_of_ne]

theorem calls_putReader (s : Store σ) (key : Value) (content : ByteArray) (session : Session σ) :
    ((s.putReader key content option).eval session).2.calls =
      match putParameters option with
      | .ok parameters => session.calls.push (.putObject s.bucket key content parameters)
      | .error _ => session.calls := by
  rw [putReader, eval_bind, eval_ofResult]
  cases putParameters option with
  | error e => rfl
  | ok parameters =>
    have hcall := s.calls_during_call (.putObject s.bucket key content parameters) (.put key) session
    exact (calls_after_bind (fun _ => .pure _) session).trans hcall

theorem putReader_uploads (s : Store σ) (key : Value) (content : ByteArray)
    (htag : taggingText option.tagging = .ok tag) :
    s.Uploads key content option ((sent "Tagging" tag).lookup "Tagging")
      (s.putReader key content option) := by
  intro session
  rw [calls_putReader]
  cases hparameters : putParameters option with
  | ok parameters =>
    have hwritable : option.IsWritable := (putParameters_ok_iff htag).mp ⟨parameters, hparameters⟩
    exact ⟨fun _ => ⟨parameters, rfl, get?_putParameters hparameters htag⟩,
      fun hnot => absurd hwritable hnot⟩
  | error e =>
    refine ⟨fun hwritable => ?_, fun _ => rfl⟩
    obtain ⟨parameters, hok⟩ := (putParameters_ok_iff htag).mpr hwritable
    cases hparameters.symm.trans hok

theorem sendsTagging (s : Store σ) (htag : taggingText option.tagging = .ok tag) :
    s.SendsTagging option ((sent "Tagging" tag).lookup "Tagging") := by
  intro key content
  have hsized : taggingText (option.sized content).tagging = .ok tag := htag
  exact ⟨s.putReader_uploads key content hsized, s.putReader_uploads key content htag⟩

end Store

/-- Tags in texts are sent in their form. -/
theorem TextTags.taggingText_toValue {m : TextTags} (hm : m.pairs ≠ []) :
    Store.taggingText m.toValue = .ok (.text m.header) := by
  have htruthy : (Value.object m.fields).isTruthy = true := by
    simpa [fields, Value.isTruthy] using hm
  have hwritable : (Value.object m.fields).isWritable = true := isWritable_texts m.pairs
  simp only [Store.taggingText, toValue, htruthy, hwritable]
  rfl

/-- The form in which an upload sends tags is read back as the tags sorted by name, and so are the
records of these texts, alone or under `Tag`. It is the same form just for the same tags, in
whatever order they were put. Without tags nothing is sent. -/
theorem tags_written_are_read {σ : Type} (s : Store σ) (m : TextTags) (hm : m.pairs ≠ []) :
    (∀ option : PutOption, option.tagging = m.toValue →
      s.SendsTagging option (some (.text m.header))) ∧
    (∃ pairs, m.Sorted pairs ∧ Form.pairs? m.header = some pairs ∧
      TagMap.ofAnswer (.list (TagMap.recordsOfPairs pairs)) = .ok (some (TagMap.ofPairs pairs)) ∧
      TagMap.ofAnswer (.object [("Tag", .list (TagMap.recordsOfPairs pairs))]) =
        .ok (some (TagMap.ofPairs pairs))) ∧
    (∀ m' : TextTags, m.header = m'.header ↔ m.pairs.Perm m'.pairs) ∧
    ∀ option : PutOption, option.tagging = .null ∨ option.tagging = .object [] →
      s.SendsTagging option none := by
  refine ⟨fun option htags => ?sent, ⟨m.sorted, m.sorted_spec, TextTags.pairs?_header hm, ?read⟩,
    fun m' => TextTags.header_eq_iff, fun option htags => ?absent⟩
  case sent =>
    have htag : Store.taggingText option.tagging = .ok (.text m.header) := by
      rw [htags, TextTags.taggingText_toValue hm]
    exact s.sendsTagging htag
  case read =>
    refine TagMap.ofAnswer_recordsOfPairs (TextTags.sorted_eq_nil_iff.not.mpr hm) ?_
    exact ((m.sorted_spec.perm.map Prod.fst).nodup_iff).mpr m.distinct
  case absent =>
    have htag : Store.taggingText option.tagging = .ok .null := by
      rcases htags with h | h <;> rw [h] <;> rfl
    exact s.sendsTagging htag

/-- Tags with the characters that part a form, and with others that it escapes. -/
def TextTags.parted : TextTags where
  pairs := [("b&=", "1+1"), ("", "é%"), ("a b", "")]
  distinct := by decide

/-- A store whose service accepts whatever it is sent. -/
def Store.accepting : Store Unit where
  config := default
  endpoint := default
  service := { client := fun _ state => (.ok (.value .null), state) }
  debug := false

theorem tags_written_are_read_parted :
    TextTags.parted.pairs ≠ [] ∧
    Store.accepting.SendsTagging { tagging := TextTags.parted.toValue }
      (some (.text TextTags.parted.header)) ∧
    Form.pairs? TextTags.parted.header = some [("", "é%"), ("a b", ""), ("b&=", "1+1")] := by
  have hm : TextTags.parted.pairs ≠ [] := List.cons_ne_nil _ _
  obtain ⟨hsent, ⟨pairs, hsorted, hread, -⟩, -⟩ :=
    tags_written_are_read Store.accepting TextTags.parted hm
  have hparted : TextTags.parted.Sorted [("", "é%"), ("a b", ""), ("b&=", "1+1")] :=
    ⟨by decide, by decide⟩
  exact ⟨hm, hsent _ rfl, hparted.unique hsorted .rfl ▸ hread⟩

end BucketStore
