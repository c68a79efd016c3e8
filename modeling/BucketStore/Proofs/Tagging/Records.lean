import BucketStore.Proofs.Tagging.Form
import Mathlib.Data.List.Nodup

/-!
# Records of tags

What a service answers for the tags of an object is a list of records, alone or under `Tag`, or a
single record in place of a list of one. However it is answered, it reads as the keys that occur,
each with the value of its last record; so records of different keys may change places.
-/

namespace BucketStore

/-! ## Records -/

/-- A record of a tag: a text for a key, and a text for a value if it has one. Whatever else the
record holds is passed over. -/
structure TagRecord where
  fields : Fields
  key : String
  value? : Option String
  key_eq : Fields.get? fields "Key" = some (.text key)
  value_eq : Fields.get? fields "Value" = value?.map .text

namespace TagRecord

def toValue (r : TagRecord) : Value :=
  .object r.fields

/-- A record without a value has an empty one. -/
def value (r : TagRecord) : String :=
  r.value?.getD ""

def ofKey (records : List TagRecord) (key : String) : List TagRecord :=
  records.filter fun r => r.key == key

/-- The value of the last record of a key, if the key occurs. -/
def lastValue? (records : List TagRecord) (key : String) : Option String :=
  (ofKey records key).getLast?.map value

/-- The records in another order, in which those of one key keep theirs. -/
structure Reordered (records records' : List TagRecord) : Prop where
  perm : records.Perm records'
  stable : ∀ key, ofKey records key = ofKey records' key

/-- The answers that hold these records: the list itself, the list under `Tag`, and a single record
under `Tag`. -/
inductive Answers (records : List TagRecord) : Value → Prop
  | list : Answers records (.list (records.map toValue))
  | tagged {fields : Fields} : Fields.get fields "Tag" = .list (records.map toValue) →
      Answers records (.object fields)
  | single {fields : Fields} {r : TagRecord} : records = [r] → Fields.get fields "Tag" = r.toValue →
      Answers records (.object fields)

theorem lastValue?_cons (r : TagRecord) (records : List TagRecord) (key : String) :
    lastValue? (r :: records) key =
      (lastValue? records key).or (if r.key = key then some r.value else none) := by
  by_cases h : r.key = key
  · have hkey : ofKey (r :: records) key = r :: ofKey records key :=
      List.filter_cons_of_pos (beq_iff_eq.mpr h)
    rw [lastValue?, hkey, lastValue?, if_pos h, List.getLast?_cons]
    cases (ofKey records key).getLast? <;> rfl
  · have hkey : ofKey (r :: records) key = ofKey records key :=
      List.filter_cons_of_neg (by simpa using h)
    rw [lastValue?, hkey, if_neg h, Option.or_none, lastValue?]

end TagRecord

/-! ## Setting tags one after the other -/

namespace TextTags

/-- Sets the value of a key, in its place if the key occurs and at the end otherwise. -/
def putPair (pairs : List (String × String)) (key value : String) : List (String × String) :=
  if key ∈ pairs.map Prod.fst then pairs.map fun p => if p.1 = key then (key, value) else p
  else pairs ++ [(key, value)]

theorem nodup_putPair {pairs : List (String × String)} (h : (pairs.map Prod.fst).Nodup)
    (key value : String) : ((putPair pairs key value).map Prod.fst).Nodup := by
  rw [putPair]
  split
  · have hkeys : (pairs.map fun p => if p.1 = key then (key, value) else p).map Prod.fst =
        pairs.map Prod.fst := by
      rw [List.map_map]
      refine List.map_congr_left fun p _ => ?_
      by_cases hp : p.1 = key <;> simp [hp]
    rwa [hkeys]
  · rename_i hnew
    rw [List.map_append]
    exact h.append (List.nodup_singleton key) (List.disjoint_singleton.mpr hnew)

def put (m : TextTags) (key value : String) : TextTags :=
  ⟨putPair m.pairs key value, nodup_putPair m.distinct key value⟩

theorem pairs_put (m : TextTags) (key value : String) :
    (m.put key value).pairs = putPair m.pairs key value :=
  rfl

theorem mem_put {m : TextTags} {key value key' value' : String} :
    (key', value') ∈ (m.put key value).pairs ↔
      if key' = key then value' = value else (key', value') ∈ m.pairs := by
  rw [pairs_put, putPair]
  split
  · rename_i hkey
    obtain ⟨⟨_, old⟩, hold, rfl⟩ := List.mem_map.mp hkey
    grind
  · rename_i hnew
    have hother : ∀ v, (key, v) ∉ m.pairs := fun v hv => hnew (List.mem_map_of_mem hv)
    grind

/-- Sets the tags of records, one after the other. -/
def putAll (m : TextTags) (records : List TagRecord) : TextTags :=
  records.foldl (fun m r => m.put r.key r.value) m

/-- The tags that records leave: their own, and those of the other keys as they were. -/
theorem mem_putAll {records : List TagRecord} {m : TextTags} {key value : String} :
    (key, value) ∈ (m.putAll records).pairs ↔
      match TagRecord.lastValue? records key with
      | some last => value = last
      | none => (key, value) ∈ m.pairs := by
  induction records generalizing m with
  | nil => rfl
  | cons r records ih =>
    rw [putAll, List.foldl_cons, ← putAll, ih, TagRecord.lastValue?_cons]
    cases TagRecord.lastValue? records key with
    | some last => rfl
    | none =>
      rw [mem_put, Option.none_or]
      by_cases h : r.key = key
      · simp [h]
      · simp [h, Ne.symm h]

/-- Tags are determined by what stands under each key. -/
theorem perm_of_mem_iff {m m' : TextTags}
    (h : ∀ key value, (key, value) ∈ m.pairs ↔ (key, value) ∈ m'.pairs) : m.pairs.Perm m'.pairs :=
  (List.perm_ext_iff_of_nodup m.distinct.of_map m'.distinct.of_map).mpr fun p => h p.1 p.2

def empty : TextTags where
  pairs := []
  distinct := List.nodup_nil

end TextTags

/-! ## Reading records -/

namespace TagMap

theorem ofRecord_toValue (r : TagRecord) :
    ofRecord r.toValue = .ok (.text r.key, .text r.value) := by
  rw [TagRecord.toValue, ofRecord, r.key_eq, r.value_eq, TagRecord.value]
  cases r.value? <;> rfl

theorem insert_ofPairs (m : TextTags) (key value : String) :
    (ofPairs m.pairs).insert (.text key) (.text value) = ofPairs (m.put key value).pairs := by
  have hany : ((ofPairs m.pairs).any fun tag => tag.1.sameKey (.text key)) =
      decide (key ∈ m.pairs.map Prod.fst) := by
    rw [ofPairs, List.any_map, List.any_eq]
    simp [Value.sameKey_text]
  rw [insert, hany, TextTags.pairs_put, TextTags.putPair]
  by_cases hkey : key ∈ m.pairs.map Prod.fst
  · rw [decide_eq_true hkey, if_pos rfl, if_pos hkey, ofPairs, ofPairs, List.map_map, List.map_map]
    refine List.map_congr_left fun p _ => ?_
    by_cases hp : p.1 = key <;> simp [Value.sameKey_text, hp]
  · rw [decide_eq_false hkey, if_neg hkey, ofPairs, ofPairs, List.map_append]
    rfl

theorem addRecords_toValue (m : TextTags) (records : List TagRecord) :
    addRecords (ofPairs m.pairs) (records.map TagRecord.toValue) =
      .ok (ofPairs (m.putAll records).pairs) := by
  induction records generalizing m with
  | nil => rfl
  | cons r records ih =>
    rw [List.map_cons, addRecords, ofRecord_toValue]
    change addRecords ((ofPairs m.pairs).insert (.text r.key) (.text r.value)) _ = _
    rw [insert_ofPairs, ih]
    rfl

theorem ofRecords_toValue (records : List TagRecord) :
    ofRecords (.list (records.map TagRecord.toValue)) =
      .ok (ofPairs (TextTags.empty.putAll records).pairs) :=
  addRecords_toValue TextTags.empty records

theorem recordsOf_of_answers {records : List TagRecord} {answer : Value}
    (h : TagRecord.Answers records answer) :
    recordsOf answer = .list (records.map TagRecord.toValue) := by
  cases h with
  | list => rfl
  | tagged htag => simp only [recordsOf, htag]
  | single hone htag =>
    subst hone
    simp only [recordsOf, htag]
    rfl

theorem isTruthy_of_answers {records : List TagRecord} (hne : records ≠ []) {answer : Value}
    (h : TagRecord.Answers records answer) : answer.isTruthy = true := by
  have hfields : ∀ {fields : Fields} {v : Value}, Fields.get fields "Tag" = v → v ≠ .null →
      (Value.object fields).isTruthy = true := by
    intro fields v hget hv
    cases fields with
    | nil => exact absurd hget.symm hv
    | cons field fields => rfl
  cases h with
  | list => simpa [Value.isTruthy] using hne
  | tagged htag => exact hfields htag nofun
  | single _ htag => exact hfields htag nofun

theorem ofAnswer_of_answers {records : List TagRecord} (hne : records ≠ []) {answer : Value}
    (h : TagRecord.Answers records answer) :
    ofAnswer answer = .ok (some (ofPairs (TextTags.empty.putAll records).pairs)) := by
  have hlist : (Value.list (records.map TagRecord.toValue)).isTruthy = true :=
    isTruthy_of_answers hne .list
  simp only [ofAnswer, isTruthy_of_answers hne h, recordsOf_of_answers h, hlist]
  rw [ofRecords_toValue]
  rfl

/-- However records are answered, they read as the same tags: the keys that occur, each with the
value of its last record. In another order they read as the same tags if those of one key keep
theirs. -/
theorem ofAnswer_records {records : List TagRecord} (hne : records ≠ []) :
    ∃ m : TextTags,
      (∀ answer, TagRecord.Answers records answer →
        ofAnswer answer = .ok (some (ofPairs m.pairs))) ∧
      (∀ key value, (key, value) ∈ m.pairs ↔ TagRecord.lastValue? records key = some value) ∧
      ∀ records', TagRecord.Reordered records records' →
        ∃ m' : TextTags, m.pairs.Perm m'.pairs ∧
          ∀ answer, TagRecord.Answers records' answer →
            ofAnswer answer = .ok (some (ofPairs m'.pairs)) := by
  have hmem : ∀ (rs : List TagRecord) (key value : String),
      (key, value) ∈ (TextTags.empty.putAll rs).pairs ↔
        TagRecord.lastValue? rs key = some value := by
    intro rs key value
    rw [TextTags.mem_putAll]
    cases TagRecord.lastValue? rs key with
    | none => simp [TextTags.empty]
    | some last => simp [eq_comm]
  refine ⟨TextTags.empty.putAll records, fun answer h => ofAnswer_of_answers hne h, hmem records,
    fun records' hreordered => ⟨TextTags.empty.putAll records', ?perm, fun answer h => ?read⟩⟩
  case perm =>
    refine TextTags.perm_of_mem_iff fun key value => ?_
    rw [hmem, hmem, TagRecord.lastValue?, hreordered.stable key, ← TagRecord.lastValue?]
  case read =>
    refine ofAnswer_of_answers (fun hnil => hne ?_) h
    exact List.perm_nil.mp (hnil ▸ hreordered.perm)

/-- Two records of one key, and between them one without a value. -/
def repeatedRecords : List TagRecord :=
  [⟨[("Key", .text "a"), ("Value", .text "1")], "a", some "1", rfl, rfl⟩,
    ⟨[("Key", .text "b")], "b", none, rfl, rfl⟩,
    ⟨[("Value", .text "2"), ("Key", .text "a")], "a", some "2", rfl, rfl⟩]

theorem ofAnswer_records_repeated :
    ∃ m : TextTags,
      ofAnswer (.list (repeatedRecords.map TagRecord.toValue)) = .ok (some (ofPairs m.pairs)) ∧
      ("a", "2") ∈ m.pairs ∧ ("b", "") ∈ m.pairs ∧ ("a", "1") ∉ m.pairs := by
  have hne : repeatedRecords ≠ [] := List.cons_ne_nil _ _
  obtain ⟨m, hread, hmem, -⟩ := ofAnswer_records hne
  refine ⟨m, hread _ .list, (hmem _ _).mpr rfl, (hmem _ _).mpr rfl, fun hfirst => ?_⟩
  exact absurd ((hmem _ _).mp hfirst) (by decide)

end TagMap

end BucketStore
