import BucketStore.Proofs.Store.Guarded
import BucketStore.Proofs.Store.Lemmas.Contains

/-!
# Reading answers

Each reader of an answer succeeds just on the shapes that can be read, and fails on the others with
a misreading.
-/

namespace BucketStore

theorem Result.bind_ok_iff {α β : Type} {r : Result α} {next : α → Result β} :
    (∃ b, r >>= next = .ok b) ↔ ∃ a, r = .ok a ∧ ∃ b, next a = .ok b := by
  cases r with
  | ok a => exact ⟨fun h => ⟨a, rfl, h⟩, fun ⟨_, heq, h⟩ => by cases heq; exact h⟩
  | error e => exact ⟨nofun, nofun⟩

theorem Result.map_ok_iff {α β : Type} {r : Result α} {f : α → β} :
    (∃ b, r.map f = .ok b) ↔ ∃ a, r = .ok a := by
  cases r with
  | ok a => exact ⟨fun _ => ⟨a, rfl⟩, fun _ => ⟨f a, rfl⟩⟩
  | error e => exact ⟨nofun, nofun⟩

/-! ## Values -/

namespace Payload

theorem answerFields_ok_iff {v : Value} {fields : Fields} :
    answerFields v = .ok fields ↔ HasFields v fields := by
  constructor
  · intro h
    unfold answerFields at h
    split at h
    · rename_i habsent
      cases h
      exact .absent (by simpa using habsent)
    · split at h
      · cases h
        exact .object fields
      · cases h
  · intro h
    cases h with
    | absent habsent => exact if_pos (by simp [habsent])
    | object fields => cases fields <;> rfl

theorem size_ok_iff {v : Value} : (∃ n, size v = .ok n) ↔ SizeReads v := by
  cases v with
  | real x =>
      simp only [size, SizeReads]
      cases hnan : x.isNaN <;> cases hfinite : x.isFinite <;> simp [hnan, hfinite]
  | _ => simp [size, SizeReads]

theorem timeBy_ok_iff {read : String → Result Time.DateTime} {v : Value} :
    (∃ t, timeBy read v = .ok t) ↔ TimeReads read v := by
  cases habsent : v.isTruthy with
  | false => simp [timeBy, TimeReads, habsent]
  | true => cases v <;> simp [timeBy, TimeReads, habsent]

theorem entityTag_ok_iff {v : Value} : (∃ s, entityTag v = .ok s) ↔ TextReads v := by
  cases habsent : v.isTruthy with
  | false => simp [entityTag, Value.orElse, TextReads, habsent]
  | true => cases v <;> simp [entityTag, Value.orElse, TextReads, habsent]

end Payload

/-! ## Tag sets -/

namespace TagMap

theorem ofRecord_ok_iff {v : Value} : (∃ tag, ofRecord v = .ok tag) ↔ RecordReads v := by
  cases v with
  | object fields =>
      simp only [ofRecord, RecordReads]
      cases hfield : Fields.get? fields "Key" with
      | none => simp [hfield]
      | some key => cases hkey : key.isKey <;> simp [hfield, hkey]
  | _ => simp [ofRecord, RecordReads]

theorem addRecords_ok_iff {tags : TagMap} {records : List Value} :
    (∃ all, addRecords tags records = .ok all) ↔ ∀ record ∈ records, RecordReads record := by
  induction records generalizing tags with
  | nil => simp [addRecords]
  | cons record records ih =>
      rw [addRecords, Result.bind_ok_iff, List.forall_mem_cons, ← ofRecord_ok_iff]
      constructor
      · rintro ⟨tag, htag, hrest⟩
        exact ⟨⟨tag, htag⟩, ih.mp hrest⟩
      · rintro ⟨⟨tag, htag⟩, hrest⟩
        exact ⟨tag, htag, ih.mpr hrest⟩

theorem ofRecords_ok_iff {v : Value} : (∃ tags, ofRecords v = .ok tags) ↔
    ∃ records, v = .list records ∧ ∀ record ∈ records, RecordReads record := by
  cases v with
  | list records => simp [ofRecords, addRecords_ok_iff]
  | _ => simp [ofRecords]

theorem ofAnswer_ok_iff {v : Value} : (∃ tags, ofAnswer v = .ok tags) ↔ SetReads v := by
  cases habsent : v.isTruthy with
  | false => simp [ofAnswer, SetReads, habsent]
  | true =>
      cases hnone : (recordsOf v).isTruthy with
      | false => simp [ofAnswer, SetReads, habsent, hnone]
      | true =>
          have hread : ofAnswer v = (ofRecords (recordsOf v)).map some := by
            simp [ofAnswer, habsent, hnone]
          rw [hread, Result.map_ok_iff, ofRecords_ok_iff]
          simp [SetReads, habsent, hnone]

end TagMap

/-! ## Pages and headers -/

namespace Store

theorem ofHeaders_ok_iff {key v : Value} :
    (∃ file, ofHeaders key v = .ok file) ↔ HeadersRead v := by
  simp only [ofHeaders, Result.bind_ok_iff, HeadersRead, ← Payload.answerFields_ok_iff,
    ← Payload.size_ok_iff, ← Payload.timeBy_ok_iff, ← Payload.entityTag_ok_iff]
  constructor
  · rintro ⟨fields, hfields, n, hn, t, ht, etag, hetag, -⟩
    exact ⟨fields, hfields, ⟨n, hn⟩, ⟨t, ht⟩, etag, hetag⟩
  · rintro ⟨fields, hfields, ⟨n, hn⟩, ⟨t, ht⟩, etag, hetag⟩
    exact ⟨fields, hfields, n, hn, t, ht, etag, hetag, _, rfl⟩

theorem pageObjects_ok_iff {v : Value} {objects : List Value} :
    pageObjects v = .ok objects ↔ Holds v objects := by
  constructor
  · intro h
    unfold pageObjects at h
    split at h
    · rename_i habsent
      cases h
      exact .absent (by simpa using habsent)
    · rename_i hpresent
      split at h
      · cases h
        exact .list objects
      · cases h
        refine .single fun hempty => hpresent ?_
        rw [hempty]
        rfl
      · cases h
      · cases h
  · intro h
    cases h with
    | absent habsent => exact if_pos (by simp [habsent])
    | list objects => cases objects <;> rfl
    | @single fields hne =>
        cases fields with
        | nil => exact absurd rfl hne
        | cons field fields => rfl

theorem isDirectoryMarker_ok_iff {key : Value} {n : Int} {isMarker : Bool} :
    isDirectoryMarker key n = .ok isMarker ↔
      n ≠ 0 ∧ isMarker = false ∨
        n = 0 ∧ ∃ s, key = .text s ∧ isMarker = (s.toList.getLast? == some '/') := by
  by_cases hn : n = 0
  · cases key <;> simp [isDirectoryMarker, hn, eq_comm]
  · simp [isDirectoryMarker, hn, eq_comm]

/-- An object is read by its size, and unless it stands for a directory by its time and its tag. -/
theorem objectReads_iff {fields : Fields} :
    ObjectReads (.object fields) ↔
      ∃ n, Payload.size (Fields.get fields "Size") = .ok n ∧
        ∃ isMarker,
          isDirectoryMarker ((Fields.get? fields "Key").getD (.text "")) n = .ok isMarker ∧
          (isMarker = false →
            ∃ t, Payload.listedTime (Fields.get fields "LastModified") = .ok t ∧
              ∃ etag, Payload.entityTag (Fields.get fields "ETag") = .ok etag) := by
  constructor
  · intro h
    cases h with
    | directory hsize hkey hslash =>
        refine ⟨0, hsize, true, isDirectoryMarker_ok_iff.mpr (.inr ⟨rfl, _, hkey, ?_⟩), nofun⟩
        simp [hslash]
    | file hsize hkey htime htag =>
        obtain ⟨n, hn⟩ := Payload.size_ok_iff.mpr hsize
        have hrest : ∃ t, Payload.listedTime (Fields.get fields "LastModified") = .ok t ∧
            ∃ etag, Payload.entityTag (Fields.get fields "ETag") = .ok etag := by
          obtain ⟨t, ht⟩ := Payload.timeBy_ok_iff.mpr htime
          exact ⟨t, ht, Payload.entityTag_ok_iff.mpr htag⟩
        by_cases hzero : n = 0
        · obtain ⟨key, hkey⟩ := hkey (by rw [hn, hzero])
          exact ⟨n, hn, _, isDirectoryMarker_ok_iff.mpr (.inr ⟨hzero, key, hkey, rfl⟩),
            fun _ => hrest⟩
        · exact ⟨n, hn, false, isDirectoryMarker_ok_iff.mpr (.inl ⟨hzero, rfl⟩), fun _ => hrest⟩
  · rintro ⟨n, hn, isMarker, hmarker, hrest⟩
    have hkey := isDirectoryMarker_ok_iff.mp hmarker
    cases isMarker with
    | true =>
        obtain ⟨-, hnone⟩ | ⟨rfl, key, hkey, hslash⟩ := hkey
        · cases hnone
        · exact .directory hn hkey (by simpa using hslash.symm)
    | false =>
        obtain ⟨t, ht, htag⟩ := hrest rfl
        refine .file (Payload.size_ok_iff.mp ⟨n, hn⟩) ?_ (Payload.timeBy_ok_iff.mp ⟨t, ht⟩)
          (Payload.entityTag_ok_iff.mp htag)
        intro hzero
        obtain ⟨hne, -⟩ | ⟨-, key, hkey, -⟩ := hkey
        · rw [hn] at hzero
          cases hzero
          exact absurd rfl hne
        · exact ⟨key, hkey⟩

/-! ## Misreadings -/

namespace Misreads

theorem map {α β : Type} {r : Result α} (h : Misreads r) (f : α → β) : Misreads (r.map f) := by
  cases r with
  | ok a => exact ok (f a)
  | error e => exact error (h e rfl)

theorem ofRecord (v : Value) : Misreads (TagMap.ofRecord v) := by
  unfold TagMap.ofRecord
  split
  · split
    · exact fault (by decide)
    · split
      · exact ok _
      · exact fault (by decide)
  · exact fault (by decide)

theorem addRecords (tags : TagMap) (records : List Value) :
    Misreads (TagMap.addRecords tags records) := by
  induction records generalizing tags with
  | nil => exact ok tags
  | cons record records ih => exact (ofRecord record).bind fun _ => ih _

theorem ofAnswer (v : Value) : Misreads (TagMap.ofAnswer v) := by
  unfold TagMap.ofAnswer
  split
  · exact ok none
  · simp only
    split
    · exact ok none
    · refine Misreads.map ?_ some
      unfold TagMap.ofRecords
      split
      · exact addRecords [] _
      · exact fault (by decide)

theorem pageObjects (v : Value) : Misreads (pageObjects v) := by
  unfold Store.pageObjects
  split
  · exact ok []
  · split
    · exact ok _
    · exact ok _
    · exact fault (by decide)
    · exact fault (by decide)

theorem isDirectoryMarker (key : Value) (size : Int) : Misreads (isDirectoryMarker key size) := by
  unfold Store.isDirectoryMarker
  split
  · exact ok false
  · split
    · exact ok _
    · exact fault (by decide)

theorem listedTime (v : Value) : Misreads (Payload.listedTime v) := by
  unfold Payload.listedTime Payload.timeBy
  split
  · exact ok _
  · split
    · simp only [Time.Timestamp.parse]
      split
      · exact ok _
      · exact parse _
    · exact fault (by decide)

theorem isPositive (v : Value) : Misreads (isPositive v) := by
  unfold Store.isPositive
  split
  · exact ok false
  · cases v.isPositive? with
    | none => exact fault (by decide)
    | some b => exact ok b

theorem urlLifetime {σ : Type} (s : Store σ) (option : GetOption) :
    Misreads (s.urlLifetime option) :=
  (isPositive _).bind fun _ => ok _

end Misreads

end Store

end BucketStore
