import BucketStore.Proofs.Store.Uploads
import BucketStore.Proofs.Text.Integers
import BucketStore.Store.Listing

/-!
# Sizes

A size in a text is the integer that the text is a spelling of, and zero if it is no spelling. So
the length that an upload sends is read back, and an object with a size is listed, however its size
is written.
-/

namespace BucketStore

open BucketStore.Action

namespace Payload

theorem size_of_spells {s : String} {n : Int} (h : Text.Spells s n) : size (.text s) = .ok n := by
  rw [size, Text.readInt?_eq_some_iff.mpr h]
  rfl

theorem size_of_not_spells {s : String} (h : ∀ n, ¬ Text.Spells s n) : size (.text s) = .ok 0 := by
  have hnone : Text.readInt? s = none :=
    Option.eq_none_iff_forall_ne_some.mpr fun n hn => h n (Text.readInt?_eq_some_iff.mp hn)
  rw [size, hnone]
  rfl

/-- The decimal digits of a number are read as that number. -/
theorem size_toString {n : Int} (hpos : 0 < n) (hn : n < 10 ^ Text.maxDigits) :
    size (.text (toString n)) = .ok n := by
  obtain ⟨k, rfl⟩ := Int.eq_ofNat_of_zero_le hpos.le
  have hread : Text.readInt? (toString k) = some (k : Int) :=
    Text.Numeral.readInt?_toString (by exact_mod_cast hn)
  change Except.ok ((Text.readInt? (toString k)).getD 0) = _
  rw [hread]
  rfl

end Payload

namespace Store

variable {σ : Type}

/-! ## The length of an upload -/

/-- What the call of an upload holds as its length. -/
theorem mem_arguments_length (s : Store σ) (key : Value) (content : ByteArray) (o : UploadOption)
    (v : Value) :
    ("ContentLength", v) ∈ (Call.putObject s.bucket key content
        (UploadOption.parameters o.texts)).arguments ↔
      ∃ text, o.lengthText? = some text ∧ v = .text text := by
  rw [(s.isUpload_parameters key content o).arguments]
  simp [UploadOption.texts, eq_comm]

theorem lengthText?_sized (o : UploadOption) (content : ByteArray) :
    (o.sized content).lengthText? =
      if 0 < o.objectSize.getD content.size then some (toString (o.objectSize.getD content.size))
      else none :=
  rfl

/-! ## Listed objects -/

/-- What a page tells of an object of a size that stands for no directory. -/
def sizedFile (fields : Fields) (n : Int) : Result FileInfo := do
  let lastModified ← Payload.listedTime (Fields.get fields "LastModified")
  let etag ← Payload.entityTag (Fields.get fields "ETag")
  return {
    key := (Fields.get? fields "Key").getD (.text ""), size := .int n, lastModified
    etag := .text etag }

theorem size_of_sizedFile {fields : Fields} {n : Int} {file : FileInfo}
    (h : sizedFile fields n = .ok file) : file.size = .int n := by
  rw [sizedFile] at h
  cases htime : Payload.listedTime (Fields.get fields "LastModified") with
  | error e => rw [htime] at h; cases h
  | ok lastModified =>
    cases hetag : Payload.entityTag (Fields.get fields "ETag") with
    | error e => rw [htime, hetag] at h; cases h
    | ok etag => rw [htime, hetag] at h; cases h; rfl

/-- An object that is not empty is never taken for a directory. -/
theorem listedFile_of_size (s : Store σ) {fields : Fields} {n : Int}
    (hsize : Payload.size (Fields.get fields "Size") = .ok n) (hn : n ≠ 0) :
    s.listedFile (.object fields) = Action.ofResult ((sizedFile fields n).map some) := by
  have hmarker : isDirectoryMarker ((Fields.get? fields "Key").getD (.text "")) n = .ok false := by
    unfold isDirectoryMarker
    rw [if_pos hn]
  simp only [listedFile, hsize]
  change (Action.ofResult (isDirectoryMarker _ n) >>= _) = _
  rw [hmarker, sizedFile]
  cases Payload.listedTime (Fields.get fields "LastModified") with
  | error e => rfl
  | ok lastModified => cases Payload.entityTag (Fields.get fields "ETag") <;> rfl

/-- A text reads as the size that it is a spelling of, and as zero if it is none. The length that
an upload sends reads as the size of the content, and an object whose size is a spelling of another
number than zero is never taken for a directory. -/
theorem sizes_as_spelled (s : Store σ) :
    (∀ text n, Text.Spells text n → Payload.size (.text text) = .ok n) ∧
    (∀ text, (∀ n, ¬ Text.Spells text n) → Payload.size (.text text) = .ok 0) ∧
    (∀ (key : Value) (content : ByteArray) (o : UploadOption), o.Renders →
      o.objectSize.getD content.size < 10 ^ Text.maxDigits →
      ∃ c, (∀ session : Session σ,
          ((s.put key content o.toPutOption).eval session).2.calls = session.calls.push c) ∧
        (0 < o.objectSize.getD content.size → ∃ v, ("ContentLength", v) ∈ c.arguments) ∧
        ∀ v, ("ContentLength", v) ∈ c.arguments →
          Payload.size v = .ok (o.objectSize.getD content.size)) ∧
    ∀ (fields : Fields) (text : String) (n : Int), Fields.get fields "Size" = .text text →
      Text.Spells text n → n ≠ 0 →
      ∃ r : Result FileInfo, (∀ file, r = .ok file → file.size = .int n) ∧
        ∀ session, (s.listedFile (.object fields)).eval session = (r.map some, session) := by
  refine ⟨fun _ _ => Payload.size_of_spells, fun _ => Payload.size_of_not_spells, ?sent, ?listed⟩
  case sent =>
    intro key content o hrenders hsize
    have hparameters : putParameters (o.sized content).toPutOption =
        .ok (UploadOption.parameters (o.sized content).texts) :=
      UploadOption.putParameters_eq hrenders (UploadOption.fits_sized hsize)
    refine ⟨.putObject s.bucket key content (UploadOption.parameters (o.sized content).texts),
      fun session => ?calls, fun hpos => ?there, fun v hv => ?read⟩
    case calls => rw [put_eq_putReader, calls_putReader, hparameters]
    case there =>
      have htext : (o.sized content).lengthText? =
          some (toString (o.objectSize.getD content.size)) := by
        rw [lengthText?_sized, if_pos hpos]
      exact ⟨_, (mem_arguments_length s key content (o.sized content) _).mpr ⟨_, htext, rfl⟩⟩
    case read =>
      obtain ⟨text, htext, rfl⟩ := (mem_arguments_length s key content (o.sized content) v).mp hv
      rw [lengthText?_sized, Option.ite_none_right_eq_some] at htext
      obtain ⟨hpos, htext⟩ := htext
      cases htext
      exact Payload.size_toString hpos hsize
  case listed =>
    intro fields text n htext hspells hn
    have hsize : Payload.size (Fields.get fields "Size") = .ok n := by
      rw [htext, Payload.size_of_spells hspells]
    refine ⟨sizedFile fields n, fun _ => size_of_sizedFile, fun session => ?_⟩
    rw [s.listedFile_of_size hsize hn, eval_ofResult]

/-- A minus sign, zeros of two scripts, an underscore and a no-break space. -/
def twelveBelowZero : String := "\u00a0-0\u0660_\u0661\u0968\n"

theorem spells_twelveBelowZero : Text.Spells twelveBelowZero (-12) :=
  Text.readInt?_eq_some_iff.mp (by decide +kernel)

/-- A size beyond 64 bits. -/
def largeOption : UploadOption where
  objectSize := some (10 ^ 20)

theorem sizes_as_spelled_below_zero :
    Text.Spells twelveBelowZero (-12) ∧ Payload.size (.text twelveBelowZero) = .ok (-12) ∧
    Payload.size (.text "1__2") = .ok 0 ∧
    (∃ c, ((accepting.put (.text "a.txt") "abc".toUTF8 largeOption.toPutOption).eval
        { state := () }).2.calls = #[c] ∧
      ∃ v, ("ContentLength", v) ∈ c.arguments ∧ Payload.size v = .ok (10 ^ 20)) ∧
    ∃ r : Result FileInfo, ∀ session, (accepting.listedFile
      (.object [("Key", .text "a/"), ("Size", .text twelveBelowZero)])).eval session =
        (r.map some, session) := by
  have hvalue : largeOption.objectSize.getD ("abc".toUTF8.size : Int) = 10 ^ 20 := rfl
  have hsize : largeOption.objectSize.getD ("abc".toUTF8.size : Int) < 10 ^ Text.maxDigits := by
    rw [hvalue]
    exact pow_lt_pow_right₀ (by decide) (by decide)
  have hrenders : largeOption.Renders := by
    rintro t ⟨⟩
  have hdouble : ∀ n, ¬ Text.Spells "1__2" n := by
    intro n h
    have hnone : Text.readInt? "1__2" = none := by decide +kernel
    rw [Text.readInt?_eq_some_iff.mpr h] at hnone
    cases hnone
  obtain ⟨hreads, hzero, hsent, hlisted⟩ := accepting.sizes_as_spelled
  obtain ⟨c, hcalls, hthere, hlength⟩ :=
    hsent (.text "a.txt") "abc".toUTF8 largeOption hrenders hsize
  rw [hvalue] at hthere hlength
  obtain ⟨r, -, hr⟩ := hlisted [("Key", .text "a/"), ("Size", .text twelveBelowZero)] _ _ rfl
    spells_twelveBelowZero (by decide)
  obtain ⟨v, hv⟩ := hthere (by decide)
  exact ⟨spells_twelveBelowZero, hreads _ _ spells_twelveBelowZero, hzero _ hdouble,
    ⟨c, hcalls { state := () }, v, hv, hlength v hv⟩, r, hr⟩

end Store

end BucketStore
