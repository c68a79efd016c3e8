import BucketStore.Proofs.Tagging.Theorems
import Mathlib.Algebra.Order.Ring.Int

/-!
# What an upload sends

An upload makes one call. Besides the bucket, the key and the content it sends what its option
states: an absent field is not sent and an empty text is, while no length is sent unless it is
positive, and no tags unless there are some. A length of too many digits cannot be sent, and nothing
else is then.
-/

namespace BucketStore

/-! ## Options -/

/-- The options of an upload, each of its own type. -/
structure UploadOption where
  contentType : Option String := none
  contentEncoding : Option String := none
  contentDisposition : Option String := none
  contentLanguage : Option String := none
  expires : Option Time.DateTime := none
  objectSize : Option Int := none
  tagging : Option TextTags := none

namespace UploadOption

def toPutOption (o : UploadOption) : PutOption where
  contentType := o.contentType.elim .null .text
  contentEncoding := o.contentEncoding.elim .null .text
  contentDisposition := o.contentDisposition.elim .null .text
  contentLanguage := o.contentLanguage.elim .null .text
  expires := o.expires
  objectSize := o.objectSize.elim .null .int
  tagging := o.tagging.elim .null TextTags.toValue

/-- The HTTP date of the time. -/
def expiresText? (o : UploadOption) : Option String :=
  o.expires.bind fun t => (Time.HttpDate.format t).toOption

/-- The decimal digits of a positive size. -/
def lengthText? (o : UploadOption) : Option String :=
  o.objectSize.bind fun size => if 0 < size then some (toString size) else none

/-- The form of the tags if there are any. -/
def tagsText? (o : UploadOption) : Option String :=
  o.tagging.bind fun m => if m.pairs = [] then none else some m.header

/-- What is sent under each name, if it is sent. -/
def texts (o : UploadOption) : List (String × Option String) :=
  [("ContentType", o.contentType),
    ("ContentEncoding", o.contentEncoding),
    ("ContentDisposition", o.contentDisposition),
    ("ContentLanguage", o.contentLanguage),
    ("Expires", o.expiresText?),
    ("ContentLength", o.lengthText?),
    ("Tagging", o.tagsText?)]

/-- The option with the size of the content unless it states one. -/
def sized (o : UploadOption) (content : ByteArray) : UploadOption :=
  { o with objectSize := some (o.objectSize.getD content.size) }

/-- The time of the option can be written. -/
def Renders (o : UploadOption) : Prop :=
  ∀ t, o.expires = some t → ∃ text, Time.HttpDate.format t = .ok text

/-- The size of the option, if it states one, has no more digits than can be written. -/
def Fits (o : UploadOption) : Prop :=
  ∀ size, o.objectSize = some size → size < 10 ^ Text.maxDigits

/-- The same option, up to the order in which tags were put and the offset from universal time at
which an instant is stated. -/
structure Alike (o o' : UploadOption) : Prop where
  contentType : o.contentType = o'.contentType
  contentEncoding : o.contentEncoding = o'.contentEncoding
  contentDisposition : o.contentDisposition = o'.contentDisposition
  contentLanguage : o.contentLanguage = o'.contentLanguage
  expires : o.expires.map Time.DateTime.instant = o'.expires.map Time.DateTime.instant
  objectSize : o.objectSize = o'.objectSize
  tagging : Option.Rel (fun m m' => m.pairs.Perm m'.pairs) o.tagging o'.tagging

end UploadOption

/-- The call uploads the content under the key, and sends what the option states, and nothing
else. -/
structure Store.IsUpload {σ : Type} (s : Store σ) (key : Value) (content : ByteArray)
    (o : UploadOption) (c : Call) : Prop where
  method : c.method = "put_object"
  body : c.body? = some content
  distinct : (c.arguments.map Prod.fst).Nodup
  arguments : ∀ field, field ∈ c.arguments ↔
    field = ("Bucket", .text s.bucket) ∨ field = ("Key", key) ∨
      ∃ name text, (name, some text) ∈ o.texts ∧ field = (name, .text text)

namespace UploadOption

/-- The parameters of these texts. -/
def parameters (texts : List (String × Option String)) : Fields :=
  texts.filterMap fun p => p.2.map fun text => (p.1, .text text)

theorem mem_parameters {texts : List (String × Option String)} {field : String × Value} :
    field ∈ parameters texts ↔
      ∃ name text, (name, some text) ∈ texts ∧ field = (name, .text text) := by
  simp only [parameters, List.mem_filterMap, Option.map_eq_some_iff]
  constructor
  · rintro ⟨⟨name, _⟩, hmem, text, rfl, rfl⟩
    exact ⟨name, text, hmem, rfl⟩
  · rintro ⟨name, text, hmem, rfl⟩
    exact ⟨(name, some text), hmem, text, rfl, rfl⟩

theorem names_parameters (texts : List (String × Option String)) :
    ((parameters texts).map Prod.fst).Sublist (texts.map Prod.fst) := by
  induction texts with
  | nil => exact .slnil
  | cons p texts ih =>
    obtain ⟨name, text?⟩ := p
    cases text? with
    | none => exact ih.cons name
    | some text => exact ih.cons_cons name

theorem sent_eq (name : String) (text? : Option String) :
    Store.sent name (text?.elim .null .text) = parameters [(name, text?)] := by
  cases text? <;> rfl

variable {o : UploadOption}

theorem mapM_format (h : o.Renders) :
    o.toPutOption.expires.mapM Time.HttpDate.format = .ok o.expiresText? := by
  rw [toPutOption, expiresText?]
  cases hexpires : o.expires with
  | none => rfl
  | some t =>
    obtain ⟨text, htext⟩ := h t hexpires
    simp only [Option.mapM_some, Option.bind_some, htext]
    rfl

theorem isWritable_iff_of_pos {n : Int} (hpos : 0 < n) :
    (Value.int n).isWritable = true ↔ n < 10 ^ Text.maxDigits := by
  obtain ⟨k, rfl⟩ := Int.eq_ofNat_of_zero_le hpos.le
  have hlength : (Nat.toDigits 10 k).length ≤ Text.maxDigits ↔ k < 10 ^ Text.maxDigits :=
    Nat.length_toDigits_le_iff (by decide) (by decide)
  rw [Value.isWritable, Int.natAbs_natCast, decide_eq_true_iff, hlength]
  exact_mod_cast Iff.rfl

theorem lengthText_eq (h : o.Fits) :
    Store.lengthText o.toPutOption.objectSize = .ok (o.lengthText?.elim .null .text) := by
  rw [toPutOption, lengthText?]
  cases hsize : o.objectSize with
  | none => rfl
  | some size =>
    by_cases hpos : 0 < size
    · have hwrite : (Value.int size).write = .ok (toString size) := by
        rw [Value.write, if_pos ((isWritable_iff_of_pos hpos).mpr (h size hsize))]
        rfl
      simp only [Option.elim_some, Option.bind_some, if_pos hpos, Store.lengthText,
        Store.isPositive, Value.isPositive?, decide_eq_true hpos, hwrite]
      rfl
    · simp only [Option.elim_some, Option.bind_some, if_neg hpos, Store.lengthText,
        Store.isPositive, Value.isPositive?, decide_eq_false hpos]
      rfl

theorem taggingText_eq (o : UploadOption) :
    Store.taggingText o.toPutOption.tagging = .ok (o.tagsText?.elim .null .text) := by
  rw [toPutOption, tagsText?]
  cases o.tagging with
  | none => rfl
  | some m =>
    by_cases hpairs : m.pairs = []
    · simp [TextTags.toValue, TextTags.fields, hpairs, Store.taggingText, Value.isTruthy]
    · simp only [Option.elim_some, Option.bind_some, if_neg hpairs]
      exact TextTags.taggingText_toValue hpairs

theorem putParameters_eq (h : o.Renders) (hfits : o.Fits) :
    Store.putParameters o.toPutOption = .ok (parameters o.texts) := by
  rw [Store.putParameters, mapM_format h, lengthText_eq hfits, taggingText_eq]
  refine congrArg Except.ok ?_
  simp only [toPutOption, sent_eq, parameters, ← List.filterMap_append]
  rfl

theorem fits_sized {content : ByteArray}
    (h : o.objectSize.getD content.size < 10 ^ Text.maxDigits) : (o.sized content).Fits := by
  rintro size ⟨⟩
  exact h

theorem toPutOption_sized (o : UploadOption) (content : ByteArray) :
    (o.sized content).toPutOption = o.toPutOption.sized content := by
  rw [sized]
  cases hsize : o.objectSize with
  | none => simp [toPutOption, PutOption.sized, hsize]
  | some size => simp [toPutOption, PutOption.sized, hsize]

/-! ## Options that are alike -/

namespace Alike

variable {o' : UploadOption} (h : o.Alike o')
include h

theorem sized (content : ByteArray) : (o.sized content).Alike (o'.sized content) :=
  { h with
    objectSize :=
      congrArg (fun size? : Option Int => some (size?.getD content.size)) h.objectSize }

end Alike

end UploadOption

/-! ## Uploads -/

namespace Store

variable {σ : Type} (s : Store σ) (key : Value) (content : ByteArray) (o : UploadOption)

theorem put_eq_putReader :
    s.put key content o.toPutOption = s.putReader key content (o.sized content).toPutOption := by
  rw [put, UploadOption.toPutOption_sized]

theorem isUpload_parameters :
    s.IsUpload key content o
      (.putObject s.bucket key content (UploadOption.parameters o.texts)) where
  method := rfl
  body := rfl
  distinct := by
    have hnames : ("Bucket" :: "Key" :: o.texts.map Prod.fst).Nodup := by
      change ["Bucket", "Key", "ContentType", "ContentEncoding", "ContentDisposition",
        "ContentLanguage", "Expires", "ContentLength", "Tagging"].Nodup
      decide
    exact hnames.sublist (((UploadOption.names_parameters o.texts).cons_cons _).cons_cons _)
  arguments field := by
    simp only [Call.arguments, Call.objectArguments, List.cons_append, List.nil_append,
      List.mem_cons, UploadOption.mem_parameters]

end Store

end BucketStore
