import BucketStore.Proofs.Text.Lemmas.Numerals
import BucketStore.Store.Listing

/-!
# Remote stores

A remote store is a list of objects in the order of their keys. It answers a call for a page with
the first objects that remain: those that have the prefix and a key greater than the marker.
-/

namespace BucketStore.Remote

/-! ## Objects -/

/-- An object of a remote store and the fields by which a listing shows it. -/
structure Object where
  key : String
  size : Text.Numeral
  fields : Fields
  named : key ≠ ""
  showsKey : Fields.get? fields "Key" = some (.text key)
  showsSize : Fields.get fields "Size" = .text size.text

namespace Object

/-- Whether the object stands for a directory. -/
def isMarker (o : Object) : Bool :=
  o.size.value == 0 && o.key.toList.getLast? == some '/'

/-- Whether the object is under a prefix. -/
def isUnder (keyPrefix : String) (o : Object) : Bool :=
  keyPrefix.toList.isPrefixOf o.key.toList

/-- The time stamp that is shown. -/
def time (o : Object) : Result Time.DateTime :=
  Payload.listedTime (Fields.get o.fields "LastModified")

/-- The entity tag that is shown. -/
def tag (o : Object) : Result String :=
  Payload.entityTag (Fields.get o.fields "ETag")

/-- What is shown of the object can be read: a size that is not too long, and a time stamp and an
entity tag that are no failures. -/
structure Readable (o : Object) : Prop where
  size : o.size.digits.length ≤ Text.maxDigits
  time : ∃ t, o.time = .ok t
  tag : ∃ t, o.tag = .ok t

/-- The object as a listed file. -/
def file (o : Object) : FileInfo where
  key := .text o.key
  size := .int o.size.value
  lastModified := o.time.toOption.getD .zero
  etag := .text (o.tag.toOption.getD "")

/-- An object that is shown by its key, its size and further fields. -/
def showing (key : String) (named : key ≠ "") (size : Text.Numeral) (more : Fields) : Object where
  key := key
  size := size
  fields := ("Key", .text key) :: ("Size", .text size.text) :: more
  named := named
  showsKey := rfl
  showsSize := rfl

end Object

/-- The files of objects, without those that stand for directories. -/
def files (objects : List Object) : List FileInfo :=
  (objects.filter fun o => !o.isMarker).map Object.file

/-! ## Answers -/

/-- The objects under a prefix with keys greater than a marker. -/
def remaining (objects : List Object) (keyPrefix marker : String) : List Object :=
  objects.filter fun o => o.isUnder keyPrefix && decide (marker < o.key)

/-- A value shows objects: as a list, a single one in place of a list, or none by being absent. -/
inductive Shows : Value → List Object → Prop
  | list (objects : List Object) : Shows (.list (objects.map fun o => .object o.fields)) objects
  | single (o : Object) : Shows (.object o.fields) [o]
  | absent : Shows .null []

/-- A field tells whether something is true, as a truth value or as a word, or by being absent if it
is false. -/
inductive Tells : Option Value → Bool → Prop
  | truth (b : Bool) : Tells (some (.bool b)) b
  | yes : Tells (some (.text "true")) true
  | no : Tells (some (.text "false")) false
  | absent : Tells none false

/-- The fields of an answer with the first objects of those that remain. -/
structure Answers (rest : List Object) (most : Nat) (fields : Fields) : Prop where
  contents : Shows (Fields.get fields "Contents") (rest.take most)
  truncated : Tells (Fields.get? fields "IsTruncated") (decide (most < rest.length))
  marker : most < rest.length → ∀ last, (rest.take most).getLast? = some last →
    Fields.get fields "NextMarker" = .text last.key

/-- A service that holds objects in a bucket: whatever its state, it answers a page of those that
remain. -/
structure Holds {σ : Type} (service : Service σ) (bucket : String) (objects : List Object) :
    Prop where
  ascending : objects.Pairwise fun a b => a.key < b.key
  answers : ∀ (keyPrefix marker : String) (most : Nat) (state : σ), 0 < most →
    ∃ fields later,
      service.answer (.listObjects bucket (.text keyPrefix) (.text marker) (.int most)) state =
        (.ok (.value (.object fields)), later) ∧
      Answers (remaining objects keyPrefix marker) most fields

/-! ## A service -/

/-- An answer with the first objects of those that remain. -/
def answerOf (rest : List Object) (most : Nat) : Fields :=
  [("Contents", .list ((rest.take most).map fun o => .object o.fields)),
    ("IsTruncated", .bool (decide (most < rest.length))),
    ("NextMarker", .text (((rest.take most).getLast?.map Object.key).getD ""))]

/-- A service without a state that holds objects in every bucket. -/
def serving (objects : List Object) : Service Unit where
  client
    | .listObjects _ (.text keyPrefix) (.text marker) (.int most), _ =>
      (.ok (.value (.object (answerOf (remaining objects keyPrefix marker) most.toNat))), ())
    | _, _ => (.error .missingAttribute, ())

end BucketStore.Remote
