import BucketStore.Proofs.Store.Lemmas.Actions
import BucketStore.Store.Object

/-!
# Tags as they are sent and read

Tags in texts, the records that a service answers for them, and a reader of forms, which knows
nothing of how they are written: parts stand between ampersands, a name and its value are parted by
the first equals sign, a plus sign is a space, and `%` and two hexadecimal digits are a byte of
UTF-8.
-/

namespace BucketStore

/-! ## Reading a form -/

namespace Form

/-- The value of a hexadecimal digit, small or capital. -/
def hexValue? (c : Char) : Option Nat :=
  if c.isDigit then some (c.toNat - '0'.toNat)
  else if 'A' ≤ c ∧ c ≤ 'F' then some (c.toNat - 'A'.toNat + 10)
  else if 'a' ≤ c ∧ c ≤ 'f' then some (c.toNat - 'a'.toNat + 10)
  else none

/-- The bytes of a text in a form. -/
def bytes? : List Char → Option (List UInt8)
  | [] => some []
  | '+' :: cs => (bytes? cs).map fun bs => 32 :: bs
  | '%' :: high :: low :: cs => do
    let high ← hexValue? high
    let low ← hexValue? low
    let bs ← bytes? cs
    return UInt8.ofNat (16 * high + low) :: bs
  | '%' :: _ => none
  | c :: cs => (bytes? cs).map fun bs => String.utf8EncodeChar c ++ bs

/-- The text of which a form holds the bytes. -/
def text? (cs : List Char) : Option String := do
  let bs ← bytes? cs
  String.fromUTF8? ⟨bs.toArray⟩

/-- The name and the value in a part of a form. -/
def pair? (part : List Char) : Option (String × String) :=
  match part.dropWhile fun c => c != '=' with
  | [] => none
  | _ :: value => do
    let name ← text? (part.takeWhile fun c => c != '=')
    let value ← text? value
    return (name, value)

/-- The names and values of a form, in order. -/
def pairs? (form : String) : Option (List (String × String)) :=
  (form.toList.splitOn '&').mapM pair?

end Form

/-! ## Tags in texts -/

/-- Tags as a caller has them: texts under pairwise different texts, in the order in which they were
put. -/
structure TextTags where
  pairs : List (String × String)
  distinct : (pairs.map fun p => p.1).Nodup

namespace TextTags

def fields (m : TextTags) : Fields :=
  m.pairs.map fun p => (p.1, .text p.2)

/-- The tags as the value of an option. -/
def toValue (m : TextTags) : Value :=
  .object m.fields

/-- The form that the tags are sent in. -/
def header (m : TextTags) : String :=
  Form.ofFields m.fields

/-- These are the tags sorted by name, by code points. -/
structure Sorted (m : TextTags) (pairs : List (String × String)) : Prop where
  perm : pairs.Perm m.pairs
  ascending : pairs.Pairwise fun p q => p.1 < q.1

end TextTags

namespace TagMap

/-- The tags that have been read when they are these texts. -/
def ofPairs (pairs : List (String × String)) : TagMap :=
  pairs.map fun p => (.text p.1, .text p.2)

/-- The records that a service answers for these texts. -/
def recordsOfPairs (pairs : List (String × String)) : List Value :=
  pairs.map fun p => .object [("Key", .text p.1), ("Value", .text p.2)]

end TagMap

/-! ## What an upload sends -/

/-- The time of the option can be written, and its size is absent or a number, which can be written
if it is positive. -/
def PutOption.IsWritable (option : PutOption) : Prop :=
  (∀ t, option.expires = some t → ∃ text, Time.HttpDate.format t = .ok text) ∧
    ∃ positive, Store.isPositive option.objectSize = .ok positive ∧
      (positive = true → option.objectSize.isWritable = true)

/-- The upload with this option sends this under `Tagging`, in its one call. It calls nothing if the
option cannot be written. -/
def Store.Uploads {σ : Type} (s : Store σ) (key : Value) (content : ByteArray) (option : PutOption)
    (tagging : Option Value) (upload : Action σ Unit) : Prop :=
  ∀ session : Session σ,
    (option.IsWritable → ∃ parameters,
      (upload.eval session).2.calls =
        session.calls.push (.putObject s.bucket key content parameters) ∧
      Fields.get? parameters "Tagging" = tagging) ∧
    (¬ option.IsWritable → (upload.eval session).2.calls = session.calls)

/-- Both ways of uploading send this under `Tagging`; one of them states the size of the content. -/
def Store.SendsTagging {σ : Type} (s : Store σ) (option : PutOption) (tagging : Option Value) :
    Prop :=
  ∀ (key : Value) (content : ByteArray),
    s.Uploads key content (option.sized content) tagging (s.put key content option) ∧
    s.Uploads key content option tagging (s.putReader key content option)

end BucketStore
