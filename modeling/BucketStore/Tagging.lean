import BucketStore.Failure

/-!
# Tags of objects

A tag set is a map from keys to values in the order of first occurrence. The remote answers a list
of records, alone or under `Tag`, or a single record in place of a list of one; of records with
equal keys the last one's value stands. In requests a tag set is written as a form, sorted by key.
-/

namespace BucketStore

/-- The tags of an object, with pairwise different keys. -/
abbrev TagMap := List (Value × Value)

namespace TagMap

/-- Sets the value of a key, in its place if the key occurs and at the end otherwise. -/
def insert (tags : TagMap) (key v : Value) : TagMap :=
  if tags.any fun tag => tag.1.sameKey key then
    tags.map fun tag => if tag.1.sameKey key then (tag.1, v) else tag
  else tags ++ [(key, v)]

/-- The key and the value of a record; a record without a value has an empty one. -/
def ofRecord : Value → Result (Value × Value)
  | .object fields =>
    match Fields.get? fields "Key" with
    | none => .error (.missingKey (.text "Key"))
    | some key =>
      if key.isKey then .ok (key, (Fields.get? fields "Value").getD (.text ""))
      else .error .wrongType
  | _ => .error .wrongType

/-- The tags of records, added to those already read. -/
def addRecords (tags : TagMap) : List Value → Result TagMap
  | [] => .ok tags
  | record :: records => do
    let (key, v) ← ofRecord record
    addRecords (tags.insert key v) records

/-- The tags of a list of records; nothing else holds records. -/
def ofRecords : Value → Result TagMap
  | .list records => addRecords [] records
  | _ => .error .wrongType

/-- What holds the records of an answer: the field `Tag` of an object, else the answer itself; a
single record stands for a list of one. -/
def recordsOf (v : Value) : Value :=
  let records :=
    match v with
    | .object fields => Fields.get fields "Tag"
    | v => v
  match records with
  | .object fields => .list [.object fields]
  | v => v

/-- The tags of an answer; none if it has no records. -/
def ofAnswer (v : Value) : Result (Option TagMap) :=
  if !v.isTruthy then .ok none
  else
    let records := recordsOf v
    if !records.isTruthy then .ok none else (ofRecords records).map some

end TagMap

/-! ## Forms -/

namespace Form

/-- Whether the byte stands for itself in a form: a letter, a digit, or one of `_.-~`. -/
def isPlain (b : UInt8) : Bool :=
  let c := Char.ofNat b.toNat
  c.isAlphanum || c == '_' || c == '.' || c == '-' || c == '~'

def hexDigit (n : Nat) : Char :=
  (Nat.digitChar n).toUpper

/-- How a byte is written: a space as a plus sign, and other bytes in hexadecimal. -/
def encodeByte (b : UInt8) : List Char :=
  if isPlain b then [Char.ofNat b.toNat]
  else if b = 32 then ['+']
  else ['%', hexDigit (b.toNat / 16), hexDigit (b.toNat % 16)]

/-- A text as its bytes in UTF-8, each written in the form's way. -/
def encode (s : String) : List Char :=
  s.toUTF8.toList.flatMap encodeByte

/-- A name and its value, which can be written. -/
def encodePair (field : String × Value) : List Char :=
  encode field.1 ++ '=' :: encode field.2.asText

/-- The fields sorted by name, with ampersands between them. -/
def ofFields (fields : Fields) : String :=
  let sorted := fields.mergeSort fun a b => decide (a.1 ≤ b.1)
  String.ofList (((sorted.map encodePair).intersperse ['&']).flatten)

end Form

end BucketStore
