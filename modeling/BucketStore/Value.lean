import BucketStore.Number.RealText
import BucketStore.Text.Digit
import BucketStore.Text.Quoted

/-!
# Values

The values that remote answers, settings and log fields are made of. The fields of an object keep
their order. `Value.asText` is how a value appears in a message, and `Value.shown` how it appears
inside a larger one, with its texts between quotes; a value that holds an integer of too many digits
cannot be written in either way.
-/

namespace BucketStore

/-- Whether an integer is one of 64 bits. -/
def fitsWord (n : Int) : Bool :=
  decide (-(1 <<< 63 : Nat) ≤ n) && decide (n < (1 <<< 63 : Nat))

/-- A value of a remote answer, a setting or a log field. -/
inductive Value where
  | null
  | bool (b : Bool)
  | int (n : Int)
  | real (x : Real64)
  | text (s : String)
  | list (items : List Value)
  | object (fields : List (String × Value))
deriving Inhabited, Repr

/-- Named values, in order. -/
abbrev Fields := List (String × Value)

namespace Value

/-! ## Text -/

/-- How a truth value is written. -/
def boolText (b : Bool) : String :=
  if b then "True" else "False"

mutual
/-- How a value appears inside another one. -/
def shown : Value → String
  | .null => "None"
  | .bool b => boolText b
  | .int n => toString n
  | .real x => x.text
  | .text s => Text.quoted s
  | .list items => "[" ++ shownItems items ++ "]"
  | .object fields => "\x7b" ++ shownFields fields ++ "\x7d"

/-- Items with commas between them. -/
def shownItems : List Value → String
  | [] => ""
  | [v] => shown v
  | v :: vs => shown v ++ ", " ++ shownItems vs

/-- Fields with commas between them. -/
def shownFields : List (String × Value) → String
  | [] => ""
  | [(name, v)] => Text.quoted name ++ ": " ++ shown v
  | (name, v) :: fields => Text.quoted name ++ ": " ++ shown v ++ ", " ++ shownFields fields
end

/-- How a value appears in a message: a text is itself. -/
def asText : Value → String
  | .text s => s
  | v => v.shown

mutual
/-- Whether no integer in the value has too many digits to be written. -/
def isWritable : Value → Bool
  | .int n => decide ((Nat.toDigits 10 n.natAbs).length ≤ Text.maxDigits)
  | .list items => areWritable items
  | .object fields => areWritableFields fields
  | .null | .bool _ | .real _ | .text _ => true

def areWritable : List Value → Bool
  | [] => true
  | v :: vs => isWritable v && areWritable vs

def areWritableFields : List (String × Value) → Bool
  | [] => true
  | (_, v) :: fields => isWritable v && areWritableFields fields
end

/-! ## Truth and keys -/

/-- Whether a value counts as present: null, false, zero and whatever is empty do not. -/
def isTruthy : Value → Bool
  | .null => false
  | .bool b => b
  | .int n => n != 0
  | .real x => !x.isZero
  | .text s => !s.isEmpty
  | .list items => !items.isEmpty
  | .object fields => !fields.isEmpty

/-- The value itself if it counts as present, else the other one. -/
def orElse (v other : Value) : Value :=
  if v.isTruthy then v else other

/-- Truth values are one and zero among the numbers. -/
def boolInt (b : Bool) : Int :=
  if b then 1 else 0

/-- What a value is told apart by as a key of a map. Numbers are told apart by their value, whatever
their kind. -/
inductive Key where
  | null
  | text (s : String)
  | int (n : Int)
  | real (x : Real64)
deriving DecidableEq, Inhabited, Repr

/-- The key of a value; lists and objects have none. -/
def key? : Value → Option Key
  | .null => some .null
  | .bool b => some (.int (boolInt b))
  | .int n => some (.int n)
  | .real x => some (if x.isFinite && x.isWhole then .int x.truncate else .real x)
  | .text s => some (.text s)
  | .list _ | .object _ => none

/-- Whether a value may be a key of a map. -/
def isKey (v : Value) : Bool :=
  v.key?.isSome

/-- Whether two values are the same key. -/
def sameKey (v w : Value) : Bool :=
  v.isKey && v.key? == w.key?

theorem sameKey_text (s t : String) : (text s).sameKey (text t) = decide (s = t) := by
  rw [Bool.eq_iff_iff]
  simp [sameKey, isKey, key?]

/-- Whether the value is the given number, of whatever kind. -/
def isNumber (n : Int) (v : Value) : Bool :=
  v.key? == some (.int n)

/-- Whether the value is a number above zero; none if it is no number. -/
def isPositive? : Value → Option Bool
  | .bool b => some b
  | .int n => some (decide (0 < n))
  | .real x => some (!x.isNegative && !x.isZero && !x.isNaN)
  | _ => none

end Value

namespace Fields

def get? (fields : Fields) (name : String) : Option Value :=
  fields.lookup name

/-- The value of a name, or null. -/
def get (fields : Fields) (name : String) : Value :=
  (fields.lookup name).getD .null

/-- Sets a name, in its place if it occurs and at the end otherwise. -/
def set (fields : Fields) (name : String) (v : Value) : Fields :=
  if fields.any fun field => field.1 == name then
    fields.map fun field => if field.1 == name then (name, v) else field
  else fields ++ [(name, v)]

/-- Sets every name of `others`, in order. -/
def setAll (fields others : Fields) : Fields :=
  others.foldl (fun acc field => set acc field.1 field.2) fields

end Fields

end BucketStore
