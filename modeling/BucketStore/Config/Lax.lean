import BucketStore.Config.Cause
import BucketStore.Text.Digit
import BucketStore.Value

/-!
# Lax reading of settings

A setting may be written in a value of another type that denotes it without loss: an integer in a
truth value, in a binary64 number without a fraction or in a text, and a truth value in a number or
in one of a few words. Each field that cannot be read has a cause, and a record is read only if all
its fields are.
-/

namespace BucketStore.Config

open BucketStore.Text

/-! ## Single values -/

/-- The number that plain digits denote: no needless zero at the front, and no more digits than an
integer may have. Too many digits are found before anything else that is wrong. -/
def plainNat (cs : List Char) : Except Cause Nat :=
  let digits := cs.takeWhile Char.isDigit
  if cs = ['0'] then .ok 0
  else if digits.isEmpty || digits.head? = some '0' then .error .intParsing
  else if maxDigits < digits.length then .error .intParsingSize
  else if digits.length < cs.length then .error .intParsing
  else .ok (ofDigits (digits.map fun c => c.toNat - '0'.toNat))

/-- The integer that plain digits denote, after a minus sign or none. -/
def plainInt : List Char → Except Cause Int
  | '-' :: cs => (plainNat cs).map fun n => -(n : Int)
  | cs => (plainNat cs).map fun n => (n : Int)

/-- What remains of a number without the zeros at its front and the underscores among them; `last`
is the character before, which stays where no other digit follows. -/
def afterZeros? (last : Char) : List Char → Option (List Char)
  | [] => some [last]
  | c :: cs =>
    if c = '0' ∨ c = '_' then afterZeros? c cs
    else if c = '.' then some (last :: c :: cs)
    else if c.isDigit ∨ c = '-' then some (c :: cs)
    else none

/-- A number without needless zeros at its front; none if it does not begin with a digit. -/
def dropZeros? : List Char → Option (List Char)
  | [] => none
  | c :: cs =>
    if c = '0' then afterZeros? c cs
    else if c.isDigit then some (c :: cs)
    else none

/-- A text without a point and zeros at its end. -/
def dropZeroFraction (cs : List Char) : List Char :=
  let before := cs.takeWhile fun c => c != '.'
  match cs.dropWhile fun c => c != '.' with
  | '.' :: zeros => if !zeros.isEmpty && zeros.all fun c => c == '0' then before else cs
  | _ => cs

def hasDoubleUnderscore : List Char → Bool
  | '_' :: '_' :: _ => true
  | _ :: cs => hasDoubleUnderscore cs
  | [] => false

/-- A number without its underscores, of which there may be one at a time between other
characters. -/
def dropUnderscores (cs : List Char) : List Char :=
  if cs.head? = some '_' ∨ cs.getLast? = some '_' ∨ hasDoubleUnderscore cs then cs
  else cs.filter fun c => c != '_'

/-- The plain digits of a number without a sign before it. -/
def plainDigits? (cs : List Char) : Option (List Char) :=
  (dropZeros? cs).map fun cs => dropUnderscores (dropZeroFraction cs)

/-- The plain digits, with their sign, of a number that is written with white space around it, a
plus sign, zeros at the front, underscores or a fraction of zeros. -/
def plain? (cs : List Char) : Option (List Char) :=
  match trimBy isPlainBlank cs with
  | '-' :: cs => (plainDigits? cs).map fun cs => '-' :: cs
  | '+' :: cs => plainDigits? cs
  | cs => plainDigits? cs

/-- An integer in a text: plain digits, or what can be brought to them. -/
def textInt (s : String) : Except Cause Int :=
  match plainInt s.toList with
  | .error .intParsing =>
    match plain? s.toList with
    | some cs => plainInt cs
    | none => .error .intParsing
  | r => r

/-- An integer in a binary64 number: finite, without a fraction, and within 64 bits. -/
def realInt (x : Real64) : Except Cause Int :=
  if !x.isFinite then .error .finiteNumber
  else if !x.isWhole then .error .intFromFloat
  else if x.truncate.natAbs < 1 <<< 63 then .ok x.truncate
  else .error .intParsingSize

def int : Value → Except Cause Int
  | .bool b => .ok (Value.boolInt b)
  | .int n => .ok n
  | .real x => realInt x
  | .text s => textInt s
  | _ => .error .intType

def trueWords : List String := ["1", "on", "t", "true", "y", "yes"]

def falseWords : List String := ["0", "off", "f", "false", "n", "no"]

/-- The truth value of a number; a number beyond 64 bits is not looked at. -/
def intBool (n : Int) : Except Cause Bool :=
  if n = 1 then .ok true
  else if n = 0 then .ok false
  else if fitsWord n then .error .boolParsing
  else .error .boolType

def bool : Value → Except Cause Bool
  | .bool b => .ok b
  | .int n => intBool n
  | .real x =>
    match realInt x with
    | .ok n => intBool n
    | .error _ => .error .boolType
  | .text s =>
    let word := s.map Char.toLower
    if trueWords.contains word then .ok true
    else if falseWords.contains word then .ok false
    else .error .boolParsing
  | _ => .error .boolType

def text : Value → Except Cause String
  | .text s => .ok s
  | _ => .error .stringType

def optionalText : Value → Except Cause (Option String)
  | .null => .ok none
  | v => (text v).map some

/-! ## Positive integers -/

structure Positive where
  val : Int
  pos : 0 < val
deriving DecidableEq, Repr

instance : Inhabited Positive := ⟨⟨1, by decide⟩⟩

/-- A positive integer; `otherwise` is the cause if an integer is not positive. -/
def positive (otherwise : Cause) (v : Value) : Except Cause Positive := do
  let n ← int v
  if h : 0 < n then .ok ⟨n, h⟩ else .error otherwise

/-! ## Records -/

/-- A record that is read in whole, or the fields that cannot be read, in order. -/
abbrev Checked (α : Type) := Except (List FieldError) α

/-- Adds the next field to a record. -/
def take {α β : Type} (field : Except FieldError α) (record : Checked (α → β)) : Checked β :=
  match record, field with
  | .ok f, .ok v => .ok (f v)
  | .ok _, .error e => .error [e]
  | .error es, .ok _ => .error es
  | .error es, .error e => .error (es ++ [e])

/-- The field of a name, read by the given reader, or its default. -/
def readField {α : Type} (fields : Fields) (read : Value → Except Cause α) (name : String)
    (default : α) : Except FieldError α :=
  match Fields.get? fields name with
  | none => .ok default
  | some v => (read v).mapError fun cause => ⟨name, cause⟩

end BucketStore.Config
