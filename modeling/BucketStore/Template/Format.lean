import BucketStore.Template.Error
import BucketStore.Text.Digit

/-!
# Formats of fields

The format of a field says how its value is laid out: fill and alignment, sign, alternate form,
width, digit grouping, precision, and a letter for the notation.
-/

namespace BucketStore.Template

open BucketStore.Text

/-- Where a value stands in its width; `inside` puts the filling between sign and digits. -/
inductive Align where
  | left
  | right
  | center
  | inside
deriving DecidableEq, Repr

def Align.ofChar? : Char → Option Align
  | '<' => some .left
  | '>' => some .right
  | '^' => some .center
  | '=' => some .inside
  | _ => none

structure Format where
  fill : Char := ' '
  align : Align
  sign : Option Char := none
  dropNegativeZero : Bool := false
  alternate : Bool := false
  width : Option Nat := none
  separator : Option Char := none
  precision : Option Nat := none
  code : Option Char := none
deriving DecidableEq, Repr

def maxCount : Nat := 9223372036854775807

/-- The number at the front, if there is one, and what follows it. -/
def count (cs : List Char) : Except Fault (Option Nat × List Char) :=
  let ds := (cs.takeWhile isDecimal).filterMap decimalDigit?
  if ds.isEmpty then .ok (none, cs)
  else if maxCount < ofDigits ds then .error .tooManyDigits
  else .ok (some (ofDigits ds), cs.dropWhile isDecimal)

/-- The character at the front if it is one of those given, and what follows. -/
def optionalOf (allowed : List Char) : List Char → Option Char × List Char
  | c :: cs => if allowed.contains c then (some c, cs) else (none, c :: cs)
  | [] => (none, [])

/-- Fill and alignment at the front, each optional, and what follows. -/
def fillAndAlign : List Char → Option Char × Option Align × List Char
  | fill :: c :: cs =>
    match Align.ofChar? c, Align.ofChar? fill with
    | some align, _ => (some fill, some align, cs)
    | none, some align => (none, some align, c :: cs)
    | none, none => (none, none, fill :: c :: cs)
  | [c] =>
    match Align.ofChar? c with
    | some align => (none, some align, [])
    | none => (none, none, [c])
  | [] => (none, none, [])

/-- The separator of digit groups at the front, and what follows. -/
def separatorOf (cs : List Char) : Except Fault (Option Char × List Char) :=
  let (comma, cs) := optionalOf [','] cs
  let (underscore, cs) := optionalOf ['_'] cs
  match comma, underscore with
  | some _, some _ => .error .bothSeparators
  | none, some _ => if cs.head? = some ',' then .error .bothSeparators else .ok (underscore, cs)
  | _, none => .ok (comma, cs)

/-- The precision at the front, after its point, and what follows. -/
def precisionOf : List Char → Except Fault (Option Nat × List Char)
  | '.' :: cs => do
    let (n, cs) ← count cs
    if n.isNone then throw .missingPrecision
    return (n, cs)
  | cs => .ok (none, cs)

/-- The letter that stands for no letter at all, where a value has no notation of its own. -/
def noCode : Char := '\x00'

/-- Whether digits may be grouped by the separator in the notation. -/
def allowsSeparator (separator : Char) (code : Option Char) : Bool :=
  match code with
  | none => true
  | some c =>
    c == noCode || "defgEG%F".toList.contains c || (separator == '_' && "boxX".toList.contains c)

/-- Reads the format of a value of a type, whose alignment and notation hold where the format states
none. -/
def Format.read (typeName : String) (align : Align) (code : Option Char) (cs : List Char) :
    Except Fault Format := do
  let (fill?, align?, rest) := fillAndAlign cs
  let (sign, rest) := optionalOf [' ', '+', '-'] rest
  let (z, rest) := optionalOf ['z'] rest
  let (alternate, rest) := optionalOf ['#'] rest
  let (zero, rest) := if fill?.isNone then optionalOf ['0'] rest else (none, rest)
  let align :=
    match align? with
    | some a => a
    | none => if zero.isSome ∧ align = .right then .inside else align
  let (width, rest) ← count rest
  let (separator, rest) ← separatorOf rest
  let (precision, rest) ← precisionOf rest
  let code ←
    match rest with
    | [] => pure code
    | [c] => pure (some c)
    | _ => throw (.invalidFormat (.ofList cs) typeName)
  if let some s := separator then
    if !allowsSeparator s code then throw (.separatorWith s (code.getD 's'))
  return {
    fill := (fill?.or zero).getD ' '
    align, sign, width, separator, precision, code
    dropNegativeZero := z.isSome
    alternate := alternate.isSome }

end BucketStore.Template
