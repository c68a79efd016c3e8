import BucketStore.Number.RealText
import BucketStore.Template.Format

/-!
# Laying out values

The characters of a value in its format: texts cut and padded, integers in a base, and binary64
numbers with fixed places, with an exponent, or in whichever of the two is shorter.
-/

namespace BucketStore.Template

open BucketStore.Text

/-- Copies of the fill character. -/
def Format.filling (f : Format) (n : Nat) : List Char :=
  List.replicate n f.fill

def Format.pad (f : Format) (cs : List Char) : List Char :=
  let missing := (f.width.getD 0) - cs.length
  match f.align with
  | .left | .inside => cs ++ f.filling missing
  | .right => f.filling missing ++ cs
  | .center => f.filling (missing / 2) ++ cs ++ f.filling (missing - missing / 2)

/-! ## Texts -/

/-- What a format asks of a text that texts do not have. -/
def textFault? (f : Format) : Option Fault :=
  if f.sign = some ' ' then some .spaceInText
  else if f.sign.isSome then some .signInText
  else if f.dropNegativeZero then some .zeroInText
  else if f.alternate then some .alternateInText
  else if f.align = .inside then some .paddingInText
  else none

/-- The most characters that a field may have. -/
def maxLength : Nat := 1 <<< 32

/-- Whether a number of characters is more than can be held. -/
def isTooLong (n : Option Nat) : Bool :=
  n.any fun n => decide (maxLength < n)

def layoutText (s : String) (format : List Char) : Result (List Char) := do
  let f ← (Format.read "str" .left (some 's') format).mapError Fault.toFailure
  if f.code != some 's' then throw (Fault.unknownCode (f.code.getD 's') "str").toFailure
  if let some fault := textFault? f then throw fault.toFailure
  if isTooLong f.width then throw .outOfMemory
  let cs :=
    match f.precision with
    | some n => s.toList.take n
    | none => s.toList
  return f.pad cs

/-! ## Numbers -/

/-- The parts of a number: whether it is negative, what precedes the digits, the digits that may be
grouped, and what follows them. -/
structure Numeral where
  negative : Bool
  base : List Char
  digits : List Char
  tail : List Char

/-- Groups digits, the last one first, with zeros up to a width; `fuel` bounds the number of
groups. -/
def groupReversed (size : Nat) (separator : Char) : Nat → List Char → Int → List Char
  | 0, _, _ => []
  | fuel + 1, digits, width =>
    let length := min size (max (max digits.length width.toNat) 1)
    let group := digits.take length
    let group := group ++ List.replicate (length - group.length) '0'
    let rest := digits.drop length
    let width := width - length
    if rest.isEmpty ∧ width ≤ 0 then group
    else group ++ separator :: groupReversed size separator fuel rest (width - 1)

/-- Digits in groups with zeros before them up to a width. -/
def group (separator? : Option Char) (size : Nat) (digits : List Char) (width : Int) : List Char :=
  match separator? with
  | some separator =>
    (groupReversed size separator (digits.length + width.toNat + 1) digits.reverse width).reverse
  | none => List.replicate (width.toNat - digits.length) '0' ++ digits

def Format.signOf (f : Format) (negative : Bool) : List Char :=
  if negative then ['-']
  else
    match f.sign with
    | some '+' => ['+']
    | some ' ' => [' ']
    | _ => []

/-- A number in a format. Zeros that fill the width stand among the digits. -/
def Format.layout (f : Format) (groupSize : Nat) (n : Numeral) : List Char :=
  let sign := f.signOf n.negative
  let others := sign.length + n.base.length + n.tail.length
  let width : Int :=
    if f.fill = '0' ∧ f.align = .inside then (f.width.getD 0 : Int) - others else 0
  let digits := if n.digits.isEmpty then [] else group f.separator groupSize n.digits width
  let missing := (f.width.getD 0) - (others + digits.length)
  let body := n.base
  match f.align with
  | .left => sign ++ body ++ digits ++ n.tail ++ f.filling missing
  | .right => f.filling missing ++ sign ++ body ++ digits ++ n.tail
  | .center =>
    f.filling (missing / 2) ++ sign ++ body ++ digits ++ n.tail ++ f.filling (missing - missing / 2)
  | .inside => sign ++ body ++ f.filling missing ++ digits ++ n.tail

/-- The letters for the notations of integers. -/
def integerCodes : List Char := ['b', 'c', 'd', 'o', 'x', 'X', 'n']

/-- The letters for the notations of binary64 numbers. -/
def realCodes : List Char := ['e', 'E', 'f', 'F', 'g', 'G', 'n', '%']

/-- The base of a notation. -/
def baseOf : Char → Nat
  | 'b' => 2
  | 'o' => 8
  | 'x' | 'X' => 16
  | _ => 10

/-- An integer as the character of that code point. -/
def characterNumeral (n : Int) (f : Format) : Result Numeral :=
  if f.sign.isSome then .error (Fault.signWithCharacter).toFailure
  else if f.alternate then .error (Fault.alternateWithCharacter).toFailure
  else if n < 0 ∨ 0x10ffff < n then .error .overflow
  else .ok ⟨false, [], [], [Char.ofNat n.toNat]⟩

/-- An integer in the notation of a letter. -/
def integerNumeral (n : Int) (code : Char) (alternate : Bool) : Numeral :=
  let digits := Nat.toDigits (baseOf code) n.natAbs
  let upper := code == 'X'
  let base := if alternate ∧ baseOf code ≠ 10 then ['0', code] else []
  ⟨decide (n < 0), base, if upper then digits.map Char.toUpper else digits, []⟩

/-- An integer in a format that asks for an integer's notation. The digits of a decimal one must
not be too many. -/
def layoutInteger (n : Int) (f : Format) : Result (List Char) :=
  let code := f.code.getD 'd'
  if f.precision.isSome then .error (Fault.precisionInInteger).toFailure
  else if f.dropNegativeZero then .error (Fault.zeroInInteger).toFailure
  else if code ≠ 'c' ∧ baseOf code = 10 ∧ !(Value.int n).isWritable then .error .tooManyDigits
  else do
    let numeral ←
      if code = 'c' then characterNumeral n f else .ok (integerNumeral n code f.alternate)
    if isTooLong f.width then throw .outOfMemory
    return f.layout (if baseOf code = 10 then 3 else 4) numeral

/-- Zeros before digits up to a count. -/
def zeroFilled (n : Nat) (digits : List Char) : List Char :=
  List.replicate (n - digits.length) '0' ++ digits

/-- Zeros behind digits up to a count. -/
def zeroExtended (n : Nat) (digits : List Char) : List Char :=
  digits ++ List.replicate (n - digits.length) '0'

/-- A finite number of the 64-bit format has no more places, and no more significant digits. -/
def maxPlaces : Nat := 1074

/-- A point and what follows it; without anything only the alternate form has a point. -/
def pointed (alternate : Bool) (fraction : List Char) : List Char :=
  if fraction.isEmpty then (if alternate then ['.'] else []) else '.' :: fraction

/-- A magnitude with fixed places: whole digits and the rest. -/
def fixedParts (x : Real64) (places : Nat) (alternate : Bool) : List Char × List Char :=
  let exact := min places maxPlaces
  let n := x.places exact
  let whole := Nat.toDigits 10 (n / Nat.pow 10 exact)
  let fraction := if exact = 0 then [] else zeroFilled exact (Nat.toDigits 10 (n % Nat.pow 10 exact))
  (whole, pointed alternate (zeroExtended places fraction))

/-- The first `n` significant digits of a magnitude, and the place of the first one, counted from
the point. -/
def significantDigits (x : Real64) (n : Nat) : List Char × Int :=
  if x.isZero then (List.replicate n '0', 1)
  else
    let (numerator, denominator) := x.ratio
    let d := significant numerator denominator (min n maxPlaces)
    (zeroExtended n d.characters, (d.characters.length : Int) + d.exponent)

/-- A magnitude with an exponent: the first digit and the rest. -/
def scientificParts (x : Real64) (places : Nat) (alternate : Bool) : List Char × List Char :=
  let (digits, place) := significantDigits x (places + 1)
  (digits.take 1, pointed alternate (digits.drop 1) ++ Real64.exponentPart (place - 1))

/-- Digits without the zeros at their end; at least one is kept. -/
def trimZeros (digits : List Char) : List Char :=
  let kept := (digits.reverse.dropWhile fun c => c == '0').reverse
  if kept.isEmpty then digits.take 1 else kept

/-- A magnitude in the shorter of the two notations: with an exponent if the first digit stands
further than `limit` places before the point or more than four behind it. -/
def generalParts (x : Real64) (digits : List Char) (place limit : Int)
    (alternate keepsFraction : Bool) : List Char × List Char :=
  if place ≤ -4 ∨ limit < place then
    (digits.take 1, pointed alternate (digits.drop 1) ++ Real64.exponentPart (place - 1))
  else
    let place := if x.isZero then 1 else place
    let (whole, fraction) := Real64.positional digits place
    let fraction := if fraction.isEmpty ∧ keepsFraction then ['0'] else fraction
    (whole, pointed alternate fraction)

/-- As many significant digits of a magnitude as a precision says, and the place of the first one.
Unless the alternate form is asked for, the zeros at the end are left out. -/
def generalDigits (x : Real64) (precision : Nat) (alternate : Bool) : List Char × Int :=
  if alternate then significantDigits x precision
  else
    let (digits, place) := significantDigits x (min precision maxPlaces)
    (trimZeros digits, place)

/-- A magnitude with a number of significant digits. -/
def generalNotation (x : Real64) (precision : Nat) (alternate : Bool) : List Char × List Char :=
  let precision := max precision 1
  let (digits, place) := generalDigits x precision alternate
  generalParts x digits place precision alternate false

/-- A magnitude without a letter for its notation: the shortest digits, or as many as the precision
says, and always a fraction where there is no exponent. -/
def plainParts (x : Real64) (precision : Option Nat) (alternate : Bool) : List Char × List Char :=
  match precision with
  | none =>
    let digits := x.shortest.characters
    let place := if x.isZero then 1 else (digits.length : Int) + x.shortest.exponent
    generalParts x digits place 16 alternate true
  | some n =>
    let n := max n 1
    let (digits, place) := generalDigits x n alternate
    generalParts x digits place ((n : Int) - 1) alternate true

/-- Whether all digits are zeros. -/
def isAllZero (parts : List Char × List Char) : Bool :=
  (parts.1 ++ parts.2.takeWhile fun c => c != 'e').all fun c => c == '0' || c == '.'

/-- A number a hundred times as large. -/
def timesHundred (x : Real64) : Real64 :=
  let (numerator, denominator) := x.ratio
  if x.isFinite then .ofRatio x.isNegative (numerator * 100) denominator else x

/-- The largest precision of a binary64 number. -/
def maxPrecision : Nat := 2147483647

/-- The places behind the first digit in the notation with an exponent; the largest precision, to
which no further digit can be added, stands for none. -/
def scientificPlaces (places : Nat) : Nat :=
  if places < maxPrecision then places else 0

/-- The digits of a number and what follows them, without its sign. -/
def realParts (x : Real64) (f : Format) : List Char × List Char :=
  let places := f.precision.getD 6
  if x.isNaN then ([], ['n', 'a', 'n'])
  else if !x.isFinite then ([], ['i', 'n', 'f'])
  else
    match f.code with
    | some 'e' | some 'E' => scientificParts x (scientificPlaces places) f.alternate
    | some 'f' | some 'F' | some '%' => fixedParts x places f.alternate
    | some _ => generalNotation x places f.alternate
    | none => plainParts x f.precision f.alternate

/-- A binary64 number in a format. -/
def layoutReal (x : Real64) (f : Format) : List Char :=
  let isPercent := f.code == some '%'
  let x := if isPercent then timesHundred x else x
  let parts := realParts x f
  let isUpper := f.code == some 'E' || f.code == some 'F' || f.code == some 'G'
  let tail := if isUpper then parts.2.map Char.toUpper else parts.2
  let negative :=
    x.isNegative && !x.isNaN && !(f.dropNegativeZero && x.isFinite && isAllZero parts)
  f.layout 3 ⟨negative, [], parts.1, tail ++ if isPercent then ['%'] else []⟩

/-- A binary64 number in a format that may ask for more than can be done. -/
def layoutRealIn (x : Real64) (f : Format) : Result (List Char) := do
  if f.precision.any fun n => decide (maxPrecision < n) then
    throw (Fault.precisionTooLarge).toFailure
  if isTooLong f.width then throw .outOfMemory
  return layoutReal x f

/-- A number in a format: integers may be asked for in the notations of binary64 numbers. -/
def layoutInt (n : Int) (name : String) (format : List Char) : Result (List Char) := do
  let f ← (Format.read name .right (some 'd') format).mapError Fault.toFailure
  let code := f.code.getD 'd'
  if integerCodes.contains code then layoutInteger n f
  else if realCodes.contains code then
    let x := Real64.ofInt n
    if x.isFinite then layoutRealIn x f else throw .overflow
  else throw (Fault.unknownCode code name).toFailure

/-- A binary64 number in a format that is still to be read. -/
def layoutFloat (x : Real64) (format : List Char) : Result (List Char) := do
  let f ← (Format.read "float" .right none format).mapError Fault.toFailure
  match f.code with
  | none => layoutRealIn x f
  | some code =>
    if code = noCode then layoutRealIn x { f with code := none }
    else if realCodes.contains code then layoutRealIn x f
    else throw (Fault.unknownCode code "float").toFailure

/-- The characters of a value in a format. Without a format it is the value's text; a value that is
neither a number nor a text takes none. -/
def layoutValue (v : Value) (format : List Char) : Result (List Char) :=
  if format.isEmpty then v.write.map String.toList
  else
    match v with
    | .text s => layoutText s format
    | .int n => layoutInt n "int" format
    | .bool b => layoutInt (Value.boolInt b) "bool" format
    | .real x => layoutFloat x format
    | _ => .error .wrongType

end BucketStore.Template
