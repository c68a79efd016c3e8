import BucketStore.Log.Record
import BucketStore.Text.Word

/-!
# Formats of log lines

A format is a text with directives such as `%(name)s`, which say the field of a record and how it is
laid out; a percent sign that is written twice stands for itself. A format must hold at least one
directive. A record that lacks a field of the format, or has one that the directive does not take,
has no line.
-/

namespace BucketStore.Log

open BucketStore.Text

/-- How a directive lays out its field; without a name it has no field. -/
structure Directive where
  field? : Option (List Char)
  isLeft : Bool
  isZeroFilled : Bool
  sign? : Option Char
  isAlternate : Bool
  width : Nat
  precision? : Option Nat
  code : Char
deriving DecidableEq, Repr

inductive Piece where
  | literal (c : Char)
  | directive (d : Directive)
deriving DecidableEq, Repr

/-! ## Reading formats -/

/-- The name of a field up to the bracket that closes it, and what follows; `depth` counts the
brackets that are open. -/
def fieldKey? : Nat → List Char → Option (List Char × List Char)
  | _, [] => none
  | depth, c :: cs =>
    let depth := if c = '(' then depth + 1 else if c = ')' then depth - 1 else depth
    if depth = 0 then some ([], cs)
    else (fieldKey? depth cs).map fun (name, rest) => (c :: name, rest)

def maxWidth : Nat := 9223372036854775807

/-- The number at the front, zero if there is none, and what follows it. -/
def numberAt (cs : List Char) : Nat × List Char :=
  let digits := (cs.takeWhile Char.isDigit).map fun c => c.toNat - '0'.toNat
  (ofDigits digits, cs.dropWhile Char.isDigit)

/-- The flags that a directive may have. -/
def isFlag (c : Char) : Bool :=
  c == '-' || c == '+' || c == ' ' || c == '#' || c == '0'

/-- The precision at the front, after its point, and what follows it. -/
def precisionAt? : List Char → Option (Option Nat × List Char)
  | '.' :: cs =>
    let (n, rest) := numberAt cs
    if Template.maxPrecision < n then none else some (some n, rest)
  | cs => some (none, cs)

/-- What follows a letter for the size of a number, which means nothing. -/
def dropSizeLetter : List Char → List Char
  | c :: cs => if c = 'h' ∨ c = 'l' ∨ c = 'L' then cs else c :: cs
  | [] => []

/-- The name at the front, between brackets, and what follows it. -/
def keyAt? : List Char → Option (Option (List Char) × List Char)
  | '(' :: cs => (fieldKey? 1 cs).map fun (name, rest) => (some name, rest)
  | cs => some (none, cs)

/-- The directive that follows a percent sign, and what follows the directive. -/
def readDirective? (cs : List Char) : Option (Directive × List Char) := do
  let (field?, cs) ← keyAt? cs
  let flags := cs.takeWhile isFlag
  let (width, cs) := numberAt (cs.dropWhile isFlag)
  if maxWidth < width then none
  let (precision?, cs) ← precisionAt? cs
  match dropSizeLetter cs with
  | [] => none
  | code :: rest =>
    let sign? := ['+', ' '].find? flags.contains
    some ({
      field?, width, precision?, code, sign?
      isLeft := flags.contains '-'
      isZeroFilled := flags.contains '0'
      isAlternate := flags.contains '#' }, rest)

/-- The pieces of a format; `fuel` bounds their number. -/
def piecesFrom? : Nat → List Char → Option (List Piece)
  | 0, _ => some []
  | _ + 1, [] => some []
  | fuel + 1, '%' :: '%' :: cs => do return .literal '%' :: (← piecesFrom? fuel cs)
  | fuel + 1, '%' :: cs => do
    let (d, rest) ← readDirective? cs
    return .directive d :: (← piecesFrom? fuel rest)
  | fuel + 1, c :: cs => do return .literal c :: (← piecesFrom? fuel cs)

def pieces? (format : String) : Option (List Piece) :=
  piecesFrom? (format.length + 1) format.toList

/-! ## Laying out fields -/

/-- The layout of a directive, aligned as its flags say; only numbers are filled with zeros. -/
def Directive.layout (d : Directive) (isNumber : Bool) : Template.Format where
  fill := if isNumber && d.isZeroFilled && !d.isLeft then '0' else ' '
  align := if d.isLeft then .left else if isNumber && d.isZeroFilled then .inside else .right
  sign := d.sign?
  alternate := d.isAlternate
  width := some d.width
  precision := d.precision?
  code := some d.code

/-- A text, cut to the precision and padded. -/
def Directive.layoutText (d : Directive) (cs : List Char) : List Char :=
  (d.layout false).pad (d.precision?.elim cs cs.take)

/-- An integer with as many digits as the precision says at least. -/
def Directive.layoutInt (d : Directive) (n : Int) : List Char :=
  let numeral := Template.integerNumeral n d.code d.isAlternate
  let digits := Template.zeroFilled (d.precision?.getD 0) numeral.digits
  (d.layout true).layout 3 { numeral with digits := digits }

/-- The value as an integer, cut if the notation is decimal and the value is not an integer. -/
def integerOf? (code : Char) : Value → Option Int
  | .int n => some n
  | .bool b => some (Value.boolInt b)
  | .real x => if Template.baseOf code = 10 && x.isFinite then some x.truncate else none
  | _ => none

/-- The value as a binary64 number; an integer must lie in range. -/
def realOf? : Value → Option Real64
  | .int n =>
    let x := Real64.ofInt n
    if x.isFinite then some x else none
  | .bool b => some (Real64.ofInt (Value.boolInt b))
  | .real x => some x
  | _ => none

/-- The character that a value stands for: a text of one character, or a code point. -/
def characterOf? : Value → Option Char
  | .text s =>
    match s.toList with
    | [c] => some c
    | _ => none
  | .int n => if 0 ≤ n ∧ n.toNat < 0x110000 then some (Char.ofNat n.toNat) else none
  | .bool b => some (Char.ofNat (Value.boolInt b).toNat)
  | _ => none

/-- The integer that a directive lays out, whose digits in a decimal notation must not be too
many. -/
def Directive.integer? (d : Directive) (v : Value) : Option Int := do
  let n ← integerOf? d.code v
  guard (Template.baseOf d.code ≠ 10 ∨ (Value.int n).isWritable)
  return n

/-- The characters of a value in the layout of a directive, unless they are too many. -/
def Directive.write? (d : Directive) (v : Value) : Option (List Char) :=
  if Template.isTooLong (some d.width) then none
  else
    match d.code with
    | 's' => v.write.toOption.map fun s => d.layoutText s.toList
    | 'r' => v.quote.toOption.map fun s => d.layoutText s.toList
    | 'a' => v.quote.toOption.map fun s => d.layoutText (s.toList.flatMap Template.asciiChar)
    | 'c' => (characterOf? v).map fun c => (d.layout false).pad [c]
    | 'd' | 'i' | 'u' | 'o' | 'x' | 'X' => (d.integer? v).map d.layoutInt
    | 'e' | 'E' | 'f' | 'F' | 'g' | 'G' =>
      (realOf? v).map fun x => Template.layoutReal x (d.layout true)
    | _ => none

/-! ## Lines -/

/-- The fields that are empty in every record without a report. -/
def unreportedFields (r : Record) : Fields :=
  if r.report?.isSome then [] else [("exc_info", .null), ("exc_text", .null)]

/-- The fields of a record that a line may show. -/
def Record.fields (r : Record) : Fields :=
  [("name", .text r.logger), ("levelname", .text r.level.name),
    ("levelno", .int r.level.number), ("msg", .text r.message), ("message", .text r.message),
    ("args", .text "()"), ("stack_info", .null), ("threadName", .text "MainThread"),
    ("processName", .text "MainProcess")]
    ++ unreportedFields r ++ r.origin.fields ++ r.extra

def Piece.write? (fields : Fields) : Piece → Option (List Char)
  | .literal c => some [c]
  | .directive d => do
    let v ← Fields.get? fields (.ofList (← d.field?))
    d.write? v

/-- The line of a record in a format, with a line after it that shows what it is about. -/
def line? (format : String) (r : Record) : Option String := do
  let written ← (← pieces? format).mapM (Piece.write? r.fields)
  let line := String.ofList written.flatten
  match r.report? with
  | some report => some (line ++ (if line.endsWith "\n" then "" else "\n") ++ report.line)
  | none => some line

/-! ## Valid formats -/

/-- The letters that may end a directive, in any case. -/
def isConversion (c : Char) : Bool :=
  "diouxefgcrsa%".toList.contains c.toLower || ['İ', 'ı', 'ſ'].contains c

/-- What follows a width or a precision, which is a number or an asterisk, if there is one. -/
def afterCount? : List Char → Option (List Char)
  | '*' :: cs => some cs
  | c :: cs => if isDecimal c then some (cs.dropWhile isDecimal) else none
  | [] => none

/-- What follows the precision, if there is one. -/
def afterPrecision (cs : List Char) : List Char :=
  match cs with
  | '.' :: rest => (afterCount? rest).getD cs
  | _ => cs

/-- Whether a directive with a plain name begins the text. -/
def beginsDirective : List Char → Bool
  | '%' :: '(' :: cs =>
    let name := cs.takeWhile isWordChar
    match cs.dropWhile isWordChar with
    | ')' :: rest =>
      let rest := rest.dropWhile isFlag
      let rest := afterPrecision ((afterCount? rest).getD rest)
      !name.isEmpty && (rest.head?.map isConversion).getD false
    | _ => false
  | _ => false

/-- Whether a text holds a directive. -/
def holdsDirective : List Char → Bool
  | [] => false
  | c :: cs => beginsDirective (c :: cs) || holdsDirective cs

/-- The format of lines that show the message alone. -/
def messageFormat : String := "%(message)s"

/-- The format that a text denotes: an empty one shows the message alone, and one without a
directive is refused. -/
def checkFormat (format : String) : Result String :=
  if format.isEmpty then .ok messageFormat
  else if holdsDirective format.toList then .ok format
  else .error (.invalidValue ("Invalid format '" ++ format ++ "' for '%' style"))

end BucketStore.Log
