import BucketStore.Value

/-!
# Reading JSON

The value that a JSON text denotes. A number with a fraction or an exponent is a binary64 number and
any other an integer of any size. The fields of an object keep their order; of two fields of one
name the later value stands, in the place of the first.
-/

namespace BucketStore.Json

/-- The characters between the tokens of a text. -/
def isSpace (c : Char) : Bool :=
  c == ' ' || c == '\t' || c == '\n' || c == '\r'

/-- Drops the spaces at the front. -/
def skip (cs : List Char) : List Char :=
  cs.dropWhile isSpace

/-- What follows the given characters, if the text begins with them. -/
def expect? : List Char → List Char → Option (List Char)
  | [], cs => some cs
  | e :: es, c :: cs => if e = c then expect? es cs else none
  | _ :: _, [] => none

def hexDigit? (c : Char) : Option Nat :=
  if c.isDigit then some (c.toNat - 48)
  else if 'a' ≤ c ∧ c ≤ 'f' then some (c.toNat - 87)
  else if 'A' ≤ c ∧ c ≤ 'F' then some (c.toNat - 55)
  else none

/-- Four hexadecimal digits and what follows them. -/
def unit? : List Char → Option (Nat × List Char)
  | a :: b :: c :: d :: cs => do
    let a ← hexDigit? a
    let b ← hexDigit? b
    let c ← hexDigit? c
    let d ← hexDigit? d
    return (((a * 16 + b) * 16 + c) * 16 + d, cs)
  | _ => none

/-- The characters up to the closing quote, with the escapes resolved, and what follows the quote;
`fuel` bounds the number of characters. -/
def textBody? : Nat → List Char → Option (List Char × List Char)
  | 0, _ => none
  | _ + 1, [] => none
  | _ + 1, '"' :: cs => some ([], cs)
  | fuel + 1, '\\' :: 'u' :: cs => do
    let (n, cs) ← unit? cs
    let (n, cs) :=
      match cs with
      | '\\' :: 'u' :: rest =>
        match unit? rest with
        | some (m, rest) =>
          if 0xD800 ≤ n ∧ n < 0xDC00 ∧ 0xDC00 ≤ m ∧ m < 0xE000 then
            (0x10000 + (n - 0xD800) * 0x400 + (m - 0xDC00), rest)
          else (n, cs)
        | none => (n, cs)
      | _ => (n, cs)
    let (body, rest) ← textBody? fuel cs
    return (Char.ofNat n :: body, rest)
  | fuel + 1, '\\' :: c :: cs => do
    let d ←
      match c with
      | '"' => some '"'
      | '\\' => some '\\'
      | '/' => some '/'
      | 'b' => some '\x08'
      | 'f' => some '\x0c'
      | 'n' => some '\n'
      | 'r' => some '\r'
      | 't' => some '\t'
      | _ => none
    let (body, rest) ← textBody? fuel cs
    return (d :: body, rest)
  | fuel + 1, c :: cs => do
    let (body, rest) ← textBody? fuel cs
    return (c :: body, rest)

/-- The number that ASCII digits denote. -/
def natOf (ds : List Char) : Nat :=
  ds.foldl (fun n d => 10 * n + (d.toNat - 48)) 0

/-- The sign and the digits of an exponent, and what follows them. -/
def exponent? (cs : List Char) : Option (Int × List Char) :=
  let (negative, cs) :=
    match cs with
    | '-' :: cs => (true, cs)
    | '+' :: cs => (false, cs)
    | cs => (false, cs)
  let ds := cs.takeWhile Char.isDigit
  if ds.isEmpty then none
  else
    let n : Int := natOf ds
    some (if negative then -n else n, cs.dropWhile Char.isDigit)

/-- A number without its sign, and what follows it. -/
def number? (negative : Bool) (cs : List Char) : Option (Value × List Char) :=
  let whole := cs.takeWhile Char.isDigit
  let rest := cs.dropWhile Char.isDigit
  let (fraction, rest) :=
    match rest with
    | '.' :: tail => (tail.takeWhile Char.isDigit, tail.dropWhile Char.isDigit)
    | _ => ([], rest)
  let exponent :=
    match rest with
    | 'e' :: tail => exponent? tail
    | 'E' :: tail => exponent? tail
    | _ => none
  if whole.isEmpty then none
  else
    match exponent, fraction with
    | none, [] =>
      let n : Int := natOf whole
      some (.int (if negative then -n else n), rest)
    | none, _ =>
      some (.real (.ofDecimal negative (natOf (whole ++ fraction)) (-fraction.length)), rest)
    | some (e, rest), _ =>
      some (.real (.ofDecimal negative (natOf (whole ++ fraction)) (e - fraction.length)), rest)

/-- The literals and the values they stand for. -/
def literals : List (String × Value) :=
  [("null", .null), ("true", .bool true), ("false", .bool false), ("NaN", .real .nan),
    ("Infinity", .real (.infinity false)), ("-Infinity", .real (.infinity true))]

def literal? (cs : List Char) : Option (Value × List Char) :=
  literals.findSome? fun (name, v) => (expect? name.toList cs).map fun rest => (v, rest)

mutual
/-- A value and what follows it; `fuel` bounds the number of tokens. -/
def value? : Nat → List Char → Option (Value × List Char)
  | 0, _ => none
  | fuel + 1, cs =>
    match skip cs with
    | '"' :: cs => (textBody? (cs.length + 1) cs).map fun (s, rest) => (.text (.ofList s), rest)
    | '[' :: cs =>
      match skip cs with
      | ']' :: rest => some (.list [], rest)
      | cs => (items? fuel cs).map fun (vs, rest) => (.list vs, rest)
    | '\x7b' :: cs =>
      match skip cs with
      | '\x7d' :: rest => some (.object [], rest)
      | cs => (members? fuel cs).map fun (fields, rest) => (.object (Fields.setAll [] fields), rest)
    | cs =>
      match literal? cs with
      | some found => some found
      | none =>
        match cs with
        | '-' :: cs => number? true cs
        | cs => number? false cs

/-- The items of a list up to its closing bracket, and what follows it. -/
def items? : Nat → List Char → Option (List Value × List Char)
  | 0, _ => none
  | fuel + 1, cs => do
    let (v, rest) ← value? fuel cs
    match skip rest with
    | ',' :: rest =>
      let (vs, rest) ← items? fuel rest
      return (v :: vs, rest)
    | ']' :: rest => return ([v], rest)
    | _ => none

/-- The fields of an object up to its closing brace, and what follows it. -/
def members? : Nat → List Char → Option (Fields × List Char)
  | 0, _ => none
  | fuel + 1, cs => do
    let cs ← expect? ['"'] (skip cs)
    let (name, rest) ← textBody? (cs.length + 1) cs
    let rest ← expect? [':'] (skip rest)
    let (v, rest) ← value? fuel rest
    match skip rest with
    | ',' :: rest =>
      let (fields, rest) ← members? fuel rest
      return ((.ofList name, v) :: fields, rest)
    | '\x7d' :: rest => return ([(.ofList name, v)], rest)
    | _ => none
end

/-- The value of a text that holds one value and nothing else. -/
def read? (s : String) : Option Value :=
  let cs := s.toList
  match value? (cs.length + 1) cs with
  | some (v, rest) => if (skip rest).isEmpty then some v else none
  | none => none

end BucketStore.Json
