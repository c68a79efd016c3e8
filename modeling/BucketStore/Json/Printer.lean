import BucketStore.Value

/-!
# Writing JSON

The JSON text of a value. Texts are written with the characters they hold; only the quote, the
backslash and the controls are escaped.
-/

namespace BucketStore.Json

/-- How a character is written between the quotes of a text. -/
def textChar (c : Char) : List Char :=
  if c = '"' ∨ c = '\\' then ['\\', c]
  else if c = '\n' then ['\\', 'n']
  else if c = '\r' then ['\\', 'r']
  else if c = '\t' then ['\\', 't']
  else if c = '\x08' then ['\\', 'b']
  else if c = '\x0c' then ['\\', 'f']
  else if c.toNat < 32 then '\\' :: 'u' :: Text.hex 4 c.toNat
  else [c]

def textLiteral (s : String) : String :=
  String.ofList ('"' :: s.toList.flatMap textChar ++ ['"'])

/-- A binary64 number; the infinities and the NaN have names. -/
def realLiteral (x : Real64) : String :=
  if x.isNaN then "NaN"
  else if x.isFinite then x.text
  else if x.isNegative then "-Infinity"
  else "Infinity"

mutual
def write : Value → String
  | .null => "null"
  | .bool b => if b then "true" else "false"
  | .int n => toString n
  | .real x => realLiteral x
  | .text s => textLiteral s
  | .list items => "[" ++ writeItems items ++ "]"
  | .object fields => "\x7b" ++ writeFields fields ++ "\x7d"

/-- Items with commas between them. -/
def writeItems : List Value → String
  | [] => ""
  | [v] => write v
  | v :: vs => write v ++ ", " ++ writeItems vs

/-- Fields with commas between them. -/
def writeFields : List (String × Value) → String
  | [] => ""
  | [(name, v)] => textLiteral name ++ ": " ++ write v
  | (name, v) :: fields => textLiteral name ++ ": " ++ write v ++ ", " ++ writeFields fields
end

end BucketStore.Json
