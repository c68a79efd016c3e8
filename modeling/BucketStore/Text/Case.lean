import BucketStore.Text.CaseTable

/-!
# Letter case

Small and capital forms of a text. A character may have a form of several characters, and a capital
sigma at the end of a word has a small form of its own.
-/

namespace BucketStore.Text

/-- The image of a code point under the row that holds it. -/
def mapRows? (rows : Array (Nat × Nat × Nat × Int)) (n : Nat) : Option Nat :=
  (rows.find? fun (first, last, stride, _) =>
      decide (first ≤ n) && decide (n ≤ last) && (n - first) % stride == 0).map
    fun (_, _, _, shift) => (n + shift).toNat

def capitalSigma : Char := 'Σ'

/-- The small form of a character outside its word. -/
def lowerChar (c : Char) : List Char :=
  if c.toNat < 128 then [c.toLower]
  else if c == 'İ' then ['i', Char.ofNat 0x307]
  else
    match mapRows? lowerRows c.toNat with
    | some n => [Char.ofNat n]
    | none => [c]

/-- The capital form of a character. -/
def upperChar (c : Char) : List Char :=
  if c.toNat < 128 then [c.toUpper]
  else
    match upperExpansions.find? fun row => row.1 == c.toNat with
    | some (_, ns) => ns.map Char.ofNat
    | none =>
      match mapRows? upperRows c.toNat with
      | some n => [Char.ofNat n]
      | none => [c]

/-- Whether the character has letter case. -/
def isCased (c : Char) : Bool :=
  cased.holds c

/-- Whether the first character that is not passed over has letter case. -/
def leadsCased (cs : List Char) : Bool :=
  match cs.dropWhile caseIgnorable.holds with
  | c :: _ => isCased c
  | [] => false

/-- The small form of a text; `before` holds the characters already read, the last one first. A
sigma ends a word if a letter precedes it and none follows. -/
def lowerFrom (before : List Char) : List Char → List Char
  | [] => []
  | c :: cs =>
    let form :=
      if c = capitalSigma then
        if leadsCased before && !leadsCased cs then ['ς'] else ['σ']
      else lowerChar c
    form ++ lowerFrom (c :: before) cs

def lower (s : String) : String :=
  String.ofList (lowerFrom [] s.toList)

def upper (s : String) : String :=
  String.ofList (s.toList.flatMap upperChar)

end BucketStore.Text
