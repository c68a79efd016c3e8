/-!
# Blanks

What counts as white space, and the removal of characters from the ends of a text. There are three
classes: `isBlank` for texts in general, `isSpace` for the ASCII spaces around a number, and
`isPlainBlank`, which leaves out the four information separators.
-/

namespace BucketStore.Text

/-- The white space of a text: the ASCII spaces, the four information separators, and the space
and line separators of the other scripts. -/
def isBlank (c : Char) : Bool :=
  let n := c.toNat
  (decide (9 ≤ n) && decide (n ≤ 13)) || (decide (28 ≤ n) && decide (n ≤ 32)) || n == 0x85 ||
    n == 0xA0 || n == 0x1680 || (decide (0x2000 ≤ n) && decide (n ≤ 0x200A)) || n == 0x2028 ||
    n == 0x2029 || n == 0x202F || n == 0x205F || n == 0x3000

/-- The six ASCII spaces. -/
def isSpace (c : Char) : Bool :=
  c == ' ' || (decide (9 ≤ c.toNat) && decide (c.toNat ≤ 13))

/-- White space without the information separators. -/
def isPlainBlank (c : Char) : Bool :=
  isBlank c && !(decide (28 ≤ c.toNat) && decide (c.toNat ≤ 31))

/-- Removes the characters of a class from both ends. -/
def trimBy (p : Char → Bool) (cs : List Char) : List Char :=
  ((cs.dropWhile p).reverse.dropWhile p).reverse

/-- Removes white space from both ends. -/
def trim (s : String) : String :=
  String.ofList (trimBy isBlank s.toList)

/-- The maximal runs of characters outside the class, in order. -/
def splitBy (p : Char → Bool) : List Char → List (List Char)
  | [] => []
  | c :: cs =>
    if p c then splitBy p cs
    else
      match cs, splitBy p cs with
      | d :: _, word :: words => if p d then [c] :: word :: words else (c :: word) :: words
      | _, words => [c] :: words

/-- The words of a text: what stands between runs of white space. -/
def words (cs : List Char) : List (List Char) :=
  splitBy isBlank cs

/-- The parts of a text between the occurrences of a character; one part if there is none. -/
def splitAt (sep : Char) : List Char → List (List Char)
  | [] => [[]]
  | c :: cs =>
    if c = sep then [] :: splitAt sep cs
    else
      match splitAt sep cs with
      | part :: parts => (c :: part) :: parts
      | [] => [[c]]

end BucketStore.Text
