import BucketStore.Template.Part

/-!
# Message templates

A template is a text with fields in braces, filled in by name. A field may go on to a part of its
value, convert the value to a text, and state a format, which may hold fields itself, one level
deep. A brace that is written twice stands for itself. The text is filled in from left to right, and
the first thing that is wrong with it is what fails.
-/

namespace BucketStore.Template

open BucketStore.Text

structure Slot where
  name : List Char
  conversion : Option Char
  format : List Char
  /-- Whether the format holds braces. -/
  isNested : Bool

/-! ## Taking a template apart -/

/-- The name of a field up to the character that ends it, that character, and what follows. Whatever
stands between brackets belongs to the name. -/
def fieldName (isIndex : Bool) : List Char → Except Fault (List Char × Char × List Char)
  | [] => .error .unclosedField
  | c :: cs =>
    if isIndex then do
      let (name, stop, rest) ← fieldName (c != ']') cs
      return (c :: name, stop, rest)
    else if c = '\x7b' then .error .braceInName
    else if c = '\x7d' ∨ c = ':' ∨ c = '!' then .ok ([], c, cs)
    else do
      let (name, stop, rest) ← fieldName (c == '[') cs
      return (c :: name, stop, rest)

/-- The format of a field up to the brace that closes the field, and what follows it; `depth`
counts the braces that are open. -/
def fieldFormat : Nat → List Char → Except Fault (List Char × List Char)
  | _, [] => .error .unclosedFormat
  | depth, c :: cs =>
    if c = '\x7d' ∧ depth = 0 then .ok ([], cs)
    else do
      let depth := if c = '\x7b' then depth + 1 else if c = '\x7d' then depth - 1 else depth
      let (format, rest) ← fieldFormat depth cs
      return (c :: format, rest)

/-- A field whose name and conversion have been read. -/
def withFormat (name : List Char) (conversion : Option Char) (cs : List Char) :
    Except Fault (Slot × List Char) := do
  let (format, rest) ← fieldFormat 0 cs
  return (⟨name, conversion, format, format.contains '\x7b'⟩, rest)

/-- The field that follows an opening brace, and what follows the field. -/
def readSlot (cs : List Char) : Except Fault (Slot × List Char) := do
  let (name, stop, rest) ← fieldName false cs
  if stop = '\x7d' then return (⟨name, none, [], false⟩, rest)
  else if stop = ':' then withFormat name none rest
  else
    match rest with
    | [] => throw .noConversion
    | c :: '\x7d' :: rest => return (⟨name, some c, [], false⟩, rest)
    | c :: ':' :: rest => withFormat name (some c) rest
    | c :: [] => withFormat name (some c) []
    | _ => throw .afterConversion

/-! ## Values of fields -/

/-- The part of a value that a field's name states. Fields by position have no values. -/
def resolve (fields : Fields) (name : List Char) : Result Part := do
  let first := name.takeWhile fun c => !Part.isMark c
  let i ← (Part.index? first).mapError Fault.toFailure
  if first.isEmpty || i.isSome then throw Part.noItem
  match Fields.get? fields (.ofList first) with
  | some v => Part.follow (name.length + 1) (.value v) (name.dropWhile fun c => !Part.isMark c)
  | none => throw (.missingKey (.text (.ofList first)))

/-- A character beyond ASCII as an escape. -/
def asciiChar (c : Char) : List Char :=
  if c.toNat < 128 then [c]
  else if c.toNat < 0x100 then '\\' :: 'x' :: hex 2 c.toNat
  else if c.toNat < 0x10000 then '\\' :: 'u' :: hex 4 c.toNat
  else '\\' :: 'U' :: hex 8 c.toNat

/-- A part converted to a text, as the field's conversion says; the null character says nothing. -/
def convert (p : Part) : Option Char → Result Part
  | none | some '\x00' => .ok p
  | some 's' => do return .value (.text (← p.text))
  | some 'r' => do return .value (.text (← p.shown))
  | some 'a' => do return .value (.text (.ofList ((← p.shown).toList.flatMap asciiChar)))
  | some c => .error (Fault.unknownConversion c).toFailure

/-! ## Filling in -/

/-- Fills in the fields of a template; `expand` fills in those of a format, and `fuel` bounds the
number of pieces. -/
def fillFrom (expand : List Char → Result (List Char)) (fields : Fields) :
    Nat → List Char → Result (List Char)
  | 0, _ => .ok []
  | _ + 1, [] => .ok []
  | fuel + 1, '\x7b' :: '\x7b' :: cs => do return '\x7b' :: (← fillFrom expand fields fuel cs)
  | fuel + 1, '\x7d' :: '\x7d' :: cs => do return '\x7d' :: (← fillFrom expand fields fuel cs)
  | _ + 1, ['\x7b'] => .error (Fault.loneOpening).toFailure
  | _ + 1, '\x7d' :: _ => .error (Fault.loneClosing).toFailure
  | fuel + 1, '\x7b' :: cs => do
    let (slot, rest) ← (readSlot cs).mapError Fault.toFailure
    let part ← resolve fields slot.name
    let part ← convert part slot.conversion
    let format ← if slot.isNested then expand slot.format else pure slot.format
    let written ← part.layout format
    return written ++ (← fillFrom expand fields fuel rest)
  | fuel + 1, c :: cs => do return c :: (← fillFrom expand fields fuel cs)

/-- Fills in a template whose formats may hold fields `depth` levels deep, less one. -/
def fillDepth (fields : Fields) : Nat → List Char → Result (List Char)
  | 0, _ => .error (Fault.tooDeep).toFailure
  | depth + 1, cs => fillFrom (fillDepth fields depth) fields (cs.length + 1) cs

def fill (template : String) (fields : Fields) : Result String :=
  (fillDepth fields 2 template.toList).map String.ofList

end BucketStore.Template
