import BucketStore.Template.Layout
import BucketStore.ValueType

/-!
# Parts of values

What the name of a field may go on to: the items of lists, texts and objects, the parts of numbers,
and the type of a value with what it tells of itself. An item stands in brackets, under a number or
a name, and any other part has a name behind a point.
-/

namespace BucketStore.Template

/-- A value, or what it leads to. -/
inductive Part where
  | value (v : Value)
  | type (t : ValueType)
  | types (ts : List ValueType)
  /-- A type that is given the type of its items. -/
  | applied (t : ValueType) (argument : Value)
  /-- What all values of a type have under a name, of the sort that `what` says. -/
  | member (what name : String) (t : ValueType)

namespace Part

/-- Types with commas between them and behind a single one. -/
def typesText : List ValueType → String
  | [t] => "(" ++ t.shown ++ ",)"
  | ts => "(" ++ ", ".intercalate (ts.map fun t => t.shown) ++ ")"

/-- How a part appears. -/
def text : Part → Result String
  | .value v => v.write
  | .type t => .ok t.shown
  | .types ts => .ok (typesText ts)
  | .applied t argument => do return t.name ++ "[" ++ (← argument.quote) ++ "]"
  | .member what name t => .ok ("<" ++ what ++ " '" ++ name ++ "' of '" ++ t.name ++ "' objects>")

/-- How a part appears inside another one. -/
def shown : Part → Result String
  | .value v => v.quote
  | p => p.text

/-- A text or nothing. -/
def ofText? (s? : Option String) : Part :=
  .value (s?.elim .null .text)

/-! ## Named parts -/

/-- What makes keys of the values of a type; null if they may not be keys. -/
def keyMaker (what : String) (t : ValueType) : Part :=
  t.keyType?.elim (.value .null) (.member what "__hash__")

/-- What a type's member tells of itself under a name. -/
def ofMember (name : String) (t : ValueType) : String → Result Part
  | "__name__" => .ok (.value (.text name))
  | "__qualname__" => .ok (.value (.text (t.name ++ "." ++ name)))
  | "__objclass__" => .ok (.type t)
  | _ => .error .missingAttribute

/-- What a type tells of itself under a name. -/
def ofType (t : ValueType) : String → Result Part
  | "__name__" | "__qualname__" => .ok (.value (.text t.name))
  | "__module__" => .ok (.value (.text ValueType.moduleName))
  | "__doc__" => .ok (ofText? t.about?)
  | "__base__" => .ok (t.base?.elim (.value .null) .type)
  | "__bases__" => .ok (.types t.base?.toList)
  | "__mro__" => .ok (.types t.ancestry)
  | "__class__" => .ok (.type .kind)
  | "__hash__" => .ok (keyMaker "slot wrapper" t)
  | name =>
    if t.numberParts.contains name then .ok (.member "attribute" name t.numberType)
    else .error .missingAttribute

/-- A part that a number has under a name. -/
def ofNumber (v : Value) (name : String) : Result Part :=
  match v, name with
  | .int n, "real" | .int n, "numerator" => .ok (.value (.int n))
  | .int _, "imag" => .ok (.value (.int 0))
  | .int _, "denominator" => .ok (.value (.int 1))
  | .bool b, "real" | .bool b, "numerator" => .ok (.value (.int (Value.boolInt b)))
  | .bool _, "imag" => .ok (.value (.int 0))
  | .bool _, "denominator" => .ok (.value (.int 1))
  | .real x, "real" => .ok (.value (.real x))
  | .real _, "imag" => .ok (.value (.real (.ofRatio false 0 1)))
  | _, _ => .error .missingAttribute

/-- What a value has under a name. -/
def ofValue (v : Value) (name : String) : Result Part :=
  let t := ValueType.ofValue v
  match name with
  | "__class__" => .ok (.type t)
  | "__doc__" => .ok (ofText? t.about?)
  | "__hash__" => .ok (keyMaker "method-wrapper" t)
  | name => ofNumber v name

/-- What a part has under a name. -/
def named (p : Part) (name : String) : Result Part :=
  match p, name with
  | .value v, name => ofValue v name
  | .type t, name => ofType t name
  | .types _, "__class__" => .ok (.type .tuple)
  | .types _, "__doc__" => .ok (ofText? ValueType.tuple.about?)
  | .types _, "__hash__" => .ok (keyMaker "method-wrapper" .tuple)
  | .types _, _ => .error .missingAttribute
  | .applied t _, "__origin__" => .ok (.type t)
  | .applied _ _, "__class__" => .error .missingAttribute
  | .applied t _, name => ofType t name
  | .member _ own t, name => ofMember own t name

/-! ## Items -/

/-- The failure of an index without an item. -/
def noItem : Failure :=
  .fault .badIndex []

/-- A type given the type of its items. -/
def apply (t : ValueType) (argument : Value) : Result Part :=
  if t.isGeneric then .ok (.applied t argument) else .error .wrongType

/-- The item of a part at an index. -/
def itemAt (p : Part) (i : Nat) : Result Part :=
  match p with
  | .value (.list items) => items[i]?.elim (.error noItem) fun v => .ok (.value v)
  | .value (.text s) =>
    s.toList[i]?.elim (.error noItem) fun c => .ok (.value (.text (.singleton c)))
  | .value (.object _) => .error (.missingKey (.int i))
  | .types ts => ts[i]?.elim (.error noItem) fun t => .ok (.type t)
  | .type t => apply t (.int i)
  | _ => .error .wrongType

/-- The item of a part under a name. -/
def itemNamed (p : Part) (name : String) : Result Part :=
  match p with
  | .value (.object fields) =>
    (Fields.get? fields name).elim (.error (.missingKey (.text name))) fun v => .ok (.value v)
  | .type t => apply t (.text name)
  | _ => .error .wrongType

/-! ## Following a name -/

/-- The index that a text denotes, if it consists of digits. Digits that denote too large a number
are found before anything that is no digit. -/
def index? (cs : List Char) : Except Fault (Option Nat) := do
  let (n, rest) ← count cs
  return if rest.isEmpty then n else none

/-- Whether the character begins a further part of a value. -/
def isMark (c : Char) : Bool :=
  c == '.' || c == '['

/-- Goes on to the parts that the rest of a field's name states; `fuel` bounds their number. -/
def follow : Nat → Part → List Char → Result Part
  | 0, p, _ => .ok p
  | _ + 1, p, [] => .ok p
  | fuel + 1, p, '.' :: cs =>
    let name := cs.takeWhile fun c => !isMark c
    if name.isEmpty then .error (Fault.emptyAttribute).toFailure
    else do
      let part ← p.named (.ofList name)
      follow fuel part (cs.dropWhile fun c => !isMark c)
  | fuel + 1, p, '[' :: cs =>
    let name := cs.takeWhile fun c => c != ']'
    match cs.dropWhile fun c => c != ']' with
    | [] => .error (Fault.unclosedIndex).toFailure
    | _ :: rest => do
      let i ← (index? name).mapError Fault.toFailure
      if name.isEmpty then throw (Fault.emptyAttribute).toFailure
      let part ←
        match i with
        | some i => p.itemAt i
        | none => p.itemNamed (.ofList name)
      follow fuel part rest
  | _ + 1, _, _ :: _ => .error (Fault.afterIndex).toFailure

/-- The characters of a part in a format; only values take one. -/
def layout (p : Part) (format : List Char) : Result (List Char) :=
  match p with
  | .value v => layoutValue v format
  | p => if format.isEmpty then p.text.map String.toList else .error .wrongType

end Part

end BucketStore.Template
