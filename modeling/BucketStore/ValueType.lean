import BucketStore.Value

/-!
# Types of values

The types that values have, the type of these types, the type that all others are made from, and
that of the lists of types. A type has a name, a description and ancestors.
-/

namespace BucketStore

inductive ValueType where
  | root
  | kind
  | null
  | bool
  | int
  | real
  | text
  | list
  | map
  | tuple
deriving DecidableEq, Repr

namespace ValueType

def ofValue : Value → ValueType
  | .null => .null
  | .bool _ => .bool
  | .int _ => .int
  | .real _ => .real
  | .text _ => .text
  | .list _ => .list
  | .object _ => .map

def name : ValueType → String
  | .root => "object"
  | .kind => "type"
  | .null => "NoneType"
  | .bool => "bool"
  | .int => "int"
  | .real => "float"
  | .text => "str"
  | .list => "list"
  | .map => "dict"
  | .tuple => "tuple"

/-- Where the types belong. -/
def moduleName : String := "builtins"

def shown (t : ValueType) : String :=
  "<class '" ++ t.name ++ "'>"

/-- The type that a type is made from, if there is one. -/
def base? : ValueType → Option ValueType
  | .root => none
  | .bool => some .int
  | _ => some .root

/-- A type and the types above it, up to the root. -/
def ancestry : ValueType → List ValueType
  | .root => [.root]
  | .bool => [.bool, .int, .root]
  | t => [t, .root]

/-- Whether a type takes the types of its items. -/
def isGeneric (t : ValueType) : Bool :=
  [list, map, tuple, kind].contains t

/-- The type whose way of being a key the values of a type have, if they may be keys. -/
def keyType? : ValueType → Option ValueType
  | .list | .map => none
  | .bool => some .int
  | .kind | .null => some .root
  | t => some t

/-- The names of the parts of a number of a type. -/
def numberParts : ValueType → List String
  | .int | .bool => ["real", "imag", "numerator", "denominator"]
  | .real => ["real", "imag"]
  | _ => []

/-- The type whose numbers have the parts that those of a type have. -/
def numberType : ValueType → ValueType
  | .bool => .int
  | t => t

/-- What a type says of itself. -/
def about? : ValueType → Option String
  | .root =>
    some <|
      "The base class of the class hierarchy.\n\n" ++
        "When called, it accepts no arguments and returns a new featureless\n" ++
        "instance that has no instance attributes and cannot be given any.\n"
  | .kind =>
    some <|
      "type(object) -> the object's type\n" ++
        "type(name, bases, dict, **kwds) -> a new type"
  | .int =>
    some <|
      "int([x]) -> integer\nint(x, base=10) -> integer\n\n" ++
        "Convert a number or string to an integer, or return 0 if no arguments\n" ++
        "are given.  If x is a number, return x.__int__().  For floating point\n" ++
        "numbers, this truncates towards zero.\n\n" ++
        "If x is not a number or if base is given, then x must be a string,\n" ++
        "bytes, or bytearray instance representing an integer literal in the\n" ++
        "given base.  The literal can be preceded by '+' or '-' and be surrounded\n" ++
        "by whitespace.  The base defaults to 10.  Valid bases are 0 and 2-36.\n" ++
        "Base 0 means to interpret the base from the string as an integer literal.\n" ++
        ">>> int('0b100', base=0)\n4"
  | .bool =>
    some <|
      "bool(x) -> bool\n\n" ++
        "Returns True when the argument x is true, False otherwise.\n" ++
        "The builtins True and False are the only two instances of the class bool.\n" ++
        "The class bool is a subclass of the class int, and cannot be subclassed."
  | .real =>
    some <|
      "Convert a string or number to a floating point number, if possible."
  | .text =>
    some <|
      "str(object='') -> str\n" ++
        "str(bytes_or_buffer[, encoding[, errors]]) -> str\n\n" ++
        "Create a new string object from the given object. If encoding or\n" ++
        "errors is specified, then the object must expose a data buffer\n" ++
        "that will be decoded using the given encoding and error handler.\n" ++
        "Otherwise, returns the result of object.__str__() (if defined)\n" ++
        "or repr(object).\nencoding defaults to sys.getdefaultencoding().\n" ++
        "errors defaults to 'strict'."
  | .list =>
    some <|
      "Built-in mutable sequence.\n\n" ++
        "If no argument is given, the constructor creates a new empty list.\n" ++
        "The argument must be an iterable if specified."
  | .map =>
    some <|
      "dict() -> new empty dictionary\n" ++
        "dict(mapping) -> new dictionary initialized from a mapping object's\n" ++
        "    (key, value) pairs\n" ++
        "dict(iterable) -> new dictionary initialized as if via:\n    d = \x7b\x7d\n" ++
        "    for k, v in iterable:\n        d[k] = v\n" ++
        "dict(**kwargs) -> new dictionary initialized with the name=value pairs\n" ++
        "    in the keyword argument list.  For example:  dict(one=1, two=2)"
  | .tuple =>
    some <|
      "Built-in immutable sequence.\n\n" ++
        "If no argument is given, the constructor returns an empty tuple.\n" ++
        "If iterable is specified the tuple is initialized from iterable's items.\n" ++
        "\nIf the argument is a tuple, the return value is the same object."
  | .null => none

end ValueType

def Value.typeName (v : Value) : String :=
  (ValueType.ofValue v).name

end BucketStore
