import BucketStore.Failure

/-!
# Faulty templates

What can be wrong with a template or with the format of one of its fields, and how it is said.
-/

namespace BucketStore.Template

inductive Fault where
  | loneOpening
  | loneClosing
  | unclosedField
  | braceInName
  | unclosedFormat
  | noConversion
  | afterConversion
  | unknownConversion (c : Char)
  | tooDeep
  | tooManyDigits
  | emptyAttribute
  | unclosedIndex
  | afterIndex
  | missingPrecision
  | invalidFormat (format typeName : String)
  | unknownCode (code : Char) (typeName : String)
  | bothSeparators
  | separatorWith (separator code : Char)
  | signInText
  | spaceInText
  | zeroInText
  | alternateInText
  | paddingInText
  | precisionInInteger
  | precisionTooLarge
  | zeroInInteger
  | signWithCharacter
  | alternateWithCharacter
deriving DecidableEq, Repr

/-- A character by itself if it is a visible one of ASCII, else by its code point. -/
def shownCode (limit : Nat) (c : Char) : String :=
  if 32 < c.toNat ∧ c.toNat < limit then String.singleton c
  else "\\x" ++ String.ofList (Nat.toDigits 16 c.toNat)

def Fault.message : Fault → String
  | .loneOpening => "Single '\x7b' encountered in format string"
  | .loneClosing => "Single '\x7d' encountered in format string"
  | .unclosedField => "expected '\x7d' before end of string"
  | .braceInName => "unexpected '\x7b' in field name"
  | .unclosedFormat => "unmatched '\x7b' in format spec"
  | .noConversion => "end of string while looking for conversion specifier"
  | .afterConversion => "expected ':' after conversion specifier"
  | .unknownConversion c => "Unknown conversion specifier " ++ shownCode 127 c
  | .tooDeep => "Max string recursion exceeded"
  | .tooManyDigits => "Too many decimal digits in format string"
  | .emptyAttribute => "Empty attribute in format string"
  | .unclosedIndex => "Missing ']' in format string"
  | .afterIndex => "Only '.' or '[' may follow ']' in format field specifier"
  | .missingPrecision => "Format specifier missing precision"
  | .invalidFormat format typeName =>
    "Invalid format specifier '" ++ format ++ "' for object of type '" ++ typeName ++ "'"
  | .unknownCode code typeName =>
    "Unknown format code '" ++ shownCode 128 code ++ "' for object of type '" ++ typeName ++ "'"
  | .bothSeparators => "Cannot specify both ',' and '_'."
  | .separatorWith separator code =>
    "Cannot specify '" ++ String.singleton separator ++ "' with '" ++ shownCode 128 code ++ "'."
  | .signInText => "Sign not allowed in string format specifier"
  | .spaceInText => "Space not allowed in string format specifier"
  | .zeroInText => "Negative zero coercion (z) not allowed in string format specifier"
  | .alternateInText => "Alternate form (#) not allowed in string format specifier"
  | .paddingInText => "'=' alignment not allowed in string format specifier"
  | .precisionInInteger => "Precision not allowed in integer format specifier"
  | .precisionTooLarge => "precision too big"
  | .zeroInInteger => "Negative zero coercion (z) not allowed in integer format specifier"
  | .signWithCharacter => "Sign not allowed with integer format specifier 'c'"
  | .alternateWithCharacter => "Alternate form (#) not allowed with integer format specifier 'c'"

def Fault.toFailure (f : Fault) : Failure :=
  .invalidValue f.message

end BucketStore.Template
