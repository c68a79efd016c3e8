/-!
# Causes of bad fields

Why a field of a configuration cannot be read, and which field it is.
-/

namespace BucketStore.Config

/-- Why a field cannot be read. -/
inductive Cause where
  | intParsing
  | intParsingSize
  | intType
  | intFromFloat
  | finiteNumber
  | stringType
  | boolParsing
  | boolType
  | greaterThan
  | notPositive
deriving DecidableEq, Inhabited, Repr

namespace Cause

def name : Cause → String
  | .intParsing => "int_parsing"
  | .intParsingSize => "int_parsing_size"
  | .intType => "int_type"
  | .intFromFloat => "int_from_float"
  | .finiteNumber => "finite_number"
  | .stringType => "string_type"
  | .boolParsing => "bool_parsing"
  | .boolType => "bool_type"
  | .greaterThan => "greater_than"
  | .notPositive => "value_error"

/-- The message of the one cause that has a wording of its own. -/
def message? : Cause → Option String
  | .notPositive => some "Value error, 必须为正整数"
  | _ => none

end Cause

structure FieldError where
  field : String
  cause : Cause
deriving DecidableEq, Inhabited, Repr

end BucketStore.Config
