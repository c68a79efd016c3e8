import BucketStore.Failure

/-!
# Arguments

Positional and named arguments against a list of parameters, and the failures built from them. A
parameter without a default must be given, and none may be given twice or be unknown.
-/

namespace BucketStore

/-- A parameter and its default, if it has one. -/
structure Parameter where
  name : String
  default? : Option Value
deriving Inhabited

namespace Parameter

def required (name : String) : Parameter :=
  ⟨name, none⟩

def optional (name : String) (default : Value) : Parameter :=
  ⟨name, some default⟩

/-- Names between single quotes, with commas and a last conjunction. -/
def listed : List String → String
  | [] => ""
  | [name] => "'" ++ name ++ "'"
  | [name, last] => "'" ++ name ++ "' and '" ++ last ++ "'"
  | [first, second, last] => "'" ++ first ++ "', '" ++ second ++ "', and '" ++ last ++ "'"
  | name :: names => "'" ++ name ++ "', " ++ listed names

/-- A number of things, in the singular if it is one. -/
def counted (n : Nat) (thing : String) : String :=
  toString n ++ " " ++ thing ++ (if n = 1 then "" else "s")

/-- The failure of an argument whose name is unknown or whose value was given before. -/
def namedFault? (filled parameters : List Parameter) (name : String) : Option String :=
  if name == "self" || filled.any fun p => p.name == name then
    some ("got multiple values for argument '" ++ name ++ "'")
  else if parameters.any fun p => p.name == name then none
  else some ("got an unexpected keyword argument '" ++ name ++ "'")

/-- How many values may be given by position; what is called is one of them itself. -/
def arity (parameters : List Parameter) : String :=
  let most := parameters.length + 1
  let least := parameters.countP (fun p => p.default?.isNone) + 1
  if least = most then counted most "positional argument"
  else "from " ++ toString least ++ " to " ++ counted most "positional argument"

/-- What is wrong with arguments: first with the named ones in their order, then with the number of
those by position, then what is missing. -/
def fault? (parameters : List Parameter) (positional : List Value) (named : Fields) :
    Option String :=
  let filled := parameters.take positional.length
  let missing := (parameters.drop positional.length).filter fun p =>
    p.default?.isNone && (named.get? p.name).isNone
  match named.findSome? fun field => namedFault? filled parameters field.1 with
  | some text => some text
  | none =>
    if parameters.length < positional.length then
      some ("takes " ++ arity parameters ++ " but " ++ toString (positional.length + 1) ++
        " were given")
    else if missing.isEmpty then none
    else
      some ("missing " ++ counted missing.length "required positional argument" ++ ": " ++
        listed (missing.map fun p => p.name))

/-- The values of the parameters in their order, for what is called. -/
def bind (callee : String) (parameters : List Parameter) (positional : List Value)
    (named : Fields) : Result (List Value) :=
  match fault? parameters positional named with
  | some text => .error (.badType (callee ++ " " ++ text))
  | none =>
    let rest := parameters.drop positional.length
    .ok (positional ++ rest.map fun p => ((named.get? p.name).or p.default?).getD .null)

end Parameter

/-- The fields of a value that is an object; anything else has none. -/
def Value.fields : Value → Fields
  | .object fields => fields
  | _ => []

namespace StorageError

/-- The parameters of a kind of storage error. -/
def parameters? : String → Option (List Parameter)
  | "StorageError" => some
    [.required "message", .optional "code" .null, .optional "details" .null]
  | "ConfigurationError" | "InvalidArgumentError" => some
    [.required "message", .optional "details" .null]
  | "ObjectNotFoundError" => some [.required "key", .optional "details" .null]
  | "RemoteError" => some
    [.required "operation", .required "message", .optional "details" .null]
  | "UnsupportedCapabilityError" => some [.required "capability", .required "backend"]
  | _ => none

/-- Details that are added to others: absent ones add nothing, and others must be named values. -/
def added (details : Value) : Result Fields :=
  if !details.isTruthy then .ok []
  else
    match details with
    | .object fields => .ok fields
    | v => .error (.badType ("'" ++ v.typeName ++ "' object is not a mapping"))

/-- The values that a message is made of can be written. -/
def checkWritable (vs : List Value) : Result Unit :=
  if Value.areWritable vs then .ok () else .error .tooManyDigits

/-- The storage error of a kind, from the values of its parameters. -/
def ofValues : String → List Value → Result StorageError
  | "StorageError", [message, code, details] => .ok (general message code details)
  | "ConfigurationError", [message, details] => .ok (configuration message details)
  | "InvalidArgumentError", [message, details] => .ok (invalidArgument message details)
  | "ObjectNotFoundError", [key, details] => do
    let details ← added details
    checkWritable [key]
    return objectNotFound key details
  | "RemoteError", [operation, message, details] => do
    let details ← added details
    checkWritable [operation, message]
    return remote operation message details
  | "UnsupportedCapabilityError", [capability, backend] => do
    checkWritable [backend, capability]
    return unsupported capability backend
  | _, _ => .error .wrongType

/-- The storage error of a named kind, if there is such a kind and it takes the arguments. -/
def ofArguments (kind : String) (positional : List Value) (named : Fields) :
    Result StorageError := do
  let some parameters := parameters? kind | .error .wrongType
  ofValues kind (← Parameter.bind (kind ++ ".__init__()") parameters positional named)

end StorageError

def Fault.ofName : String → Fault
  | "ValueError" => .invalidValue
  | "KeyError" => .missingKey
  | "IndexError" => .badIndex
  | "RuntimeError" => .runtime
  | "TypeError" => .wrongType
  | "AttributeError" => .missingAttribute
  | "OverflowError" => .overflow
  | "TimeoutError" => .timedOut
  | "CancelledError" => .cancelled
  | "CosClientError" => .client
  | "ConnectionError" => .connection
  | "OSError" => .system
  | _ => .general

/-- The kind of a fault of the operating system that is described by a number and more. -/
def Fault.ofNumber : Value → Fault
  | .int n => .ofErrorNumber n
  | .bool b => .ofErrorNumber (Value.boolInt b)
  | _ => .system

/-- How far a blocked operation came, if it is told in place of a path, must be a whole number of 64
bits. -/
def Fault.progressFault? (kind : Fault) (vs : List Value) : Option Failure :=
  match kind, vs.getD 2 .null with
  | .blocking, .real _ => some (.badType "'float' object cannot be interpreted as an integer")
  | .blocking, .int n =>
    if fitsWord n then none
    else some (.invalidValue "cannot fit 'int' into an index-sized integer")
  | _, _ => none

/-- The fault of a kind from its arguments. One of the operating system is refined by its error
number. -/
def Failure.ofFault? (kind : Fault) (vs : List Value) : Result Failure :=
  match kind, vs with
  | .system, number :: _ :: _ =>
    if maxSystemArguments < vs.length then .ok (.fault .system vs)
    else
      let kind := Fault.ofNumber number
      match kind.progressFault? vs with
      | some e => .error e
      | none => .ok (.fault kind vs)
  | kind, vs => .ok (.fault kind vs)

/-- The parameters of a failure that the client of the service reports. -/
def Failure.clientParameters : List Parameter :=
  [.required "message"]

/-- The failure of a named kind, if the kind takes the arguments. -/
def Failure.ofArguments? (kind : String) (positional : List Value) (named : Fields) :
    Result Failure :=
  if (StorageError.parameters? kind).isSome then
    (StorageError.ofArguments kind positional named).map .storage
  else if kind = "CosClientError" then
    (Parameter.bind "CosClientError.__init__()" clientParameters positional named).map
      (.fault .client)
  else if named.isEmpty then ofFault? (.ofName kind) positional
  else .error (.badType (kind ++ "() takes no keyword arguments"))

end BucketStore
