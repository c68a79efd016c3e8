import BucketStore.Service.Basic

/-!
# Scripted services

A service that answers as scripts say, one for each method: always the same, one answer after the
other, or by the key of the object. A method without a script is answered in the usual way.
-/

namespace BucketStore

/-- An error answer as scripts have it. -/
structure ServiceError where
  method : String
  message : Value
  status : Value
deriving Inhabited, Repr

/-- The failure that a client makes of an error answer: it shows the message. -/
def Failure.service (error : ServiceError) : Failure :=
  .answered error.status error.message.asText

inductive Script where
  | answer (a : Answer)
  | fail (e : Failure)
  | sequence (scripts : List Script)
  | byKey (scripts : List (String × Script))
deriving Inhabited

namespace Script

/-- The failure of a sequence that has come to its end. -/
def exhausted : Failure :=
  .fault .general [.text "script exhausted"]

/-- The failure of a value that cannot be looked up as a key. -/
def badKey (v : Value) : Failure :=
  .fault .wrongType [.text ("unhashable type: '" ++ v.typeName ++ "'")]

mutual
/-- What a script answers, and what remains of it. -/
def step (usual : Answer) (key : Value) : Script → Result Answer × Script
  | .answer a => (.ok a, .answer a)
  | .fail e => (.error e, .fail e)
  | .sequence [] => (.error exhausted, .sequence [])
  | .sequence (s :: scripts) => ((step usual key s).1, .sequence scripts)
  | .byKey scripts =>
    if key.isKey then
      let (r, scripts) := stepAt usual key scripts
      (r, .byKey scripts)
    else (.error (badKey key), .byKey scripts)

/-- What the script of a key answers, and what remains of all of them. -/
def stepAt (usual : Answer) (key : Value) :
    List (String × Script) → Result Answer × List (String × Script)
  | [] => (.ok usual, [])
  | (name, s) :: scripts =>
    if key.sameKey (.text name) then
      let (r, s) := step usual key s
      (r, (name, s) :: scripts)
    else
      let (r, scripts) := stepAt usual key scripts
      (r, (name, s) :: scripts)
end

/-- How many answers a script gives that are not always the same. -/
def length : Script → Nat
  | .sequence scripts => scripts.length + 1
  | _ => 0

end Script

abbrev Scripts := List (String × Script)

namespace Scripts

/-- Answers a call by the first script of its method. -/
def answer (usual : Call → Answer) (c : Call) : Scripts → Result Answer × Scripts
  | [] => (.ok (usual c), [])
  | (method, s) :: scripts =>
    if method == c.method then
      let (r, s) := s.step (usual c) (c.key?.getD .null)
      (r, (method, s) :: scripts)
    else
      let (r, scripts) := answer usual c scripts
      (r, (method, s) :: scripts)

/-- The service that answers as the scripts say, and in the usual way where they say nothing, to the
usual client. -/
def service (usual : Call → Answer) : Service Scripts where
  client := answer usual
  refusal? := Connection.usualRefusal?

/-- How many answers the scripts give that are not always the same. -/
def length (scripts : Scripts) : Nat :=
  (scripts.map fun s => s.2.length).foldr (· + ·) 0

end Scripts

end BucketStore
