import BucketStore.Time.HttpDate
import BucketStore.Time.Rfc3339

/-!
# Time stamps

The time stamps of remote answers. The layouts are tried in order and the first that fits gives the
time; a text that fits none, like an absent one, gives the zero time.
-/

namespace BucketStore.Time.Timestamp

/-- The time by the three layouts of RFC 3339, with the fraction cut to microseconds. -/
def rfc3339? (s : String) : Option DateTime :=
  let cs := Rfc3339.cutFractions s.toList
  [Rfc3339.wholeSeconds, Rfc3339.fractional, Rfc3339.universal].findSome? fun read => read cs

/-- Reads the time stamp of a listed object. -/
def parse (s : String) : Result DateTime :=
  let s := Text.trim s
  match rfc3339? s with
  | some t => .ok t
  | none => HttpDate.parse s

end BucketStore.Time.Timestamp
