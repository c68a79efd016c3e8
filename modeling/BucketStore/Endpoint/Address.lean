import BucketStore.Text.Blank

/-!
# Address literals

The texts that are addresses of the Internet Protocol, version 4 and version 6.
-/

namespace BucketStore.Address

open BucketStore.Text

def isHexDigit (c : Char) : Bool :=
  c.isDigit || (decide ('a' ≤ c) && decide (c ≤ 'f')) || (decide ('A' ≤ c) && decide (c ≤ 'F'))

/-- The number that ASCII digits denote. -/
def natOf (ds : List Char) : Nat :=
  ds.foldl (fun n d => 10 * n + (d.toNat - 48)) 0

/-- Whether the text is a number up to 255 without needless zeros. -/
def isOctet (cs : List Char) : Bool :=
  !cs.isEmpty && cs.all Char.isDigit && decide (cs.length ≤ 3) &&
    (cs == ['0'] || cs.head? != some '0') && decide (natOf cs ≤ 255)

def isVersion4 (cs : List Char) : Bool :=
  let parts := splitAt '.' cs
  parts.length == 4 && parts.all isOctet

/-- Whether the text is one to four hexadecimal digits. -/
def isGroup (cs : List Char) : Bool :=
  !cs.isEmpty && decide (cs.length ≤ 4) && cs.all isHexDigit

/-- Whether the parts are groups, or a single empty part at the end of the address. -/
def areGroups (parts : List (List Char)) : Bool :=
  parts == [[]] || parts.all isGroup

/-- The number of groups among parts of which one may be empty. -/
def groupCount (parts : List (List Char)) : Nat :=
  (parts.filter fun part => !part.isEmpty).length

/-- The parts with a version 4 address at the end replaced by the two groups that it stands for;
none if the last part has points and is no such address. -/
def expandVersion4? (parts : List (List Char)) : Option (List (List Char)) :=
  match parts.getLast? with
  | some last =>
    if last.contains '.' then
      if isVersion4 last then some (parts.dropLast ++ [['0'], ['0']]) else none
    else some parts
  | none => none

/-- The position of the first empty part that is neither the first nor the last one. -/
def gap? (parts : List (List Char)) : Option Nat :=
  ((parts.drop 1).dropLast.findIdx? List.isEmpty).map fun i => i + 1

/-- Whether the parts between colons make up an address: eight groups, or fewer with one gap that
stands for the missing ones. -/
def areVersion6Parts (parts : List (List Char)) : Bool :=
  match gap? parts with
  | none => parts.length == 8 && parts.all isGroup
  | some i =>
    let before := parts.take i
    let after := parts.drop (i + 1)
    areGroups before && areGroups after && decide (groupCount before + groupCount after < 8)

/-- Whether the text is an address of version 6 without a scope. -/
def isVersion6 (cs : List Char) : Bool :=
  let parts := splitAt ':' cs
  decide (3 ≤ parts.length) &&
    match expandVersion4? parts with
    | some parts => areVersion6Parts parts
    | none => false

/-- Whether the text is an address of version 6, with or without a scope after a percent sign. -/
def isScopedVersion6 (cs : List Char) : Bool :=
  let scope := (cs.dropWhile fun c => c != '%').drop 1
  isVersion6 (cs.takeWhile fun c => c != '%') &&
    (!cs.contains '%' || (!scope.isEmpty && !scope.contains '%'))

end BucketStore.Address
