import BucketStore.Endpoint.Address
import BucketStore.Text.Case
import BucketStore.Text.Digit
import BucketStore.Text.Quoted

/-!
# The authority of a URL

What stands between the scheme of a URL and its path: an optional userinfo, a host and an optional
port. A host in brackets is an address of version 6 or of a later version.
-/

namespace BucketStore

open BucketStore.Text

/-- Why a text is not the authority of a URL. -/
inductive AuthorityError where
  | brackets
  | laterAddress
  | notAddress (host : String)
  | bracketedVersion4
  | lookalike (authority : String)
  | portText (port : String)
  | portRange
  | portDigits (count : Nat)
deriving DecidableEq, Repr

def AuthorityError.message : AuthorityError → String
  | .brackets => "Invalid IPv6 URL"
  | .laterAddress => "IPvFuture address is invalid"
  | .notAddress host => quoted host ++ " does not appear to be an IPv4 or IPv6 address"
  | .bracketedVersion4 => "An IPv4 address cannot be in brackets"
  | .lookalike authority =>
    "netloc '" ++ authority ++ "' contains invalid characters under NFKC normalization"
  | .portText port => "Port could not be cast to integer value as " ++ quoted port
  | .portRange => "Port out of range 0-65535"
  | .portDigits count =>
    "Exceeds the limit (4300 digits) for integer string conversion: value has " ++
      toString count ++ " digits; use sys.set_int_max_str_digits() to increase the limit"

/-- The host of a URL and what it was read from. -/
structure Authority where
  /-- Host and port as written. -/
  location : List Char
  /-- The host without brackets, in small letters up to a scope. -/
  host : List Char
deriving DecidableEq, Repr

namespace Authority

/-- Whether the character ends the authority of a URL. -/
def isEnd (c : Char) : Bool :=
  c == '/' || c == '?' || c == '#'

/-- Tabs and line ends count for nothing in a URL. -/
def dropBreaks (cs : List Char) : List Char :=
  cs.filter fun c => c != '\t' && c != '\r' && c != '\n'

/-- What precedes the first occurrence of a character, and what follows it. -/
def cut (sep : Char) (cs : List Char) : List Char × List Char :=
  (cs.takeWhile fun c => c != sep, (cs.dropWhile fun c => c != sep).drop 1)

/-- What follows the userinfo, that is, the last at-sign. -/
def dropUserinfo (cs : List Char) : List Char :=
  (cs.reverse.takeWhile fun c => c != '@').reverse

/-- The host and the text of the port. -/
def hostAndPort (location : List Char) : List Char × List Char :=
  if location.contains '[' then
    let (host, rest) := cut ']' (cut '[' location).2
    (host, (cut ':' rest).2)
  else cut ':' location

/-- The compatibility forms of a slash, a question mark, a number sign, an at-sign or a colon. -/
def lookalikes : List Nat :=
  [8263, 8264, 8265, 8448, 8449, 8453, 8454, 10868, 65043, 65046, 65109, 65110, 65119, 65131, 65283,
    65295, 65306, 65311, 65312]

/-- Whether the text is an address of a later version: the letter v, the version in hexadecimal, a
point and some text. -/
def isLaterAddress : List Char → Bool
  | 'v' :: cs =>
    let version := cs.takeWhile Address.isHexDigit
    match cs.dropWhile Address.isHexDigit with
    | '.' :: rest => !version.isEmpty && !rest.isEmpty
    | _ => false
  | _ => false

/-- Checks the host that the brackets of an authority hold. -/
def checkAddress (host : List Char) : Except AuthorityError Unit :=
  if host.head? = some 'v' then
    if isLaterAddress host then .ok () else .error .laterAddress
  else if Address.isVersion4 host then .error .bracketedVersion4
  else if Address.isScopedVersion6 host then .ok ()
  else .error (.notAddress (.ofList host))

/-- Checks the brackets of an authority: they come in pairs, after the userinfo nothing stands
before the opening one, and after the closing one only a port. -/
def checkBrackets (authority : List Char) : Except AuthorityError Unit :=
  if !authority.contains '[' && !authority.contains ']' then .ok ()
  else if !authority.contains '[' || !authority.contains ']' then .error .brackets
  else
    let location := dropUserinfo authority
    if location.contains '[' then
      let (before, inner) := cut '[' location
      let (host, after) := cut ']' inner
      if !before.isEmpty then .error .brackets
      else if !after.isEmpty && after.head? != some ':' then .error .brackets
      else checkAddress host
    else checkAddress (cut ':' location).1

/-- Checks the text of a port: ASCII digits, if any, of a value up to 65535. -/
def checkPort (port : List Char) : Except AuthorityError Unit :=
  if port.isEmpty then .ok ()
  else if !port.all Char.isDigit then .error (.portText (.ofList port))
  else if maxDigits < port.length then .error (.portDigits port.length)
  else if 65535 < Address.natOf port then .error .portRange
  else .ok ()

/-- The host in small letters, except for a scope after a percent sign. -/
def lowerHost (host : List Char) : List Char :=
  (lower (.ofList (host.takeWhile fun c => c != '%'))).toList ++ host.dropWhile fun c => c != '%'

/-- Reads the authority at the front of what follows the scheme of a URL. -/
def parse (cs : List Char) : Except AuthorityError Authority := do
  let authority := (dropBreaks cs).takeWhile fun c => !isEnd c
  checkBrackets authority
  if authority.any fun c => lookalikes.contains c.toNat then
    throw (.lookalike (.ofList authority))
  let location := dropUserinfo authority
  let (host, port) := hostAndPort location
  checkPort port
  return ⟨location, lowerHost host⟩

end Authority

end BucketStore
