import DoubleEntry.Sql.Connection
import DoubleEntry.Text.Digits

/-!
Addresses of databases. A connection is made only to an address of the right kind: one that has a scheme, and
one that a driver stands behind. What the network has to say comes last.
-/

set_option autoImplicit false

namespace DoubleEntry.Sql

structure Url where
  scheme : String
  rest : List Char
deriving DecidableEq, Repr

namespace Url

def isSchemeChar (c : Char) : Bool := c.isAlphanum || c == '+' || c == '-' || c == '.'

-- Controls and spaces at the ends do not count, nor do line ends and tabs anywhere.
def trimmed (text : List Char) : List Char :=
  let inner := (text.dropWhile fun c => c ≤ ' ').reverse.dropWhile fun c => c ≤ ' '
  inner.reverse.filter fun c => c != '\t' && c != '\n' && c != '\r'

def hostedSchemes : List String := ["http", "https", "ws", "wss", "ftp"]

def isSlash (c : Char) : Bool := c == '/' || c == '\\'

def endsAuthority (hosted : Bool) (c : Char) : Bool :=
  c == '/' || c == '?' || c == '#' || (hosted && c == '\\')

-- The part behind the last of the characters that `p` is true of.
def behindLast (p : Char → Bool) (text : List Char) : List Char :=
  (text.reverse.takeWhile fun c => !p c).reverse

def isForbidden (c : Char) : Bool := c == '\x00' || " #/:<>?@[\\]^|".toList.contains c

def isPort (text : List Char) : Bool :=
  text.isEmpty || ((Text.nat? text).filter fun n => n < 65536).isSome

def splitHost (text : List Char) : List Char × List Char :=
  match text with
  | '[' :: inner => (inner.takeWhile (· != ']'), (inner.dropWhile (· != ']')).drop 1)
  | _ => (text.takeWhile (· != ':'), text.dropWhile (· != ':'))

def isHostAndPort (hosted : Bool) (text : List Char) : Bool :=
  let (host, tail) := splitHost text
  let hostFits := match text with
    | '[' :: _ => !host.isEmpty && host.all fun c => c.isAlphanum || c == ':' || c == '.'
    | _ => host.all fun c => !isForbidden c
  let portFits := match tail with
    | [] => true
    | ':' :: port => isPort port
    | _ => false
  hostFits && portFits && !(host.isEmpty && (hosted || !tail.isEmpty))

def isAuthority (hosted : Bool) (text : List Char) : Bool :=
  let address := behindLast (· == '@') text
  isHostAndPort hosted address && !(address.isEmpty && text.contains '@')

def authority? (u : Url) : Option (List Char) :=
  if hostedSchemes.contains u.scheme then
    some ((u.rest.dropWhile isSlash).takeWhile fun c => !endsAuthority true c)
  else
    match u.rest with
    | '/' :: '/' :: rest => some (rest.takeWhile fun c => !endsAuthority false c)
    | _ => none

def hasSoundAuthority (u : Url) : Bool :=
  u.authority?.all (isAuthority (hostedSchemes.contains u.scheme))

def host (u : Url) : String :=
  String.ofList (splitHost (behindLast (· == '@') (u.authority?.getD []))).1

def ofText? (text : String) : Option Url :=
  let text := trimmed text.toList
  let scheme := text.takeWhile isSchemeChar
  match text.dropWhile isSchemeChar with
  | ':' :: rest =>
    let u : Url := ⟨(String.ofList scheme).toLower, rest⟩
    if scheme.head?.any Char.isAlpha && u.hasSoundAuthority then some u else none
  | _ => none

def hasDriver (u : Url) : Bool := u.scheme == "postgres" || u.scheme == "postgresql"

end Url

def communicationFailure (detail : String) : String := "error communicating with database: " ++ detail

abbrev Network := String → Except String Connection

def connect (network : Network) (address : String) : Except SqlError Connection :=
  match Url.ofText? address with
  | none =>
    .error (.connection ("The connection string '" ++ address ++ "' cannot be parsed."))
  | some u =>
    if !u.hasDriver then
      .error (.connection ("The connection string '" ++ address ++ "' has no supporting driver."))
    else
      match network u.host with
      | .ok connection => .ok connection
      | .error detail => .error (.connection (communicationFailure detail))

end DoubleEntry.Sql
