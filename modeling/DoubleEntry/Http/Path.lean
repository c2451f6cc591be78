import DoubleEntry.Text.Digits
import DoubleEntry.Text.Utf8

/-!
Targets of requests, the paths in them, and the parameters in those. A target that starts with a slash is a path and a query;
any other names a scheme or an authority, and only one with a scheme has a path then. A path is matched as it was sent; a
parameter is decoded from its percent escapes after that, and has to be UTF-8 and of the type that is asked for. An escape that
is none stands for itself.
-/

set_option autoImplicit false

namespace DoubleEntry.Http

open Text (Bytes)

/-- A target without its fragment: what stands before the path, the path, and the query with its mark. -/
structure Target where
  origin : String
  path : String
  query : String
deriving DecidableEq, Repr

namespace Target

def text (t : Target) : String := t.origin ++ t.path ++ t.query

-- The usual schemes are shown in small letters, however they were sent.
def schemeText (scheme : String) : String :=
  if ["http", "https"].contains scheme.toLower then scheme.toLower else scheme

def ofText (text : String) : Target :=
  let whole := text.toList.takeWhile (· != '#')
  let place := whole.takeWhile (· != '?')
  let query := String.ofList (whole.dropWhile (· != '?'))
  match place with
  | '/' :: _ | ['*'] => ⟨"", String.ofList place, query⟩
  | _ =>
    match place.dropWhile (· != ':') with
    | ':' :: '/' :: '/' :: rest =>
      let scheme := String.ofList (place.takeWhile (· != ':'))
      let path := String.ofList (rest.dropWhile (· != '/'))
      { origin := schemeText scheme ++ "://" ++ String.ofList (rest.takeWhile (· != '/'))
        path := if path.isEmpty then "/" else path
        query }
    | _ => ⟨String.ofList place, "", query⟩

end Target

def hexValue? (c : Char) : Option Nat :=
  if c.isDigit then some (Text.digitValue c)
  else if 'a' ≤ c && c ≤ 'f' then some (c.toNat - 87)
  else if 'A' ≤ c && c ≤ 'F' then some (c.toNat - 55)
  else none

def percentDecode : List Char → Bytes
  | '%' :: a :: b :: rest =>
    match hexValue? a, hexValue? b with
    | some high, some low => (high * 16 + low).toUInt8 :: percentDecode rest
    | _, _ => '%'.toNat.toUInt8 :: percentDecode (a :: b :: rest)
  | c :: rest => String.utf8EncodeChar c ++ percentDecode rest
  | [] => []

def decodeParam? (raw : String) : Option String := Text.decode? (percentDecode raw.toList)

inductive ParamType where
  | int64
  | byte
  | boolean
deriving DecidableEq, Repr

namespace ParamType

def name : ParamType → String
  | int64 => "i64"
  | byte => "u8"
  | boolean => "bool"

def admits (type : ParamType) (text : String) : Bool :=
  match type with
  | int64 => (Text.int64? text.toList).isSome
  | byte =>
    text.toList.head? != some '-' && ((Text.int? text.toList).filter fun n => n < 256).isSome
  | boolean => text == "true" || text == "false"

end ParamType

inductive ParamTypes where
  | one (type : ParamType)
  | tuple (types : List ParamType)
deriving DecidableEq, Repr

inductive PathError where
  | notUtf8 (name : String)
  | wrongCount (expected found : Nat) (single : Bool)
  | wrongValue (value : String) (type : ParamType)
  | wrongValueAt (index : Nat) (value : String) (type : ParamType)
deriving DecidableEq, Repr

def PathError.message : PathError → String
  | .notUtf8 name => "Invalid URL: Invalid UTF-8 in \x60" ++ name ++ "\x60"
  | .wrongCount expected found single =>
    s!"Wrong number of path arguments for \x60Path\x60. Expected {expected} but got {found}" ++
      if single then
        ". Note that multiple parameters must be extracted with a tuple \x60Path<(_, _)>\x60 or a struct \x60Path<YourParams>\x60"
      else ""
  | .wrongValue value type =>
    "Invalid URL: Cannot parse \x60" ++ value ++ "\x60 to a \x60" ++ type.name ++ "\x60"
  | .wrongValueAt index value type =>
    s!"Invalid URL: Cannot parse value at index {index} with value \x60" ++ value ++
      "\x60 to a \x60" ++ type.name ++ "\x60"

def decodeParams : List (String × String) → Except PathError (List String)
  | [] => .ok []
  | (name, raw) :: rest =>
    match decodeParam? raw with
    | none => .error (.notUtf8 name)
    | some value => (decodeParams rest).map (value :: ·)

def checkTuple : Nat → List ParamType → List String → Except PathError Unit
  | index, type :: types, value :: values =>
    if type.admits value then checkTuple (index + 1) types values
    else .error (.wrongValueAt index value type)
  | _, _, _ => .ok ()

def extract (types : ParamTypes) (params : List (String × String)) : Except PathError (List String) := do
  let values ← decodeParams params
  match types with
  | .one type =>
    match values with
    | [value] => if type.admits value then .ok [value] else .error (.wrongValue value type)
    | _ => .error (.wrongCount 1 values.length true)
  | .tuple types =>
    if values.length = types.length then (checkTuple 0 types values).map fun _ => values
    else .error (.wrongCount types.length values.length false)

def segments (path : String) : List String := path.splitOn "/"

end DoubleEntry.Http
