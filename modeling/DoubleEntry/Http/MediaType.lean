import DoubleEntry.Text.Digits

/-!
Media types, as far as it takes to recognise JSON: `type/subtype` of token characters, a suffix behind the
last plus of the subtype, and parameters whose values are tokens or quoted. Case does not matter.
-/

set_option autoImplicit false

namespace DoubleEntry.Http

def tokenMarks : List Char := "!#$%&'*+-.^_\x60|~".toList

def isToken (c : Char) : Bool := c.isAlphanum || tokenMarks.contains c

def isQuotedChar (c : Char) : Bool := 31 < c.toNat && c.toNat < 127

inductive ParamState where
  | start
  | name
  | value
  | token
  | quoted
  | afterQuoted
deriving DecidableEq, Repr

def paramStep (state : ParamState) (c : Char) : Option ParamState :=
  match state with
  | .start => if c == ' ' then some .start else if isToken c then some .name else none
  | .name => if c == '=' then some .value else if isToken c then some .name else none
  | .value => if c == '"' then some .quoted else if isToken c then some .token else none
  | .token => if c == ';' then some .start else if isToken c then some .token else none
  | .quoted => if c == '"' then some .afterQuoted else if isQuotedChar c then some .quoted else none
  | .afterQuoted => if c == ';' then some .start else if c == ' ' then some .afterQuoted else none

def paramsFrom (state : ParamState) : List Char → Bool
  | [] => state != .name && state != .quoted
  | c :: rest =>
    match paramStep state c with
    | some state => paramsFrom state rest
    | none => false

def isSubtypeEnd (c : Char) : Bool := c == ';' || c == ' '

def mediaType? (text : List Char) : Option (List Char × List Char × Option (List Char)) :=
  let kind := text.takeWhile (· != '/')
  let afterKind := (text.drop kind.length).tail
  let subtype := afterKind.takeWhile fun c => !isSubtypeEnd c
  let params := (afterKind.drop subtype.length).tail
  let suffix := (subtype.reverse.takeWhile (· != '+')).reverse
  let base := subtype.take (subtype.length - suffix.length - 1)
  if kind.length < text.length && !kind.isEmpty && kind.all isToken && !subtype.isEmpty &&
      subtype.all isToken && paramsFrom .start params then
    if suffix.length < subtype.length && !base.isEmpty then some (kind, base, some suffix)
    else some (kind, subtype, none)
  else none

def isVisibleAscii (c : Char) : Bool := (32 ≤ c.toNat && c.toNat < 127) || c == '\t'

def jsonName : List Char := "json".toList

def announcesJson (value : String) : Bool :=
  value.toList.all isVisibleAscii &&
    match mediaType? (value.toList.map Char.toLower) with
    | some (kind, subtype, suffix) =>
      kind == "application".toList && (subtype == jsonName || suffix == some jsonName)
    | none => false

end DoubleEntry.Http
