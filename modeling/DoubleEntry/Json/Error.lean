import DoubleEntry.Binary64
import DoubleEntry.Text.Quoted
import DoubleEntry.Text.Utf8

/-!
What can be wrong with a JSON text. A cause comes with the index of the byte where it was noticed and
with the fields and elements inside which that was; line and column are counted from the text.
-/

set_option autoImplicit false

namespace DoubleEntry.Json

open Text (Bytes)

inductive Found where
  | integer (n : Int)
  | float (x : Binary64)
  | boolean (b : Bool)
  | text (s : String)
  | null
  | list
  | object

def Found.message : Found → String
  | .integer n => s!"integer \x60{n}\x60"
  | .float x => "floating point \x60" ++ String.ofList x.markedText ++ "\x60"
  | .boolean b => s!"boolean \x60{b}\x60"
  | .text s => "string " ++ Text.quote s
  | .null => "null"
  | .list => "sequence"
  | .object => "map"

inductive Cause where
  | endInList | endInObject | endInText | endInValue
  | expectedColon | expectedListEnd | expectedObjectEnd | expectedIdent | expectedValue
  | invalidEscape | invalidNumber | numberOutOfRange | invalidCodePoint | controlCharacter
  | keyNotText | loneSurrogate | trailingComma | trailingCharacters | endOfEscape
  | wrongType (found : Found) (expected : String)
  | wrongValue (found : Found) (expected : String)
  | wrongLength (length : Nat) (expected : String)
  | missingField (name : String)
  | duplicateField (name : String)
  | refused (reason : String)

def Cause.message : Cause → String
  | .endInList => "EOF while parsing a list"
  | .endInObject => "EOF while parsing an object"
  | .endInText => "EOF while parsing a string"
  | .endInValue => "EOF while parsing a value"
  | .expectedColon => "expected \x60:\x60"
  | .expectedListEnd => "expected \x60,\x60 or \x60]\x60"
  | .expectedObjectEnd => "expected \x60,\x60 or \x60\x7d\x60"
  | .expectedIdent => "expected ident"
  | .expectedValue => "expected value"
  | .invalidEscape => "invalid escape"
  | .invalidNumber => "invalid number"
  | .numberOutOfRange => "number out of range"
  | .invalidCodePoint => "invalid unicode code point"
  | .controlCharacter => "control character (\\u0000-\\u001F) found while parsing a string"
  | .keyNotText => "key must be a string"
  | .loneSurrogate => "lone leading surrogate in hex escape"
  | .trailingComma => "trailing comma"
  | .trailingCharacters => "trailing characters"
  | .endOfEscape => "unexpected end of hex escape"
  | .wrongType found expected => "invalid type: " ++ found.message ++ ", expected " ++ expected
  | .wrongValue found expected => "invalid value: " ++ found.message ++ ", expected " ++ expected
  | .wrongLength length expected => s!"invalid length {length}, expected " ++ expected
  | .missingField name => "missing field \x60" ++ name ++ "\x60"
  | .duplicateField name => "duplicate field \x60" ++ name ++ "\x60"
  | .refused reason => reason

-- The text is well formed as far as it was read, but its content does not fit.
def Cause.isContent : Cause → Bool
  | .wrongType .. | .wrongValue .. | .wrongLength .. => true
  | .missingField _ | .duplicateField _ | .refused _ => true
  | _ => false

inductive Step where
  | field (name : String)
  | element (index : Nat)

structure Error where
  cause : Cause
  index : Nat
  path : List Step

def Error.inside (step : Step) (e : Error) : Error := { e with path := step :: e.path }

def newline : UInt8 := 10

def lineOf (before : Bytes) : Nat := before.count newline + 1
def columnOf (before : Bytes) : Nat := (before.reverse.takeWhile (· != newline)).length

def Error.message (input : Bytes) (e : Error) : String :=
  let before := input.take e.index
  let line := lineOf before
  let column := columnOf before
  e.cause.message ++ s!" at line {line} column {column}"

def Step.text : Step → String
  | .field name => name
  | .element index => s!"[{index}]"

-- Fields are divided by a point; an element follows its list directly.
def pathText : List Step → String
  | [] => ""
  | [step] => step.text
  | step :: .element index :: rest => step.text ++ pathText (.element index :: rest)
  | step :: rest => step.text ++ "." ++ pathText rest

def Error.messageWithPath (input : Bytes) (e : Error) : String :=
  if e.path.isEmpty then e.message input else pathText e.path ++ ": " ++ e.message input

end DoubleEntry.Json
