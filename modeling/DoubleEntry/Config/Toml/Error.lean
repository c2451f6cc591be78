/-!
Faults in a TOML text. A fault stands at a place, counted back from the end of the text, and its message
shows the line with the place marked below it.
-/

set_option autoImplicit false

namespace DoubleEntry.Config.Toml

inductive Cause where
  | unclosedHeader
  | unclosedListHeader
  | keyWithoutValue
  | emptyKey
  | invalidKey
  | unquotedText
  | unclosedText (long : Bool)
  | unclosedLiteral (long : Bool)
  | controlInText (long : Bool)
  | controlInLiteral (long : Bool)
  | controlInComment
  | bareReturn
  | missingLineEnd
  | unclosedList
  | unclosedTable
  | missingListComma
  | missingTableComma
  | trailing
  | invalidEscape
  | invalidCodePoint
  | tooLarge
  | duplicateKey
deriving DecidableEq, Repr

def textName (long : Bool) : String := if long then "multi-line basic string" else "basic string"

def literalName (long : Bool) : String := if long then "multi-line literal string" else "literal string"

def Cause.message : Cause → String
  | unclosedHeader => "unclosed table, expected \x60]\x60"
  | unclosedListHeader => "unclosed array table, expected \x60]]\x60"
  | keyWithoutValue => "key with no value, expected \x60=\x60"
  | emptyKey => "unquoted keys cannot be empty, expected letters, numbers, \x60-\x60, \x60_\x60"
  | invalidKey => "invalid unquoted key, expected letters, numbers, \x60-\x60, \x60_\x60"
  | unquotedText => "string values must be quoted, expected literal string"
  | unclosedText long => "invalid " ++ textName long ++ ", expected \x60\"\x60"
  | unclosedLiteral long => "invalid " ++ literalName long ++ ", expected \x60'\x60"
  | controlInText long =>
    "invalid " ++ textName long ++ ", expected " ++
      if long then "\x60\\\x60, characters" else "non-double-quote visible characters, \x60\\\x60"
  | controlInLiteral long =>
    "invalid " ++ literalName long ++ ", expected " ++
      if long then "non-single-quote characters" else "non-single-quote visible characters"
  | controlInComment => "invalid comment character, expected printable characters"
  | bareReturn => "carriage return must be followed by newline, expected newline"
  | missingLineEnd => "invalid " ++ textName true ++ ", expected newline"
  | unclosedList => "unclosed array, expected \x60]\x60"
  | unclosedTable => "unclosed inline table, expected \x60\x7d\x60"
  | missingListComma => "missing comma between array elements, expected \x60,\x60"
  | missingTableComma => "missing comma between key-value pairs, expected \x60,\x60"
  | trailing => "unexpected key or value, expected newline, \x60#\x60"
  | invalidEscape =>
    "missing escaped value, expected \x60b\x60, \x60f\x60, \x60n\x60, \x60r\x60, \x60\\\x60, \x60\"\x60, " ++
      "\x60x\x60, \x60u\x60, \x60U\x60"
  | invalidCodePoint => "invalid value, expected unicode hexadecimal value"
  | tooLarge => "u64 value was too large"
  | duplicateKey => "duplicate key"

structure Fault where
  cause : Cause
  left : Nat
  width : Nat
deriving DecidableEq, Repr

def Fault.at {α : Type} (cause : Cause) (rest : List Char) (width : Nat) : Except Fault α :=
  .error ⟨cause, rest.length, width⟩

namespace Fault

def lineText (before after : List Char) : List Char :=
  (before.reverse.takeWhile (· != '\n')).reverse ++ after.takeWhile (· != '\n')

def message (text : List Char) (f : Fault) : String :=
  let before := text.take (text.length - f.left)
  let after := text.drop (text.length - f.left)
  let line := toString (before.count '\n' + 1)
  let column := (before.reverse.takeWhile (· != '\n')).length
  let gutter := String.ofList (List.replicate (line.length + 1) ' ') ++ "|"
  let shown := (after.takeWhile (· != '\n')).length
  let marks := List.replicate (column + 1) ' ' ++
    List.replicate (max 1 (min f.width shown)) '^'
  "TOML parse error at line " ++ line ++ ", column " ++ toString (column + 1) ++ "\n" ++
    gutter ++ "\n" ++
    line ++ " | " ++ String.ofList (lineText before after) ++ "\n" ++
    gutter ++ String.ofList marks ++ "\n" ++
    f.cause.message ++ "\n"

end Fault
end DoubleEntry.Config.Toml
