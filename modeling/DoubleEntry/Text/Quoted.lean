import DoubleEntry.Text.Unprintable

/-!
Text in double quotes, as messages show it: a quote and a backslash are escaped by a backslash, the
usual controls by their letter, and other characters without a picture by their code point.
-/

set_option autoImplicit false

namespace DoubleEntry.Text

def codePointEscape (c : Char) : List Char :=
  "\\u\x7b".toList ++ Nat.toDigits 16 c.toNat ++ ['\x7d']

def escapeChar (c : Char) : List Char :=
  match c with
  | '\x00' => ['\\', '0']
  | '\t' => ['\\', 't']
  | '\n' => ['\\', 'n']
  | '\r' => ['\\', 'r']
  | '"' => ['\\', '"']
  | '\\' => ['\\', '\\']
  | c => if isUnprintable c then codePointEscape c else [c]

def quote (text : String) : String :=
  String.ofList ('"' :: text.toList.flatMap escapeChar ++ ['"'])

end DoubleEntry.Text
