import DoubleEntry.Text.Digits

/-!
Compact JSON text. A quote, a backslash and the controls below the space are escaped in a text; nothing
else is.
-/

set_option autoImplicit false

namespace DoubleEntry.Json

def hexDigit (n : Nat) : Char := (Nat.toDigits 16 n).headD '0'

def escape (c : Char) : List Char :=
  match c with
  | '"' => ['\\', '"']
  | '\\' => ['\\', '\\']
  | '\x08' => ['\\', 'b']
  | '\x0c' => ['\\', 'f']
  | '\n' => ['\\', 'n']
  | '\r' => ['\\', 'r']
  | '\t' => ['\\', 't']
  | c =>
    if c.toNat < 32 then ['\\', 'u', '0', '0', hexDigit (c.toNat / 16), hexDigit (c.toNat % 16)]
    else [c]

def textJson (s : String) : String := String.ofList ('"' :: s.toList.flatMap escape ++ ['"'])

def intJson (n : Int) : String := toString n

def memberJson (name value : String) : String := textJson name ++ ":" ++ value

def objectJson (members : List (String × String)) : String :=
  "\x7b" ++ ",".intercalate (members.map fun (name, value) => memberJson name value) ++ "\x7d"

def listJson (items : List String) : String := "[" ++ ",".intercalate items ++ "]"

end DoubleEntry.Json
