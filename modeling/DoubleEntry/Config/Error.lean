import DoubleEntry.Binary64
import DoubleEntry.Text.Quoted

/-!
What is wrong with a setting: its value does not fit, or it has none. The message names the place of the
setting from the root down, and where its value was read if that is known.
-/

set_option autoImplicit false

namespace DoubleEntry.Config

-- A value as messages show it. Numbers that a conversion refused are shown with their width.
inductive Found where
  | text (s : String)
  | int (n : Int)
  | float (x : Binary64)
  | flag (b : Bool)
  | signed (n : Int)
  | unsigned (n : Nat)
  | table
  | list
deriving DecidableEq, Repr

def Found.toText : Found → String
  | text s => "string " ++ Text.quote s
  | int n => "integer \x60" ++ toString n ++ "\x60"
  | float x => "floating point \x60" ++ String.ofList x.markedText ++ "\x60"
  | flag b => "boolean \x60" ++ toString b ++ "\x60"
  | signed n => "64-bit integer \x60" ++ toString n ++ "\x60"
  | unsigned n => "64-bit unsigned integer \x60" ++ toString n ++ "\x60"
  | table => "map"
  | list => "sequence"

inductive Expected where
  | text
  | int
  | flag
  | unsigned
  | unsignedOf (bits : Nat)
  | record (name : String)
deriving DecidableEq, Repr

def Expected.toText : Expected → String
  | text => "a string"
  | int => "an integer"
  | flag => "a boolean"
  | unsigned => "an unsigned 64 bit or less integer"
  | unsignedOf bits => "an unsigned " ++ toString bits ++ " bit integer"
  | record name => "struct " ++ name

inductive Cause where
  | unfit (found : Found) (expected : Expected)
  | missing
  | tooShort (length : Nat) (record : String) (fields : Nat)
deriving DecidableEq, Repr

inductive KeyPart where
  | name (s : String)
  | index (i : Nat)
deriving DecidableEq, Repr

structure SettingError where
  cause : Cause
  key : List KeyPart
  origin : Option String
deriving DecidableEq, Repr

namespace SettingError

def keyText : List KeyPart → String
  | [] => ""
  | part :: rest => (match part with
      | .name s => s
      | .index i => "[" ++ toString i ++ "]") ++ tail rest
where
  tail : List KeyPart → String
    | [] => ""
    | .name s :: rest => "." ++ s ++ tail rest
    | .index i :: rest => "[" ++ toString i ++ "]" ++ tail rest

def within (part : KeyPart) (e : SettingError) : SettingError := { e with key := part :: e.key }

def fieldCount (n : Nat) : String := toString n ++ if n = 1 then " element" else " elements"

def place (e : SettingError) : String :=
  (if e.key.isEmpty then "" else " for key \x60" ++ keyText e.key ++ "\x60") ++
    (match e.origin with
      | some origin => " in " ++ origin
      | none => "")

def message (e : SettingError) : String :=
  match e.cause with
  | .unfit found expected =>
    "invalid type: " ++ found.toText ++ ", expected " ++ expected.toText ++ e.place
  | .missing => "missing configuration field " ++ Text.quote (keyText e.key)
  | .tooShort length record fields =>
    "invalid length " ++ toString length ++ ", expected struct " ++ record ++ " with " ++
      fieldCount fields ++ e.place

end SettingError
end DoubleEntry.Config
