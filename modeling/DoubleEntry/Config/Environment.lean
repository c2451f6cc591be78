import DoubleEntry.Binary64.Reader
import DoubleEntry.Config.Value

/-!
Settings from environment variables. A variable belongs to a program if its name, in small letters, starts
with the program's lead; the rest of the name is the key. Its text is a flag or a number if it reads as one.
-/

set_option autoImplicit false

namespace DoubleEntry.Config

abbrev Environment := List (String × String)

namespace Environment

open Text

def origin : Origin := some "the environment"

def scalar (text : String) : Scalar :=
  let small := text.toLower
  if small == "true" then .flag true
  else if small == "false" then .flag false
  else
    match int64? text.toList, Binary64.ofText? text.toList with
    | some n, _ => .int n
    | none, some x => .float x
    | none, none => .text text

-- Two underscores part one key from the next.
def pointed : List Char → List Char
  | '_' :: '_' :: rest => '.' :: pointed rest
  | c :: rest => c :: pointed rest
  | [] => []

structure Naming where
  lead : String
  nested : Bool

def behind? : List Char → List Char → Option (List Char)
  | [], rest => some rest
  | c :: lead, d :: rest => if c == d then behind? lead rest else none
  | _, [] => none

def Naming.key? (naming : Naming) (name : String) : Option String :=
  (behind? naming.lead.toList (name.toList.map Char.toLower)).map fun rest =>
    String.ofList (if naming.nested then pointed rest else rest)

-- The settings in an environment. Of two variables for one key, the later counts.
def table (naming : Naming) (environment : Environment) : Table :=
  environment.foldl (fun entries v =>
    match naming.key? v.1 with
    | some key => Table.put key (.scalar origin (scalar v.2)) entries
    | none => entries) []

end Environment
end DoubleEntry.Config
