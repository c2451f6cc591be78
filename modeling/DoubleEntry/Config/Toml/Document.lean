import DoubleEntry.Binary64.Reader
import DoubleEntry.Config.Toml.Syntax
import DoubleEntry.Config.Value

/-!
The table that the items of a TOML text describe. A header opens a table once, an assignment gives a key its
value once, and a key with points makes tables that no header may open again.
-/

set_option autoImplicit false

namespace DoubleEntry.Config.Toml

def plainDigits? (text : List Char) : Option (List Char) :=
  let parts := (String.ofList text).splitOn "_"
  if parts.all fun part => !part.isEmpty then some (text.filter (· != '_')) else none

def digitsOf? (base : Nat) (text : List Char) : Option Nat :=
  (plainDigits? text).bind fun digits => digits.foldl (fun value c => do
    let n ← value
    let digit ← hexValue [c]
    if digit < base then some (n * base + digit) else none) (some 0)

def hasLeadingZero : List Char → Bool
  | '0' :: c :: _ => c.isDigit || c == '_'
  | _ => false

def whole? (text : List Char) : Option Nat :=
  if hasLeadingZero text then none else digitsOf? 10 text

def isExponentMark (c : Char) : Bool := c == 'e' || c == 'E'

def float? (negative : Bool) (text : List Char) : Option Binary64 := do
  let numeral := text.takeWhile fun c => !isExponentMark c
  let exponent := text.dropWhile fun c => !isExponentMark c
  let _ ← whole? (numeral.takeWhile (· != '.'))
  match numeral.dropWhile (· != '.') with
  | [] => pure ()
  | _ :: fraction => let _ ← digitsOf? 10 fraction
  match exponent with
  | [] => pure ()
  | _ :: '+' :: digits | _ :: '-' :: digits | _ :: digits => let _ ← digitsOf? 10 digits
  Binary64.ofUnsigned? negative (text.filter (· != '_'))

def unsigned? (negative : Bool) (text : List Char) : Option (Except Cause Scalar) :=
  if text == "inf".toList then some (.ok (.float (.infinite negative)))
  else if text == "nan".toList then some (.ok (.float .nan))
  else
    match whole? text with
    | some n =>
      let n : Int := if negative then -n else n
      some (if Text.isInt64 n then .ok (.int n) else .error .tooLarge)
    | none => (float? negative text).map fun x => .ok (.float x)

def radix? (base : Nat) (digits : List Char) : Option (Except Cause Scalar) :=
  (digitsOf? base digits).map fun n => if n < twoTo 63 then .ok (.int n) else .error .tooLarge

def scalar (text : List Char) : Except Cause Scalar :=
  let found : Option (Except Cause Scalar) := match text with
    | ['t', 'r', 'u', 'e'] => some (.ok (.flag true))
    | ['f', 'a', 'l', 's', 'e'] => some (.ok (.flag false))
    | '0' :: 'x' :: digits => radix? 16 digits
    | '0' :: 'o' :: digits => radix? 8 digits
    | '0' :: 'b' :: digits => radix? 2 digits
    | '-' :: digits => unsigned? true digits
    | '+' :: digits => unsigned? false digits
    | digits => (unsigned? false digits).or ((moment? digits).map fun shown => .ok (.text shown))
  found.getD (.error .unquotedText)

-- How a table came to be: on the way to another, by its header, or by a key with points.
inductive Opening where
  | implied
  | header
  | points
deriving DecidableEq

inductive Node where
  | value (v : Value)
  | table (opening : Opening) (entries : List (String × Node))
  | tables (items : List (List (String × Node)))
deriving Inhabited

abbrev Nodes := List (String × Node)

def Key.fault {α : Type} (key : Key) (cause : Cause) : Outcome α :=
  .error ⟨cause, key.left, key.name.length + if key.quoted then 2 else 0⟩

def Key.check (key : Key) : Outcome Unit :=
  if key.quoted then .ok ()
  else if key.name.isEmpty then key.fault .emptyKey
  else if key.name.toList.all isKeyChar then .ok ()
  else key.fault .invalidKey

def updateLast (f : Nodes → Outcome Nodes) (items : List Nodes) : Outcome Node := do
  let last ← f (items.getLastD [])
  .ok (.tables (items.dropLast ++ [last]))

def openTable (asList : Bool) : List Key → Nodes → Outcome Nodes
  | [], nodes => .ok nodes
  | [key], nodes => do
    key.check
    match nodes.lookup key.name with
    | none => .ok (Table.put key.name (if asList then .tables [[]] else .table .header []) nodes)
    | some (.tables items) =>
      if asList then .ok (Table.put key.name (.tables (items ++ [[]])) nodes)
      else key.fault .duplicateKey
    | some (.table .implied entries) =>
      if asList then key.fault .duplicateKey
      else .ok (Table.put key.name (.table .header entries) nodes)
    | some _ => key.fault .duplicateKey
  | key :: path, nodes => do
    key.check
    let node ← match nodes.lookup key.name with
      | none => (openTable asList path []).map (.table .implied)
      | some (.table opening entries) => (openTable asList path entries).map (.table opening)
      | some (.tables items) => updateLast (openTable asList path) items
      | some (.value _) => key.fault .duplicateKey
    .ok (Table.put key.name node nodes)

def assign (node : Node) : List Key → Nodes → Outcome Nodes
  | [], nodes => .ok nodes
  | [key], nodes => do
    key.check
    match nodes.lookup key.name with
    | none => .ok (Table.put key.name node nodes)
    | some _ => key.fault .duplicateKey
  | key :: path, nodes => do
    key.check
    let node ← match nodes.lookup key.name with
      | none => (assign node path []).map (.table .points)
      | some (.table .points entries) => (assign node path entries).map (.table .points)
      | some _ => key.fault .duplicateKey
    .ok (Table.put key.name node nodes)

def updateAt (f : Nodes → Outcome Nodes) : List Key → Nodes → Outcome Nodes
  | [], nodes => f nodes
  | key :: path, nodes => do
    let node ← match nodes.lookup key.name with
      | some (.table opening entries) => (updateAt f path entries).map (.table opening)
      | some (.tables items) => updateLast (updateAt f path) items
      | other => .ok (other.getD (.table .implied []))
    .ok (Table.put key.name node nodes)

mutual

def Node.toValue (origin : Origin) : Node → Value
  | .value v => v
  | .table _ entries => .table origin (toEntries origin entries)
  | .tables items => .list origin (toTables origin items)

def toEntries (origin : Origin) : Nodes → Table
  | [] => []
  | (key, node) :: rest => (key, node.toValue origin) :: toEntries origin rest

def toTables (origin : Origin) : List Nodes → List Value
  | [] => []
  | entries :: rest => .table origin (toEntries origin entries) :: toTables origin rest

end

mutual

def Raw.toValue (origin : Origin) : Raw → Outcome Value
  | .bare text left =>
    match scalar text with
    | .ok s => .ok (.scalar origin s)
    | .error cause => .error ⟨cause, left, text.length⟩
  | .text s => .ok (.scalar origin (.text s))
  | .list items => (itemValues origin items).map (.list origin)
  | .table members => (memberNodes origin members []).map fun nodes => .table origin (toEntries origin nodes)

def itemValues (origin : Origin) : List Raw → Outcome (List Value)
  | [] => .ok []
  | raw :: rest => do
    let v ← raw.toValue origin
    let more ← itemValues origin rest
    .ok (v :: more)

def memberNodes (origin : Origin) : List (List Key × Raw) → Nodes → Outcome Nodes
  | [], nodes => .ok nodes
  | (path, raw) :: rest, nodes => do
    let v ← raw.toValue origin
    let nodes ← assign (.value v) path nodes
    memberNodes origin rest nodes

end

structure Document where
  current : List Key
  nodes : Nodes

def Document.add (origin : Origin) (d : Document) : Item → Outcome Document
  | .header path => (openTable false path d.nodes).map fun nodes => ⟨path, nodes⟩
  | .listHeader path => (openTable true path d.nodes).map fun nodes => ⟨path, nodes⟩
  | .assign path raw => do
    let v ← raw.toValue origin
    let nodes ← updateAt (assign (.value v) path) d.current d.nodes
    .ok { d with nodes }

def read (origin : Origin) (text : List Char) : Outcome Table := do
  let found ← readItems text
  let document ← found.foldlM (Document.add origin) ⟨[], []⟩
  .ok (toEntries origin document.nodes)

end DoubleEntry.Config.Toml
