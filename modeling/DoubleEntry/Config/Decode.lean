import DoubleEntry.Binary64.Reader
import DoubleEntry.Config.Error
import DoubleEntry.Config.Value

/-!
Typed settings from values. Texts, numbers and flags are converted into each other where that makes
sense: a flag is one or zero, a number rounds to the nearest whole one and is kept within its range, and the
usual words for yes and no are flags. A record is a table, or a list of its fields in their order.
-/

set_option autoImplicit false

namespace DoubleEntry.Config

abbrev Decoded (α : Type) := Except SettingError α

abbrev Decoder (α : Type) := Value → Decoded α

def unfit {α : Type} (origin : Origin) (found : Found) (expected : Expected) : Decoded α :=
  .error ⟨.unfit found expected, [], origin⟩

def yesWords : List String := ["true", "on", "yes"]
def noWords : List String := ["false", "off", "no"]

def answer? (word : String) : Option Bool :=
  if yesWords.contains word then some true
  else if noWords.contains word then some false
  else none

def decodeText : Decoder String
  | .scalar _ s => .ok <| match s with
    | .text s => s
    | .int n => toString n
    | .float x => String.ofList x.plainText
    | .flag b => toString b
  | .list origin _ => unfit origin .list .text
  | .table origin _ => unfit origin .table .text

def decodeFlag : Decoder Bool
  | .scalar _ (.flag b) => .ok b
  | .scalar _ (.int n) => .ok (n != 0)
  | .scalar _ (.float x) => .ok (!x.isZero)
  | .scalar origin (.text s) =>
    let word := s.toLower
    if word == "1" then .ok true
    else if word == "0" then .ok false
    else match answer? word with
      | some b => .ok b
      | none => unfit origin (.text word) .flag
  | .list origin _ => unfit origin .list .flag
  | .table origin _ => unfit origin .table .flag

-- A whole number between two bounds. A number that is already whole has to be in range.
def decodeWithin (low high : Int) (outOfRange : Origin → Int → Decoded Int) : Decoder Int
  | .scalar origin (.int n) => if low ≤ n && n ≤ high then .ok n else outOfRange origin n
  | .scalar _ (.float x) => .ok (x.clamp low high)
  | .scalar _ (.flag b) => .ok (if b then 1 else 0)
  | .scalar origin (.text s) =>
    match answer? s.toLower with
    | some b => .ok (if b then 1 else 0)
    | none =>
      match Text.int? s.toList with
      | some n =>
        if low ≤ n && n ≤ high && (low < 0 || s.toList.head? != some '-') then .ok n
        else unfit origin (.text s) .int
      | none => unfit origin (.text s) .int
  | .list origin _ => unfit origin .list .int
  | .table origin _ => unfit origin .table .int

def decodeInt64 : Decoder Int :=
  decodeWithin (-(twoTo 63 : Int)) (twoTo 63 - 1) fun origin n => unfit origin (.signed n) .int

def decodeNat64 : Decoder Nat := fun v =>
  (decodeWithin 0 (twoTo 64 - 1) (fun origin n => unfit origin (.signed n) .unsigned) v).map Int.toNat

def decodeNat (bits : Nat) : Decoder Nat := fun v => do
  let n ← decodeNat64 v
  if n < twoTo bits then .ok n else unfit none (.unsigned n) (.unsignedOf bits)

def Scalar.found : Scalar → Found
  | text s => .text s
  | int n => .int n
  | float x => .float x
  | flag b => .flag b

structure Record where
  name : String
  fields : List String
  parts : Table ⊕ List Value

namespace Record

def ofValue (name : String) (fields : List String) : Decoder Record
  | .scalar _ s => unfit none s.found (.record name)
  | .list _ items => .ok ⟨name, fields, .inr items⟩
  | .table _ entries => .ok ⟨name, fields, .inl entries⟩

def part? (r : Record) (field : String) : Option (KeyPart × Value) :=
  match r.parts with
  | .inl entries => (entries.lookup field).map fun v => (.name field, v)
  | .inr items =>
    (r.fields.idxOf? field).bind fun i => items[i]?.map fun v => (.index i, v)

def read? {α : Type} (r : Record) (field : String) (decode : Decoder α) : Decoded (Option α) :=
  match r.part? field with
  | none => .ok none
  | some (part, v) =>
    match decode v with
    | .ok a => .ok (some a)
    | .error e => .error (e.within part)

def readOr {α : Type} (r : Record) (field : String) (decode : Decoder α) (default : α) : Decoded α :=
  (r.read? field decode).map fun a => a.getD default

def absent (r : Record) (field : String) : SettingError :=
  match r.parts with
  | .inl _ => ⟨.missing, [.name field], none⟩
  | .inr items => ⟨.tooShort items.length r.name r.fields.length, [], none⟩

-- A setting without a value is none; a list has to have a place for it even so.
def readOptional {α : Type} (r : Record) (field : String) (decode : Decoder α) :
    Decoded (Option α) := do
  match ← r.read? field decode, r.parts with
  | none, .inr _ => .error (r.absent field)
  | a, _ => .ok a

end Record
end DoubleEntry.Config
