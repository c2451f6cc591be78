import DoubleEntry.Decimal.Printer
import DoubleEntry.Decimal.Reader
import DoubleEntry.Json.Number
import DoubleEntry.Json.Skip
import DoubleEntry.Time.Reader

/-!
Typed reading. A record is an object whose fields may stand in any order, with unknown ones passed over
and no field given twice, or a list of its fields in their order. What does not fit is reported once the
record has been left, so behind its closing bracket if that is next.
-/

set_option autoImplicit false

namespace DoubleEntry.Json

open Text (Bytes)

-- What was read: the leaves keep their types, a field that may be left out may be absent.
inductive Datum where
  | int (n : Int)
  | text (s : String)
  | decimal (d : Decimal)
  | moment (m : Time.Moment)
  | absent
  | list (items : List Datum)
  | record (values : List Datum)

structure Field where
  name : String
  optional : Bool
  read : Reader Datum

namespace Cursor

def leaveObject (c : Cursor) : Cursor :=
  let c := c.skipBlanks
  if c.aheadIs '\x7d' then c.next else c

def leaveList (c : Cursor) : Cursor :=
  let c := c.skipBlanks
  if c.aheadIs ']' then c.next
  else if c.aheadIs ',' then c.next.skipBlanks
  else c

def endObject (c : Cursor) : Outcome Cursor :=
  let c := c.skipBlanks
  match c.peek with
  | none => c.failAhead .endInObject
  | some b =>
    if b == byte '\x7d' then .ok c.next
    else if b == byte ',' then c.failAhead .trailingComma
    else c.failAhead .trailingCharacters

def endList (c : Cursor) : Outcome Cursor :=
  let c := c.skipBlanks
  match c.peek with
  | none => c.failAhead .endInList
  | some b =>
    if b == byte ']' then .ok c.next
    else if b == byte ',' then
      let c := c.next.skipBlanks
      if c.aheadIs ']' then c.failAhead .trailingComma else c.failAhead .trailingCharacters
    else c.failAhead .trailingCharacters

def nextElement (first : Bool) (c : Cursor) : Outcome (Bool × Cursor) :=
  let c := c.skipBlanks
  match c.peek with
  | none => c.failAhead .endInList
  | some b =>
    if b == byte ']' then .ok (false, c)
    else if first then .ok (true, c)
    else if b == byte ',' then
      let c := c.next.skipBlanks
      match c.peek with
      | none => c.failAhead .endInValue
      | some b => if b == byte ']' then c.failAhead .trailingComma else .ok (true, c)
    else c.failAhead .expectedListEnd

def nextKey (first : Bool) (c : Cursor) : Outcome (Bool × Cursor) :=
  let c := c.skipBlanks
  match c.peek with
  | none => c.failAhead .endInObject
  | some b =>
    if b == byte '\x7d' then .ok (false, c)
    else if first then
      if b == byte '"' then .ok (true, c) else c.failAhead .keyNotText
    else if b == byte ',' then
      let c := c.next.skipBlanks
      match c.peek with
      | none => c.failAhead .endInValue
      | some b =>
        if b == byte '"' then .ok (true, c)
        else if b == byte '\x7d' then c.failAhead .trailingComma
        else c.failAhead .keyNotText
    else c.failAhead .expectedObjectEnd

def colon (c : Cursor) : Outcome Cursor :=
  let c := c.skipBlanks
  match c.peek with
  | none => c.failAhead .endInObject
  | some b => if b == byte ':' then .ok c.next else c.failAhead .expectedColon

end Cursor

-- The value ahead is none of the expected kind. Scalars are read first and may fail by themselves.
def wrongType {α : Type} (expected : String) (c : Cursor) : Outcome α :=
  match c.peek with
  | none => c.failAhead .expectedValue
  | some b =>
    if b == byte 'n' then do
      (← readWord "ull".toList c.next).fail (.wrongType .null expected)
    else if b == byte 't' then do
      (← readWord "rue".toList c.next).fail (.wrongType (.boolean true) expected)
    else if b == byte 'f' then do
      (← readWord "alse".toList c.next).fail (.wrongType (.boolean false) expected)
    else if b == byte '-' || isDigit b then do
      let (n, c) ← Number.read c
      c.fail (.wrongType n.found expected)
    else if b == byte '"' then do
      let (s, c) ← readTextBody c.next
      c.fail (.wrongType (.text s) expected)
    else if b == byte '[' then c.fail (.wrongType .list expected)
    else if b == byte '\x7b' then c.fail (.wrongType .object expected)
    else c.failAhead .expectedValue

def atValue {α : Type} (read : UInt8 → Reader α) : Reader α := fun c =>
  let c := c.skipBlanks
  match c.peek with
  | none => c.failAhead .endInValue
  | some b => read b c

def int64Name : String := "i64"

def readInt64 : Reader Datum := atValue fun b c =>
  if b == byte '-' || isDigit b then do
    let (n, c) ← Number.read c
    match n with
    | .integer n =>
      if Text.isInt64 n then .ok (.int n, c) else c.fail (.wrongValue (.integer n) int64Name)
    | .float x => c.fail (.wrongType (.float x) int64Name)
  else wrongType int64Name c

def readTextAs (expected : String) (use : String → Cursor → Outcome Datum) : Reader Datum :=
  atValue fun b c =>
    if b == byte '"' then do
      let (s, c) ← readTextBody c.next
      return (← use s c, c)
    else wrongType expected c

def readText : Reader Datum := readTextAs "a string" fun s _ => .ok (.text s)

def momentName : String := "an RFC 3339 formatted date and time string"

def readMoment : Reader Datum := readTextAs momentName fun s c =>
  match Time.Moment.parse s with
  | .ok m => .ok (.moment m)
  | .error e => c.fail (.refused e.message)

def decimalName : String := "a Decimal type representing a fixed-point number"

def decimalOfNumber : Number → Option Decimal
  | .integer n => Decimal.of? (n < 0) n.natAbs 0
  | .float x => Decimal.ofPlain? x.plainText

-- From a text or a number. Lists and objects are entered before they are found to be wrong.
def readDecimal : Reader Datum := atValue fun b c =>
  if b == byte '"' then do
    let (s, c) ← readTextBody c.next
    match Decimal.ofText? s.toList with
    | some d => .ok (.decimal d, c)
    | none => c.fail (.wrongValue (.text s) decimalName)
  else if b == byte '-' || isDigit b then do
    let (n, c) ← Number.read c
    match decimalOfNumber n with
    | some d => .ok (.decimal d, c)
    | none => c.fail (.wrongValue n.found decimalName)
  else if b == byte '[' then c.next.leaveList.fail (.wrongType .list decimalName)
  else if b == byte '\x7b' then c.next.leaveObject.fail (.wrongType .object decimalName)
  else wrongType decimalName c

def readOptional (read : Reader Datum) : Reader Datum := fun c =>
  let c := c.skipBlanks
  if c.aheadIs 'n' then do
    let c ← readWord "ull".toList c.next
    return (.absent, c)
  else read c

def readElements (read : Reader Datum) : Nat → Nat → Cursor → Outcome (List Datum × Cursor)
  | 0, _, c => c.fail .endInList
  | fuel + 1, count, c => do
    let (more, c) ← c.nextElement (count == 0)
    if more then
      let (item, c) ← (read c).mapError (Error.inside (.element count))
      let (items, c) ← readElements read fuel (count + 1) c
      return (item :: items, c)
    else return ([], c)

def readList (read : Reader Datum) : Reader Datum := atValue fun b c =>
  if b == byte '[' then do
    let (items, c) ← readElements read (c.rest.length + 1) 0 c.next
    return (.list items, ← c.endList)
  else wrongType "a sequence" c

def readFieldsInOrder (expected : String) : List Field → Nat → Cursor → Outcome (List Datum × Cursor)
  | [], _, c => .ok ([], c)
  | field :: fields, count, c => do
    let (more, c) ← c.nextElement (count == 0)
    if more then
      let (value, c) ← (field.read c).mapError (Error.inside (.element count))
      let (values, c) ← readFieldsInOrder expected fields (count + 1) c
      return (value :: values, c)
    else c.leaveList.fail (.wrongLength count expected)

-- The fields of an object: what was read of each, in the order of the record.
def readMembers (fields : List Field) : Nat → Bool → List (Option Datum) → Cursor →
    Outcome (List (Option Datum) × Cursor)
  | 0, _, _, c => c.fail .endInObject
  | fuel + 1, first, values, c => do
    let (more, c) ← c.nextKey first
    if more then
      let (key, c) ← readTextBody c.next
      match fields.findIdx? fun field => field.name == key with
      | none =>
        let c ← (c.colon >>= skipValue).mapError (Error.inside (.field key))
        readMembers fields fuel false values c
      | some i =>
        if (values.getD i none).isSome then c.leaveObject.fail (.duplicateField key)
        else
          let read : Reader Datum := (fields.map Field.read).getD i readText
          let (value, c) ← (c.colon >>= read).mapError (Error.inside (.field key))
          readMembers fields fuel false (values.set i (some value)) c
    else return (values, c)

def completed : List Field → List (Option Datum) → Except String (List Datum)
  | [], _ => .ok []
  | field :: fields, values => do
    let value ← match values.head?.join with
      | some value => .ok value
      | none => if field.optional then .ok .absent else .error field.name
    return value :: (← completed fields values.tail)

def readRecord (name : String) (fields : List Field) : Reader Datum := atValue fun b c =>
  if b == byte '\x7b' then do
    let (values, c) ← readMembers fields (c.rest.length + 1) true (fields.map fun _ => none) c.next
    match completed fields values with
    | .ok values => return (.record values, ← c.endObject)
    | .error missing => c.leaveObject.fail (.missingField missing)
  else if b == byte '[' then do
    let expected := "struct " ++ name ++ s!" with {fields.length} elements"
    let (values, c) ← readFieldsInOrder expected fields 0 c.next
    return (.record values, ← c.endList)
  else wrongType ("struct " ++ name) c

def readAll (read : Reader Datum) (input : Bytes) : Outcome Datum := do
  let (value, c) ← read (Cursor.start input)
  let c := c.skipBlanks
  if c.rest.isEmpty then .ok value else c.failAhead .trailingCharacters

end DoubleEntry.Json
