import DoubleEntry.Config.Toml.Date
import DoubleEntry.Config.Toml.Error

/-!
The items of a TOML text in their order: headers and assignments, with every key at its place. Texts are
read with their escapes; all other plain values are kept as they were written.
-/

set_option autoImplicit false

namespace DoubleEntry.Config.Toml

structure Key where
  name : String
  quoted : Bool
  left : Nat

inductive Raw where
  | bare (text : List Char) (left : Nat)
  | text (s : String)
  | list (items : List Raw)
  | table (members : List (List Key × Raw))
deriving Inhabited

inductive Item where
  | header (keys : List Key)
  | listHeader (keys : List Key)
  | assign (keys : List Key) (value : Raw)

abbrev Outcome (α : Type) := Except Fault α

def isSpace (c : Char) : Bool := c == ' ' || c == '\t'

def isLineEnd (c : Char) : Bool := c == '\n' || c == '\r'

def dropSpaces (text : List Char) : List Char := text.dropWhile isSpace

-- What no text and no comment may hold as it is. The tab is the only one that may stand there.
def isControl (c : Char) : Bool := (c.toNat < 32 && c != '\t') || c.toNat == 127

def opensLineEnd : List Char → Bool
  | '\n' :: _ | '\r' :: '\n' :: _ => true
  | _ => false

-- The end of a line or of the text, where one has to be.
def lineEnd (cause : Cause) : List Char → Outcome (List Char)
  | [] => .ok []
  | '\n' :: rest => .ok rest
  | '\r' :: '\n' :: rest => .ok rest
  | '\r' :: rest => Fault.at .bareReturn rest 1
  | rest => Fault.at cause rest 1

def dropBlanks (inComment : Bool) : List Char → Outcome (List Char)
  | [] => .ok []
  | c :: rest =>
    if isLineEnd c then
      if opensLineEnd (c :: rest) then dropBlanks false rest else Fault.at .bareReturn rest 1
    else if inComment then
      if isControl c then Fault.at .controlInComment (c :: rest) 1 else dropBlanks true rest
    else if c == '#' then dropBlanks true rest
    else if isSpace c then dropBlanks false rest
    else .ok (c :: rest)

def hexValue (digits : List Char) : Option Nat :=
  digits.foldl (fun value c => do
    let n ← value
    if c.isDigit then some (n * 16 + (c.toNat - '0'.toNat))
    else if 'a' ≤ c.toLower && c.toLower ≤ 'f' then some (n * 16 + (c.toLower.toNat - 'a'.toNat + 10))
    else none) (some 0)

def codePoint? (digits : List Char) : Option Char :=
  (hexValue digits).bind fun n => if n.isValidChar then some (Char.ofNat n) else none

def escaped? (c : Char) : Option Char :=
  match c with
  | 'b' => some '\x08'
  | 't' => some '\t'
  | 'n' => some '\n'
  | 'f' => some '\x0c'
  | 'r' => some '\r'
  | 'e' => some '\x1b'
  | '"' => some '"'
  | '\\' => some '\\'
  | _ => none

def codePointWidth? (c : Char) : Option Nat :=
  match c with
  | 'x' => some 2
  | 'u' => some 4
  | 'U' => some 8
  | _ => none

inductive Mode where
  | plain
  | escape
  -- Digits of a code point, the newest first, and how many more there are to be.
  | digits (found : List Char) (more : Nat)
  | blanks
deriving DecidableEq

def basicText (long : Bool) : Mode → List Char → List Char → Outcome (String × List Char)
  | _, _, [] => Fault.at (.unclosedText long) [] 1
  | .escape, out, c :: rest =>
    match escaped? c, codePointWidth? c with
    | some d, _ => basicText long .plain (d :: out) rest
    | _, some width => basicText long (.digits [] width) out rest
    | _, _ =>
      if long && (isSpace c || isLineEnd c) then
        match lineEnd .missingLineEnd (dropSpaces (c :: rest)) with
        | .ok _ => basicText long .blanks out rest
        | .error f => .error f
      else Fault.at .invalidEscape (c :: rest) 1
  | .digits found more, out, c :: rest =>
    if more ≤ 1 then
      match codePoint? (found.reverse ++ [c]) with
      | some d => basicText long .plain (d :: out) rest
      | none => Fault.at .invalidCodePoint (c :: rest) 1
    else basicText long (.digits (c :: found) (more - 1)) out rest
  | mode, out, c :: rest =>
    if mode = .blanks && (isSpace c || opensLineEnd (c :: rest)) then basicText long .blanks out rest
    else if c == '\\' then basicText long .escape out rest
    else if c == '"' then
      if !long then .ok (String.ofList out.reverse, rest)
      else match rest with
        | '"' :: '"' :: '"' :: '"' :: rest => .ok (String.ofList ('"' :: '"' :: out).reverse, rest)
        | '"' :: '"' :: '"' :: rest => .ok (String.ofList ('"' :: out).reverse, rest)
        | '"' :: '"' :: rest => .ok (String.ofList out.reverse, rest)
        | rest => basicText long .plain ('"' :: out) rest
    else if !isControl c then basicText long .plain (c :: out) rest
    else if opensLineEnd (c :: rest) then
      if long then basicText long .plain (c :: out) rest else Fault.at (.unclosedText long) (c :: rest) 1
    else if long && c == '\r' then Fault.at .bareReturn rest 1
    else Fault.at (.controlInText long) (c :: rest) 1

def literalText (long : Bool) : List Char → List Char → Outcome (String × List Char)
  | _, [] => Fault.at (.unclosedLiteral long) [] 1
  | out, c :: rest =>
    if c == '\'' then
      if !long then .ok (String.ofList out.reverse, rest)
      else match rest with
        | '\'' :: '\'' :: '\'' :: '\'' :: rest =>
          .ok (String.ofList ('\'' :: '\'' :: out).reverse, rest)
        | '\'' :: '\'' :: '\'' :: rest => .ok (String.ofList ('\'' :: out).reverse, rest)
        | '\'' :: '\'' :: rest => .ok (String.ofList out.reverse, rest)
        | rest => literalText long ('\'' :: out) rest
    else if !isControl c then literalText long (c :: out) rest
    else if opensLineEnd (c :: rest) then
      if long then literalText long (c :: out) rest else Fault.at (.unclosedLiteral long) (c :: rest) 1
    else if long && c == '\r' then Fault.at .bareReturn rest 1
    else Fault.at (.controlInLiteral long) (c :: rest) 1

def dropLineEnd : List Char → List Char
  | '\r' :: '\n' :: rest => rest
  | '\n' :: rest => rest
  | rest => rest

def endsKey (c : Char) : Bool := isSpace c || isLineEnd c || "#,[]\x7b\x7d=.'\"".toList.contains c

def endsBare (c : Char) : Bool := isSpace c || isLineEnd c || "#,[]\x7b\x7d=".toList.contains c

def simpleKey (text : List Char) : Outcome (Key × List Char) :=
  match text with
  | '"' :: rest => (basicText false .plain [] rest).map fun (s, rest) => (⟨s, true, text.length⟩, rest)
  | '\'' :: rest => (literalText false [] rest).map fun (s, rest) => (⟨s, true, text.length⟩, rest)
  | _ =>
    let name := text.takeWhile fun c => !endsKey c
    .ok (⟨String.ofList name, false, text.length⟩, text.drop name.length)

def keys : Nat → List Char → Outcome (List Key × List Char)
  | 0, text => .ok ([], text)
  | fuel + 1, text => do
    let (key, rest) ← simpleKey (dropSpaces text)
    match dropSpaces rest with
    | '.' :: rest => do
      let (more, rest) ← keys fuel rest
      .ok (key :: more, rest)
    | rest => .ok ([key], rest)

def readKeys (text : List Char) : Outcome (List Key × List Char) := keys (text.length + 1) text

-- A date may have its time behind a blank.
def bareText (text : List Char) : List Char :=
  let word := text.takeWhile fun c => !endsBare c
  match text.drop word.length with
  | ' ' :: c :: rest =>
    if c.isDigit && (date? word).any fun date => date.2.isEmpty then
      word ++ ' ' :: (c :: rest).takeWhile fun c => !endsBare c
    else word
  | _ => word

mutual

def value : Nat → List Char → Outcome (Raw × List Char)
  | 0, text => Fault.at .unquotedText text 1
  | fuel + 1, text =>
    match text with
    | '"' :: '"' :: '"' :: rest =>
      (basicText true .plain [] (dropLineEnd rest)).map fun (s, rest) => (.text s, rest)
    | '"' :: rest => (basicText false .plain [] rest).map fun (s, rest) => (.text s, rest)
    | '\'' :: '\'' :: '\'' :: rest =>
      (literalText true [] (dropLineEnd rest)).map fun (s, rest) => (.text s, rest)
    | '\'' :: rest => (literalText false [] rest).map fun (s, rest) => (.text s, rest)
    | '[' :: rest => do
      let (l, rest) ← listItems fuel (← dropBlanks false rest)
      .ok (.list l, rest)
    | '\x7b' :: rest => do
      let (l, rest) ← members fuel (← dropBlanks false rest)
      .ok (.table l, rest)
    | _ =>
      let bare := bareText text
      .ok (.bare bare text.length, text.drop bare.length)

def listItems : Nat → List Char → Outcome (List Raw × List Char)
  | 0, text => Fault.at .unclosedList text 1
  | fuel + 1, text =>
    match text with
    | ']' :: rest => .ok ([], rest)
    | [] => Fault.at .unclosedList [] 1
    | _ => do
      let (item, rest) ← value fuel text
      match ← dropBlanks false rest with
      | ',' :: rest => do
        let (items, rest) ← listItems fuel (← dropBlanks false rest)
        .ok (item :: items, rest)
      | ']' :: rest => .ok ([item], rest)
      | [] => Fault.at .unclosedList [] 1
      | rest => Fault.at .missingListComma rest 1

def members : Nat → List Char → Outcome (List (List Key × Raw) × List Char)
  | 0, text => Fault.at .unclosedTable text 1
  | fuel + 1, text =>
    match text with
    | '\x7d' :: rest => .ok ([], rest)
    | [] => Fault.at .unclosedTable [] 1
    | _ => do
      let (path, rest) ← readKeys text
      match rest with
      | '=' :: rest => do
        let (v, rest) ← value fuel (dropSpaces rest)
        match ← dropBlanks false rest with
        | ',' :: rest => do
          let (more, rest) ← members fuel (← dropBlanks false rest)
          .ok ((path, v) :: more, rest)
        | '\x7d' :: rest => .ok ([(path, v)], rest)
        | [] => Fault.at .unclosedTable [] 1
        | rest => Fault.at .missingTableComma rest 1
      | rest => Fault.at .keyWithoutValue rest 1

end

-- A comment is left to what is read next.
def endLine (text : List Char) : Outcome (List Char) :=
  match dropSpaces text with
  | '#' :: rest => .ok ('#' :: rest)
  | rest => lineEnd .trailing rest

def item (text : List Char) : Outcome (Item × List Char) :=
  match text with
  | '[' :: '[' :: rest => do
    let (path, rest) ← readKeys rest
    match rest with
    | ']' :: ']' :: rest => .ok (.listHeader path, rest)
    | rest => Fault.at .unclosedListHeader rest 1
  | '[' :: rest => do
    let (path, rest) ← readKeys rest
    match rest with
    | ']' :: rest => .ok (.header path, rest)
    | rest => Fault.at .unclosedHeader rest 1
  | _ => do
    let (path, rest) ← readKeys text
    match rest with
    | '=' :: rest => do
      let rest := dropSpaces rest
      let (v, rest) ← value (rest.length + 1) rest
      .ok (.assign path v, rest)
    | rest => Fault.at .keyWithoutValue rest 1

-- Every item takes at least one character, so that there are no more of them than characters.
def items : Nat → List Char → Outcome (List Item)
  | 0, _ => .ok []
  | fuel + 1, text => do
    match ← dropBlanks false text with
    | [] => .ok []
    | text => do
      let (found, rest) ← item text
      let rest ← endLine rest
      let more ← items fuel rest
      .ok (found :: more)

-- What is left open at the end of a text is noticed behind the last thing in it.
def beforeBlanks (text : List Char) (f : Fault) : Fault :=
  let blanks := text.reverse.takeWhile fun c => isSpace c || isLineEnd c
  if f.left = 0 && (f.cause = .unclosedList || f.cause = .unclosedTable) then
    { f with left := blanks.length }
  else f

def readItems (text : List Char) : Outcome (List Item) :=
  (items (text.length + 1) text).mapError (beforeBlanks text)

end DoubleEntry.Config.Toml
