import DoubleEntry.Config.Environment
import DoubleEntry.Text.Blank

/-!
Variables from a file of assignments, one on a line, for those that the environment does not have. A value may
stand in quotes, over many lines if need be, and may refer to other variables by their names after a dollar
sign. Reading ends without complaint at the first line that is no assignment.
-/

set_option autoImplicit false

namespace DoubleEntry.Config.Dotenv

inductive Place where
  | plain
  | blank
  | escape
  | double
  | doubleEscape
  | single
  | singleEscape
deriving DecidableEq

def Place.next (p : Place) (c : Char) : Place :=
  match p with
  | plain =>
    if Text.isBlank c && c != '\n' && c != '\r' then blank
    else if c == '\\' then escape
    else if c == '"' then double
    else if c == '\'' then single
    else plain
  | blank =>
    if c == '\\' then escape
    else if c == '"' then double
    else if c == '\'' then single
    else plain
  | escape => plain
  | double => if c == '\\' then doubleEscape else if c == '"' then plain else double
  | doubleEscape => double
  | single => if c == '\\' then singleEscape else if c == '\'' then plain else single
  | singleEscape => single

def scan : Place → List Char → Place × Nat
  | p, [] => (p, 0)
  | p, c :: rest =>
    if p = .blank && c == '#' then (.plain, rest.length + 1) else scan (p.next c) rest

def linesFrom : List Char → List Char → List (List Char)
  | [], [] => []
  | line, [] => [line.reverse]
  | line, c :: rest =>
    if c == '\n' then (c :: line).reverse :: linesFrom [] rest else linesFrom (c :: line) rest

def isNote (line : List Char) : Bool := (Text.dropBlanks line).head? == some '#'

def dropLineEnd (line : List Char) : List Char :=
  match line.reverse with
  | '\n' :: '\r' :: rest => rest.reverse
  | '\n' :: rest => rest.reverse
  | _ => line

-- Lines that are left open are joined with the next ones. An open end of the text is no line.
def joined (start : List Char) (p : Place) : List (List Char) → List (Option (List Char))
  | [] => if p = .plain then [] else [none]
  | line :: rest =>
    let all := start ++ line
    if isNote all then some [] :: joined [] .plain rest
    else
      match scan p line with
      | (.plain, 0) => some (dropLineEnd all) :: joined [] .plain rest
      | (.plain, comment) => some (all.take (all.length - comment)) :: joined [] .plain rest
      | (p, _) => joined all p rest

def valueOf (environment : Environment) (name : List Char) : List Char :=
  ((environment.lookup (String.ofList name)).getD "").toList

-- Within a value. Names are read backwards.
inductive Mode where
  | plain
  | ending
  | escape
  | single
  | name (found : List Char)
  | bracedName (found : List Char)

def value (environment : Environment) (double : Bool) : Mode → List Char → List Char → Option (List Char)
  | mode, out, [] =>
    if double then none
    else match mode with
      | .single | .bracedName _ => none
      | .name found => some (out.reverse ++ valueOf environment found.reverse)
      | _ => some out.reverse
  | .ending, out, c :: rest =>
    if c == ' ' || c == '\t' then value environment double .ending out rest
    else if c == '#' then some out.reverse
    else none
  | .escape, out, c :: rest =>
    if "\\'\"$ ".toList.contains c then value environment double .plain (c :: out) rest
    else if c == 'n' then value environment double .plain ('\n' :: out) rest
    else none
  | .single, out, c :: rest =>
    if c == '\'' then value environment double .plain out rest
    else value environment double .single (c :: out) rest
  | .name found, out, c :: rest =>
    let filled := (valueOf environment found.reverse).reverse ++ out
    if c.isAlphanum then value environment double (.name (c :: found)) out rest
    else if c == '\x7b' && found.isEmpty then value environment double (.bracedName []) out rest
    else if c == '$' then value environment double (.name []) filled rest
    else value environment double .plain (c :: filled) rest
  | .bracedName found, out, c :: rest =>
    if c == '\x7d' then
      value environment double .plain ((valueOf environment found.reverse).reverse ++ out) rest
    else value environment double (.bracedName (c :: found)) out rest
  | .plain, out, c :: rest =>
    if c == '$' then value environment double (.name []) out rest
    else if c == '\\' then value environment double .escape out rest
    else if c == '"' then value environment (!double) .plain out rest
    else if double then value environment double .plain (c :: out) rest
    else if c == '\'' then value environment double .single out rest
    else if c == ' ' || c == '\t' then value environment double .ending out rest
    else value environment double .plain (c :: out) rest

def startsKey (c : Char) : Bool := c.isAlpha || c == '_'
def isKeyChar (c : Char) : Bool := c.isAlphanum || c == '_' || c == '.'

def key? (text : List Char) : Option (List Char × List Char) :=
  if text.head?.any startsKey then
    some (text.takeWhile isKeyChar, Text.dropBlanks (text.dropWhile isKeyChar))
  else none

def equals? : List Char → Option (List Char)
  | '=' :: rest => some rest
  | _ => none

def target? (text : List Char) : Option (List Char × List Char) := do
  let (key, rest) ← key? text
  match equals? rest with
  | some rest => some (key, rest)
  | none =>
    if key = "export".toList then
      let (key, rest) ← key? rest
      let rest ← equals? rest
      some (key, rest)
    else none

inductive Line where
  | empty
  | invalid
  | assign (name text : String)

def readLine (environment : Environment) (line : List Char) : Line :=
  let line := Text.dropBlanks line
  if line.isEmpty || line.head? == some '#' then .empty
  else
    match target? line with
    | none => .invalid
    | some (key, rest) =>
      let rest := Text.dropBlanks rest
      if rest.isEmpty || rest.head? == some '#' then .assign (String.ofList key) ""
      else
        match value environment false .plain [] rest with
        | some text => .assign (String.ofList key) (String.ofList text)
        | none => .invalid

def fillFrom (environment : Environment) : List (Option (List Char)) → Environment
  | [] => environment
  | none :: _ => environment
  | some line :: rest =>
    match readLine environment line with
    | .empty => fillFrom environment rest
    | .invalid => environment
    | .assign name text =>
      if (environment.lookup name).isSome then fillFrom environment rest
      else fillFrom (environment ++ [(name, text)]) rest

def dropMark : List Char → List Char
  | '\ufeff' :: rest => rest
  | text => text

def fill (environment : Environment) (file : String) : Environment :=
  fillFrom environment (joined [] .plain (linesFrom [] (dropMark file.toList)))

end DoubleEntry.Config.Dotenv
