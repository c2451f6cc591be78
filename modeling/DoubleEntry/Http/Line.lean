import DoubleEntry.Http.Router

/-!
Requests and answers on one line each: a method, a target and a JSON body if there is more; a status and
what the body says.
-/

set_option autoImplicit false

namespace DoubleEntry.Http

def splitBlank (text : List Char) : List Char × List Char :=
  (text.takeWhile (· != ' '), (text.dropWhile (· != ' ')).drop 1)

def isLineEnd (c : Char) : Bool := c == '\n' || c == '\r'

def Request.ofLine (line : String) : Request :=
  let (method, rest) := splitBlank (line.toList.filter fun c => !isLineEnd c)
  let (target, body) := splitBlank rest
  { method := String.ofList method
    target := String.ofList target
    headers := if body.isEmpty then [] else [Response.jsonHeader]
    body := Text.encode (String.ofList body) }

def Response.toLine (r : Response) : String := toString r.status ++ " " ++ r.body

end DoubleEntry.Http
