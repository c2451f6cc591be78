/-!
Failures outside of the ledger, such as unknown routes and malformed requests. What is internal is not
shown to clients.
-/

set_option autoImplicit false

namespace DoubleEntry

inductive AppError where
  | notFound (detail : String)
  | validation (detail : String)
  | internal (detail : String)
deriving DecidableEq, Repr

namespace AppError

def message : AppError → String
  | notFound detail => "Not found: " ++ detail
  | validation detail => "Validation error: " ++ detail
  | internal detail => "Internal error: " ++ detail

def status : AppError → Nat
  | notFound _ => 404
  | validation _ => 400
  | internal _ => 500

def code : AppError → String
  | notFound _ => "NOT_FOUND"
  | validation _ => "VALIDATION_ERROR"
  | internal _ => "INTERNAL_ERROR"

def publicMessage : AppError → String
  | notFound detail | validation detail => detail
  | internal _ => "An internal error occurred"

end AppError
end DoubleEntry
