/-!
The log: events with their fields in order, and the spans inside which they happen.
-/

set_option autoImplicit false

namespace DoubleEntry

inductive Level where
  | debug
  | info
  | warn
  | error
deriving DecidableEq, Repr

def Level.name : Level → String
  | debug => "DEBUG"
  | info => "INFO"
  | warn => "WARN"
  | error => "ERROR"

abbrev LogFields := List (String × String)

inductive LogLine where
  | event (level : Level) (message : String) (fields : LogFields)
  | span (name : String) (fields : LogFields)
deriving DecidableEq, Repr

end DoubleEntry
