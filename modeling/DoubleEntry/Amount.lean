import DoubleEntry.Decimal.Arithmetic
import DoubleEntry.Decimal.Printer
import DoubleEntry.Decimal.Reader
import DoubleEntry.Text.Blank

/-!
Amounts of money. The ledger stores them with five fractional digits and below 10²³ in magnitude,
which is as large as a number can be and still carry five of the 28 digits after the point.
-/

set_option autoImplicit false

namespace DoubleEntry.Amount

def scale : Nat := 5

def limit : Decimal := Decimal.ofWhole (tenTo 23) (Nat.le_of_ble_eq_true rfl)

def isBelowLimit (value : Decimal) : Bool := value.abs.numLt limit

/-- Five fractional digits, a half going away from zero. A number too large for that many keeps as many
as it can hold. -/
def round (value : Decimal) : Decimal := (value.roundTo scale).rescale scale

inductive ReadError where
  | empty
  | invalid (text : String)
deriving DecidableEq, Repr

def ReadError.message : ReadError → String
  | .empty => "amount is required"
  | .invalid text => "invalid decimal amount: " ++ text

-- A decimal with blanks around it. It is neither rounded nor is its sign looked at.
def parse (input : String) : Except ReadError Decimal :=
  let trimmed := Text.trimBlanks input.toList
  if trimmed.isEmpty then .error .empty
  else
    match Decimal.ofText? trimmed with
    | some value => .ok value
    | none => .error (.invalid (String.ofList trimmed))

end DoubleEntry.Amount
