import EntitySieve.Json.Value
import EntitySieve.Text.Decimal

/-! Number literals of JSON. -/
namespace EntitySieve.Json
open Text (isDigits)

def isExponent : Text → Bool
  | [] => true
  | c :: t =>
    (c == 'e' || c == 'E') &&
      match t with
      | '+' :: ds => isDigits ds
      | '-' :: ds => isDigits ds
      | ds => isDigits ds

def isFraction : Text → Bool
  | '.' :: t => isDigits (t.takeWhile Char.isDigit) && isExponent (t.dropWhile Char.isDigit)
  | t => isExponent t

/-- A number without its sign; no digit follows a leading zero. -/
def isUnsigned (t : Text) : Bool :=
  let whole := t.takeWhile Char.isDigit
  isDigits whole && (whole == ['0'] || whole.head? != some '0') &&
    isFraction (t.dropWhile Char.isDigit)

def isNumber : Text → Bool
  | '-' :: t => isUnsigned t
  | t => isUnsigned t

def isNumberChar (c : Char) : Bool :=
  c.isDigit || c == '-' || c == '+' || c == '.' || c == 'e' || c == 'E'

def ofNat (n : Nat) : Json := .number (Text.ofNat n)

end EntitySieve.Json
