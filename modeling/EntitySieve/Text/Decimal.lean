import EntitySieve.Text.Basic

/-! Natural numbers in decimal digits. -/
namespace EntitySieve.Text

def ofNat (n : Nat) : Text := Nat.toDigits 10 n

/-- Whether digits stand here and nothing else. -/
def isDigits (t : Text) : Bool := !t.isEmpty && t.all Char.isDigit

/-- The number that digits denote; leading zeros do not matter. -/
def natural? (t : Text) : Option Nat :=
  if isDigits t then some (t.foldl (fun n c => 10 * n + (c.toNat - '0'.toNat)) 0) else none

end EntitySieve.Text
