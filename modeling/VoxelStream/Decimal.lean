/-!
# Decimal literals

The digits of a number in a text, and when a decimal is too large for a double.

A double is rounded to nearest, so a decimal overflows if it reaches the middle between the largest
finite double and the next power of two.  The test is exact.  Decimals far from the bound are
decided by their exponent alone, so that no huge power is computed.
-/

namespace VoxelStream

namespace Decimal

def digitValue (digit : Char) : Nat := digit.toNat - 48

/-- The number that a list of digits denotes, in a base, behind a number already read. -/
def ofDigits (base : Nat) (value : Char → Nat) (digits : List Char) : Nat :=
  digits.foldl (fun number digit => number * base + value digit) 0

def value (digits : List Char) : Nat := ofDigits 10 digitValue digits

def hexValue? (digit : Char) : Option Nat :=
  let code := digit.toNat
  if 48 ≤ code ∧ code ≤ 57 then some (code - 48)
  else if 97 ≤ code ∧ code ≤ 102 then some (code - 87)
  else if 65 ≤ code ∧ code ≤ 70 then some (code - 55)
  else none

/-- The number that hexadecimal digits denote, if all are digits. -/
def hexNumber? (digits : List Char) : Option Nat :=
  (digits.mapM hexValue?).map fun values =>
    values.foldl (fun number digit => number * 16 + digit) 0

/-- The hexadecimal digit of a value, in lower case. -/
def hexDigit (value : Nat) : Char := Char.ofNat (if value < 10 then 48 + value else 87 + value)

/-- The least number that rounds to no finite double: 54 ones, and 970 zeros behind them. -/
def doubleBound : Nat := (1 <<< 54 - 1) <<< 970

/-- Whether `mantissa` times ten to the `exponent` rounds to no finite double. -/
def overflowsDouble (mantissa : Nat) (exponent : Int) : Bool :=
  if mantissa = 0 then false
  else
    match exponent with
    | .ofNat up => 400 ≤ up || doubleBound ≤ mantissa * Nat.pow 10 up
    | .negSucc down =>
      if mantissa.log2 < 3 * (down + 1) then false
      else doubleBound * Nat.pow 10 (down + 1) ≤ mantissa

end Decimal

end VoxelStream
