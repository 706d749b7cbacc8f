import BhDic.Python.Date

/-!
# Decimals

`decimal.Decimal`, and its text with two places and a comma at every thousand.
-/

namespace BhDic.Python

inductive Decimal
  /-- `coefficient * 10 ** exponent`, negated where `negative`. -/
  | finite (negative : Bool) (coefficient : Nat) (exponent : Int)
  | infinity (negative : Bool)
  | nan (negative signaling : Bool) (payload : Nat)
  deriving DecidableEq, Repr

namespace Decimal

def sign (negative : Bool) : List Char := if negative then ['-'] else []

/-- `n / d` to the nearest integer, and to the even one of two that are as near. -/
def roundHalfEven (n d : Nat) : Nat :=
  let q := n / d
  let r := n % d
  if d < 2 * r ∨ (2 * r = d ∧ q % 2 = 1) then q + 1 else q

/-- The nearest whole number of hundredths. -/
def hundredths (coefficient : Nat) (exponent : Int) : Nat :=
  if -2 ≤ exponent then coefficient * 10 ^ (exponent + 2).toNat
  else roundHalfEven coefficient (10 ^ (-2 - exponent).toNat)

/-- Reversed digits, with a comma after every third. -/
def groupReversed : List Char → List Char
  | a :: b :: c :: d :: rest => a :: b :: c :: ',' :: groupReversed (d :: rest)
  | digits => digits

/-- `f"{value:,.2f}"`. -/
def formatTwoPlaces : Decimal → List Char
  | .finite negative coefficient exponent =>
      let n := hundredths coefficient exponent
      sign negative ++ (groupReversed (Nat.toDigits 10 (n / 100)).reverse).reverse ++
        '.' :: padDigits 2 (n % 100)
  | .infinity negative => sign negative ++ "Infinity".toList
  | .nan negative signaling payload =>
      sign negative ++ (if signaling then ['s'] else []) ++ "NaN".toList ++
        (if payload = 0 then [] else Nat.toDigits 10 payload)

example : formatTwoPlaces (.finite false 1234567125 (-3)) = "1,234,567.12".toList := by decide

end Decimal

end BhDic.Python
