import BhDic.Library.Json

/-!
# Equality of JSON values

`==` does not tell a boolean from the integer it is, nor an integer from the float of its value. The
value of a float is a field of `FloatData`, and every result holds whatever it is.
-/

namespace BhDic.Python

open BhDic.Library

structure FloatData where
  /-- The integer a float equals, if there is one. -/
  integer : FloatText → Option Int

/-- `value == n`, for an integer or a boolean `n`. -/
def equalsInt (d : FloatData) : Json → Int → Bool
  | .bool b, n => n == b.toNat
  | .int m, n => m == n
  | .float f, n => d.integer f == some n
  | _, _ => false

@[simp] theorem equalsInt_bool (d : FloatData) (b b' : Bool) :
    equalsInt d (.bool b) b'.toNat = (b' == b) := by
  cases b <;> cases b' <;> rfl

end BhDic.Python
