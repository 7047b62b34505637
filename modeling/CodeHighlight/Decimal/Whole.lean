/-!
# Whole numbers in floating-point numbers

A finite double is a whole number times a power of two, so its whole part is found by shifting.
-/

namespace CodeHighlight.Decimal

/-- The whole part of a finite double, cut toward zero. -/
def truncate? (x : Float) : Option Int :=
  let bits : Nat := x.toBits.toNat
  let exponent : Nat := bits / Nat.pow 2 52 % 2048
  let fraction : Nat := bits % Nat.pow 2 52
  if exponent = 2047 then none
  else
    let significand := if exponent = 0 then fraction else Nat.pow 2 52 + fraction
    let size :=
      if exponent ≥ 1075 then significand * Nat.pow 2 (exponent - 1075)
      else significand / Nat.pow 2 (1075 - max exponent 1)
    some (if bits / Nat.pow 2 63 = 1 then -(size : Int) else size)

/-- The whole number that a double is, if it is one. -/
def whole? (x : Float) : Option Int := if x == x.floor then truncate? x else none

end CodeHighlight.Decimal
