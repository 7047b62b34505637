import CodeHighlight.Decimal.Shortest

/-!
# The nearest double

A positive ratio is written with as many binary digits as a double has, and what is left over is
rounded: the nearer neighbour wins, and of two equally near ones the even. The bits of a double are
ordered like the numbers, so rounding up from the largest significand moves on to the next exponent
by itself.
-/

namespace CodeHighlight.Decimal

/-- The quotient of two numbers to the nearest whole number; a half goes to the even one. -/
def divNearest (numerator denominator : Nat) : Nat :=
  let quotient := numerator / denominator
  let twice := 2 * (numerator % denominator)
  if denominator < twice ∨ (twice = denominator ∧ quotient % 2 = 1) then quotient + 1 else quotient

namespace Ratio

/-- A ratio divided by a power of two. -/
def divTwo (r : Ratio) (exponent : Int) : Ratio :=
  if 0 ≤ exponent then ⟨r.num, r.den * Nat.pow 2 exponent.toNat⟩
  else ⟨r.num * Nat.pow 2 (-exponent).toNat, r.den⟩

/-- The exponent at which a ratio has the significand of a double, or the least one there is. -/
def binaryExponent (r : Ratio) : Int :=
  -- The numbers of bits tell the exponent up to one, and the first quotient decides.
  let guess : Int := (r.num.log2 : Int) - r.den.log2 - 53
  let scaled := r.divTwo guess
  let exact := if scaled.num / scaled.den < Nat.pow 2 53 then guess else guess + 1
  max exact (-1074)

/-- The bits of the double nearest to a ratio; one that is too large becomes infinity. -/
def nearestBits (r : Ratio) : Nat :=
  let exponent := r.binaryExponent
  let scaled := r.divTwo exponent
  let significand := divNearest scaled.num scaled.den
  let bits := (exponent + 1074).toNat * Nat.pow 2 52 + significand
  min bits (2047 * Nat.pow 2 52)

end Ratio

/-- The double nearest to `digits` times ten to the power of `place`. Places that lead beyond all
doubles are not computed. -/
def nearest (digits : Nat) (place : Int) : Float :=
  -- A binary digit is worth between a quarter and a third of a decimal one.
  let magnitude : Int := (digits.log2 : Int) / 4 + place
  if digits = 0 ∨ (digits.log2 : Int) / 3 + 1 + place < -330 then 0.0
  else if 330 < magnitude then 1.0 / 0.0
  else
    let ratio : Ratio :=
      if 0 ≤ place then ⟨digits * Nat.pow 10 place.toNat, 1⟩
      else ⟨digits, Nat.pow 10 (-place).toNat⟩
    Float.ofBits (UInt64.ofNat ratio.nearestBits)

end CodeHighlight.Decimal
