/-!
# Shortest decimal text of a floating-point number

A finite double is `m * 2 ^ q` with whole `m` and `q`. Its decimal text has the fewest digits that
read back as the same double, and of those the digits nearest to it. All comparisons are made
between whole numbers.
-/

namespace CodeHighlight.Decimal

/-- A positive double: `significand * 2 ^ exponent`. The gap below a power of two is half the gap
above it. -/
structure Positive where
  significand : Nat
  exponent : Int
  narrowBelow : Bool

/-- A quotient of whole numbers. -/
structure Ratio where
  num : Nat
  den : Nat

/-- `n * 2 ^ e`. -/
def Ratio.scaleTwo (n : Nat) (e : Int) : Ratio :=
  if e < 0 then ⟨n, Nat.pow 2 e.natAbs⟩ else ⟨n * Nat.pow 2 e.toNat, 1⟩

/-- The quotient divided by `10 ^ k`. -/
def Ratio.shiftTen (r : Ratio) (k : Int) : Ratio :=
  if k < 0 then ⟨r.num * Nat.pow 10 k.natAbs, r.den⟩ else ⟨r.num, r.den * Nat.pow 10 k.toNat⟩

/-- The least `k ≤ bound` at which the quotient times `10 ^ k` reaches one. -/
def Ratio.leadingPlace (r : Ratio) : Nat → Nat → Nat
  | 0, k => k
  | bound + 1, k => if r.den ≤ r.num * Nat.pow 10 k then k else r.leadingPlace bound (k + 1)

/-- The place of the leading decimal digit of a positive quotient. -/
def Ratio.magnitude (r : Ratio) : Int :=
  if r.den ≤ r.num then ((Nat.toDigits 10 (r.num / r.den)).length : Int) - 1
  else -(r.leadingPlace 400 1 : Int)

/-- Digits and the place of the last one: `digits * 10 ^ place`. -/
structure Digits where
  digits : Nat
  place : Int

namespace Positive

/-- The value four times as fine, so that the bounds of its interval are whole. -/
def middle (x : Positive) : Nat := 4 * x.significand

/-- Lower bound of the reals that read back as the number. -/
def low (x : Positive) : Nat := x.middle - if x.narrowBelow then 1 else 2

/-- Upper bound of the reals that read back as the number. -/
def high (x : Positive) : Nat := x.middle + 2

/-- `d * 10 ^ k` reads back as the number; the bounds count when the significand is even. -/
def readsBack (x : Positive) (d : Nat) (k : Int) : Bool :=
  let lo := (Ratio.scaleTwo x.low (x.exponent - 2)).shiftTen k
  let hi := (Ratio.scaleTwo x.high (x.exponent - 2)).shiftTen k
  if x.significand % 2 = 0 then lo.num ≤ d * lo.den && d * hi.den ≤ hi.num
  else lo.num < d * lo.den && d * hi.den < hi.num

/-- The nearest decimal with `count` digits that reads back, if there is one. -/
def onGrid? (x : Positive) (magnitude : Int) (count : Nat) : Option Digits :=
  let k := magnitude - count + 1
  let v := (Ratio.scaleTwo x.middle (x.exponent - 2)).shiftTen k
  let below := v.num / v.den
  let above := below + 1
  let twiceRest := 2 * (v.num % v.den)
  -- What reads back lies in an interval around the value, so if a point of the grid does, one of
  -- the value's two neighbours does.
  match x.readsBack below k, x.readsBack above k with
  | true, false => some ⟨below, k⟩
  | false, true => some ⟨above, k⟩
  | true, true =>
    if twiceRest < v.den ∨ (twiceRest = v.den ∧ below % 2 = 0) then some ⟨below, k⟩
    else some ⟨above, k⟩
  | false, false => none

/-- The first grid on which a decimal reads back. -/
def firstGrid (x : Positive) (magnitude : Int) : Nat → Nat → Digits
  | 0, _ => ⟨x.significand, 0⟩
  | more + 1, count => (x.onGrid? magnitude count).getD (x.firstGrid magnitude more (count + 1))

/-- The shortest decimal that reads back. -/
def shortest (x : Positive) : Digits :=
  x.firstGrid (Ratio.scaleTwo x.middle (x.exponent - 2)).magnitude 17 1

end Positive

/-- How decimals are laid out: positional between two places of the leading digit, with an exponent
outside. -/
structure Layout where
  lowestPlace : Int
  highestPlace : Int
  exponentWidth : Nat

/-- Positional from one ten-thousandth up to sixteen digits before the point; exponents have a sign
and at least two digits. -/
def Layout.standard : Layout := ⟨-4, 15, 2⟩

/-- Digits without the zeros at the end, and the place of the last one kept. -/
def Digits.normalized : Nat → Digits → Digits
  | 0, d => d
  | fuel + 1, d =>
    if d.digits ≠ 0 ∧ d.digits % 10 = 0 then Digits.normalized fuel ⟨d.digits / 10, d.place + 1⟩
    else d

/-- Lays digits out; a positional number has at least one digit after the point. -/
def Layout.render (layout : Layout) (d : Digits) : String :=
  let d := d.normalized 20
  let digits := Nat.toDigits 10 d.digits
  let lead : Int := d.place + digits.length - 1
  let zeros (n : Int) : List Char := List.replicate n.toNat '0'
  let text :=
    if layout.lowestPlace ≤ lead ∧ lead ≤ layout.highestPlace then
      if lead < 0 then '0' :: '.' :: (zeros (-lead - 1) ++ digits)
      else
        let whole := digits.take (lead.toNat + 1)
        let fraction := digits.drop (lead.toNat + 1)
        whole ++ zeros (lead + 1 - whole.length) ++
          '.' :: (if fraction.isEmpty then ['0'] else fraction)
    else
      let mantissa := match digits with
        | [] => []
        | [c] => [c]
        | c :: rest => c :: '.' :: rest
      let exponent := Nat.toDigits 10 lead.natAbs
      mantissa ++ 'e' :: (if lead < 0 then '-' else '+')
        :: (zeros (layout.exponentWidth - exponent.length) ++ exponent)
  String.ofList text

/-- The text of a double: shortest digits, `inf`, `-inf` or `nan`; a zero keeps its sign. -/
def render (x : Float) : String :=
  let bits : Nat := x.toBits.toNat
  let negative := bits / Nat.pow 2 63 = 1
  let exponent : Nat := bits / Nat.pow 2 52 % 2048
  let fraction : Nat := bits % Nat.pow 2 52
  let body :=
    if exponent = 2047 then (if fraction = 0 then "inf" else "nan")
    else if exponent = 0 ∧ fraction = 0 then "0.0"
    else
      let number : Positive :=
        if exponent = 0 then ⟨fraction, -1074, false⟩
        else ⟨Nat.pow 2 52 + fraction, (exponent : Int) - 1075, fraction = 0 ∧ exponent > 1⟩
      Layout.standard.render number.shortest
  if negative ∧ ¬(exponent = 2047 ∧ fraction ≠ 0) then "-" ++ body else body

end CodeHighlight.Decimal
