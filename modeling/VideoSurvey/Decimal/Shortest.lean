import VideoSurvey.Decimal.Binary64

/-!
# The fewest digits that read back

`shortest` gives a magnitude the decimal with the fewest digits among those that lie nearer to it
than to any other magnitude, and of those the nearest to it. The reals that round to a magnitude
form an interval around it, ends included when its significand is even. For one digit, two digits
and so on, only the two neighbours of the value on that decimal grid can lie in the interval.
-/

set_option autoImplicit false

namespace VideoSurvey.Decimal

/-- A decimal `digits * 10 ^ exponent`. -/
structure Scientific where
  digits : Nat
  exponent : Int
deriving DecidableEq, Repr

namespace Shortest

/-- Number of decimal digits. -/
def digitCount (n : Nat) : Nat := (Nat.toDigits 10 n).length

/-- The `k` with `10 ^ k ≤ num / den < 10 ^ (k + 1)`. -/
def order (num den : Nat) : Int :=
  if den ≤ num then (digitCount (num / den) : Int) - 1 else -(digitCount ((den - 1) / num) : Int)

/-- Numerator and denominator of `num / den / 10 ^ e`. -/
def onGrid (num den : Nat) (e : Int) : Nat × Nat :=
  if e < 0 then (num * tenTo e.natAbs, den) else (num, den * tenTo e.toNat)

/-- Four times the significand of the lower end, of the value, and of the upper end of the interval
that rounds to a magnitude. Below a power of two the magnitudes are twice as dense. -/
def ends (x : Magnitude) : Nat × Nat × Nat :=
  let m := x.significand
  let below := if m = Magnitude.leadingBit && Magnitude.leastExponent < x.exponent then 1 else 2
  (4 * m - below, 4 * m, 4 * m + 2)

/-- The neighbour of the value on the grid `10 ^ e` that rounds to the magnitude, if one does; of
two the nearer, and the even one when both are equally near. -/
def candidate (x : Magnitude) (e : Int) : Option Nat :=
  let (low, mid, high) := ends x
  let unit := (⟨1, x.exponent - 2⟩ : Magnitude)
  let (num, den) := onGrid unit.numerator unit.denominator e
  let down := mid * num / den
  let inside (d : Nat) : Bool :=
    if x.significand % 2 = 0 then low * num ≤ d * den && d * den ≤ high * num
    else low * num < d * den && d * den < high * num
  match inside down, inside (down + 1) with
  | false, false => none
  | true, false => some down
  | false, true => some (down + 1)
  | true, true =>
      let twice := 2 * (mid * num - down * den)
      if twice < den then some down
      else if den < twice then some (down + 1)
      else some (down + down % 2)

/-- Removes up to `fuel` trailing zeros. -/
def stripZeros : Nat → Scientific → Scientific
  | 0, d => d
  | fuel + 1, d =>
      if d.digits ≠ 0 && d.digits % 10 = 0 then stripZeros fuel ⟨d.digits / 10, d.exponent + 1⟩
      else d

end Shortest

/-- The shortest decimal of a magnitude, without trailing zeros. Seventeen digits always suffice. -/
def shortest (x : Magnitude) : Scientific :=
  if x.significand = 0 then ⟨0, 0⟩
  else
    let k := Shortest.order x.numerator x.denominator
    let found := (List.range 17).findSome? fun (n : Nat) =>
      let e := k - (n : Int)
      (Shortest.candidate x e).map fun d => (⟨d, e⟩ : Scientific)
    Shortest.stripZeros 20 (found.getD ⟨0, 0⟩)

end VideoSurvey.Decimal
