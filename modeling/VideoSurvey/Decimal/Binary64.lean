/-!
# Binary floating-point numbers of 64 bits

A finite number is a sign and a magnitude, significand times a power of two. `Magnitude.ofRatio`
is the magnitude nearest to a quotient of natural numbers, ties to the even significand; the
products and quotients of magnitudes are the nearest magnitudes of the exact results. All
arithmetic is exact on natural numbers. A result beyond the largest finite magnitude is `none`.
-/

set_option autoImplicit false

namespace VideoSurvey.Decimal

/-- The powers of two. -/
def twoTo (n : Nat) : Nat := Nat.pow 2 n

/-- The powers of ten. -/
def tenTo (n : Nat) : Nat := Nat.pow 10 n

/-- A number of 64 bits: sign, eleven bits of exponent, 52 bits of fraction. -/
structure Binary64 where
  bits : UInt64
deriving DecidableEq, Repr

/-- A non-negative finite number, `significand * 2 ^ exponent`. -/
structure Magnitude where
  significand : Nat
  exponent : Int
deriving DecidableEq, Repr

namespace Magnitude

/-- Place value of the last bit of the smallest magnitudes. -/
def leastExponent : Int := -1074

/-- Place value of the last bit of the largest magnitudes. -/
def greatestExponent : Int := 971

/-- The bit that leads a significand of 53 bits. -/
def leadingBit : Nat := 0x10000000000000

/-- Zero. -/
def zero : Magnitude := ⟨0, leastExponent⟩

/-- Quotient rounded to the nearest integer, a half to the even neighbour. -/
def roundQuotient (num den : Nat) : Nat :=
  let q := num / den
  let twice := 2 * (num % den)
  if twice < den then q
  else if den < twice then q + 1
  else q + q % 2

/-- Numerator and denominator of `num / (den * 2 ^ e)`. -/
def scaleDown (num den : Nat) (e : Int) : Nat × Nat :=
  if e < 0 then (num * twoTo e.natAbs, den) else (num, den * twoTo e.toNat)

/-- The exponent at which `num / den` has a significand of 53 bits, or the least exponent. -/
def exponentFor (num den : Nat) : Int :=
  let guess : Int := (num.log2 : Int) - (den.log2 : Int) - 52
  let (n, d) := scaleDown num den guess
  max (if n < d * leadingBit then guess - 1 else guess) leastExponent

/-- The nearest magnitude to `num / den`, ties to even. -/
def ofRatio (num den : Nat) : Option Magnitude :=
  if num = 0 || den = 0 then some zero
  else
    let e := exponentFor num den
    let (n, d) := scaleDown num den e
    let m := roundQuotient n d
    let (m, e) := if m = 2 * leadingBit then (leadingBit, e + 1) else (m, e)
    if greatestExponent < e then none else some ⟨m, e⟩

/-- The nearest magnitude to a natural number. -/
def ofNat (n : Nat) : Option Magnitude := ofRatio n 1

/-- Numerator of the exact value. -/
def numerator (x : Magnitude) : Nat := x.significand * twoTo x.exponent.toNat

/-- Denominator of the exact value. -/
def denominator (x : Magnitude) : Nat := twoTo (-x.exponent).toNat

/-- Rounded product. -/
def mul (x y : Magnitude) : Option Magnitude :=
  ofRatio (x.numerator * y.numerator) (x.denominator * y.denominator)

/-- Rounded quotient. -/
def div (x y : Magnitude) : Option Magnitude :=
  ofRatio (x.numerator * y.denominator) (x.denominator * y.numerator)

end Magnitude

namespace Binary64

open Magnitude (leadingBit)

/-- The bit of the sign. -/
def signBit : Nat := 0x8000000000000000

/-- One more than the greatest bits of exponent. -/
def exponentBound : Nat := 0x800

/-- The sign bit. -/
def isNegative (x : Binary64) : Bool := signBit ≤ x.bits.toNat

/-- The eleven bits of exponent. -/
def exponentField (x : Binary64) : Nat := x.bits.toNat / leadingBit % exponentBound

/-- The 52 bits of fraction. -/
def fractionField (x : Binary64) : Nat := x.bits.toNat % leadingBit

/-- The number without its sign. -/
def magnitude (x : Binary64) : Magnitude :=
  if x.exponentField = 0 then ⟨x.fractionField, Magnitude.leastExponent⟩
  else ⟨leadingBit + x.fractionField, (x.exponentField : Int) - 1075⟩

/-- The number with a given sign and magnitude. -/
def ofMagnitude (negative : Bool) (x : Magnitude) : Binary64 :=
  let body :=
    if x.significand < leadingBit then x.significand
    else (x.exponent + 1075).toNat * leadingBit + (x.significand - leadingBit)
  ⟨UInt64.ofNat (body + if negative then signBit else 0)⟩

end Binary64

end VideoSurvey.Decimal
