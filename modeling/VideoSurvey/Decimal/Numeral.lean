import VideoSurvey.Decimal.Binary64

/-!
# The value of a written number

A numeral is the written form of a number: a sign, the digits before and after the point, and an
exponent. A whole number between -2^63 and 2^64 - 1 keeps its value; `-0`, larger whole numbers,
and every numeral with a point or an exponent become numbers of 64 bits.

The digits of such a number are gathered into a significand below 2^64; where the next digit no
longer fits, the gathering stops, and each further digit before the point counts as a power of
ten. The significand is then multiplied or divided by a power of ten, rounded at each of the two
steps. So the result is near the exact value, though not always nearest to it.
-/

set_option autoImplicit false

namespace VideoSurvey.Decimal

/-- The exponent part of a numeral. -/
structure Power where
  negative : Bool
  digits : List Nat
deriving DecidableEq, Repr

/-- A written number; `fraction` is empty when there is no point. -/
structure Numeral where
  negative : Bool
  whole : List Nat
  fraction : List Nat
  power : Option Power
deriving DecidableEq, Repr

/-- A whole number, or a number of 64 bits. -/
inductive Number where
  | integer (value : Int)
  | binary (value : Binary64)
deriving DecidableEq, Repr

namespace Numeral

/-- Significands stay below this bound. -/
def significandBound : Nat := 18446744073709551616

/-- The greatest significand whose negation is kept as an integer. -/
def greatestNegation : Nat := 9223372036854775808

/-- Exponents stay below this bound. -/
def powerBound : Nat := 2147483648

/-- Appends digits to a value while it stays below `bound`; the number of digits taken comes
with it. -/
def gather (bound : Nat) : Nat → List Nat → Nat × Nat
  | value, [] => (value, 0)
  | value, d :: r =>
      if value * 10 + d < bound then
        let (value, taken) := gather bound (value * 10 + d) r
        (value, taken + 1)
      else (value, 0)

/-- Where an exponent has too many digits: the place, counted from one, of the first that takes it
out of the range of exponents. -/
def excess? (p : Power) : Option Nat :=
  let taken := (gather powerBound 0 p.digits).2
  if taken < p.digits.length then some (taken + 1) else none

/-- Significand and power of ten of the digits around the point. -/
def digitsValue (n : Numeral) : Nat × Int :=
  let (whole, kept) := gather significandBound 0 n.whole
  let (value, taken) := gather significandBound whole n.fraction
  (value, ((n.whole.length - kept : Nat) : Int) - (taken : Int))

/-- Ten to the power `k`, rounded. -/
def powerOfTen (k : Nat) : Magnitude := (Magnitude.ofNat (tenTo k)).getD Magnitude.zero

/-- Largest power of ten used in one step. -/
def greatestPower : Nat := 308

/-- Up to `k` divisions by the largest power of ten, until zero is reached. -/
def divideDown : Nat → Magnitude → Magnitude
  | 0, x => x
  | k + 1, x =>
      if x.significand = 0 then x
      else divideDown k ((x.div (powerOfTen greatestPower)).getD Magnitude.zero)

/-- The magnitude of `significand * 10 ^ exponent`, or `none` beyond the finite ones. -/
def scaled (significand : Nat) (exponent : Int) : Option Magnitude := do
  let x ← Magnitude.ofNat significand
  if 0 ≤ exponent then
    if exponent.toNat ≤ greatestPower then x.mul (powerOfTen exponent.toNat)
    else if significand = 0 then some x
    else none
  else
    let steps := (exponent.natAbs - 1) / greatestPower
    (divideDown steps x).div (powerOfTen (exponent.natAbs - steps * greatestPower))

/-- The number of 64 bits for given digits and a power of ten. -/
def toBinary (n : Numeral) (shift : Int) : Option Number :=
  let (significand, exponent) := n.digitsValue
  (scaled significand (exponent + shift)).map fun x => .binary (.ofMagnitude n.negative x)

/-- The value of a numeral, or `none` when it is beyond the finite numbers. -/
def value (n : Numeral) : Option Number :=
  match n.power with
  | some p =>
      if (excess? p).isSome then
        if (n.digitsValue).1 = 0 || p.negative then
          some (.binary (.ofMagnitude n.negative Magnitude.zero))
        else none
      else
        let size : Int := (gather powerBound 0 p.digits).1
        n.toBinary (if p.negative then -size else size)
  | none =>
      let (significand, exponent) := n.digitsValue
      if exponent ≠ 0 || !n.fraction.isEmpty then n.toBinary 0
      else if !n.negative then some (.integer significand)
      else if significand = 0 || greatestNegation < significand then n.toBinary 0
      else some (.integer (-(significand : Int)))

end Numeral

end VideoSurvey.Decimal
