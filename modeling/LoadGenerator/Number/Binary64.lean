/-
Floating-point numbers of sixty-four bits, as exact integers.

* **`Binary64`** — the bits; two numbers are the same datum exactly when their bits agree;
* **`Binary64.significand`**, **`Binary64.exponent`** — a finite number is
  `significand · 2 ^ exponent` up to its sign;
* **`Binary64.ofRatio`** — the number nearest to a quotient, a tie going to the even significand;
* **`Binary64.ofDecimal`** — the number nearest to a decimal.
-/
import LoadGenerator.Number.Natural

namespace LoadGenerator

/-- The quotient rounded to the nearest natural number, a tie going to the even one. -/
def roundHalfEven (num den : Nat) : Nat :=
  let quotient := num / den
  let remainder := num % den
  if 2 * remainder < den then quotient
  else if den < 2 * remainder then quotient + 1
  else quotient + quotient % 2

/-- A floating-point number of sixty-four bits. -/
structure Binary64 where
  bits : UInt64
  deriving DecidableEq, Repr, Inhabited

namespace Binary64

/-- The least exponent of a finite number. -/
def leastExponent : Int := -1074

/-- The bits below the sign. -/
def magnitudeBits (x : Binary64) : Nat := x.bits.toNat % twoTo 63

/-- The sign bit is set. -/
def isNegative (x : Binary64) : Bool := twoTo 63 ≤ x.bits.toNat

/-- The bits of an infinite magnitude: the least pattern that is no finite number. -/
def infiniteBits : Nat := 2047 * twoTo 52

/-- The number is no number at all. -/
def isNaN (x : Binary64) : Bool := infiniteBits < x.magnitudeBits

/-- The number is infinite. -/
def isInfinite (x : Binary64) : Bool := x.magnitudeBits = infiniteBits

/-- The number is zero, of either sign. -/
def isZero (x : Binary64) : Bool := x.magnitudeBits = 0

/-- The biased exponent that is stored. -/
def exponentField (x : Binary64) : Nat := x.magnitudeBits / twoTo 52

/-- The integer that the exponent scales, for a finite number. -/
def significand (x : Binary64) : Nat :=
  let fraction := x.magnitudeBits % twoTo 52
  if x.exponentField = 0 then fraction else twoTo 52 + fraction

/-- The power of two that scales the significand, for a finite number. -/
def exponent (x : Binary64) : Int :=
  if x.exponentField = 0 then leastExponent else (x.exponentField : Int) - 1075

/-- A number from its sign and the bits below it, cut to the infinite pattern. -/
def ofMagnitude (negative : Bool) (magnitude : Nat) : Binary64 :=
  ⟨((if negative then twoTo 63 else 0) + min magnitude infiniteBits).toUInt64⟩

/-- The numbers that are not finite, and the two zeros. -/
def infinity (negative : Bool) : Binary64 := ofMagnitude negative infiniteBits

/-- A pattern that is no number. -/
def nan (negative : Bool) : Binary64 :=
  ⟨((if negative then twoTo 63 else 0) + 4095 * twoTo 51).toUInt64⟩

/-- The numbers cannot be told apart. The zeros can, by their signs; what is no number is all
one. -/
def sameNumber (x y : Binary64) : Bool :=
  x.bits = y.bits || (x.isNaN && y.isNaN)

/-- The quotient `num / (den · 2 ^ e)`, rounded to the nearest integer with ties to even. -/
def roundScaled (num den : Nat) (e : Int) : Nat :=
  if e < 0 then roundHalfEven (num * twoTo (-e).toNat) den
  else roundHalfEven num (den * twoTo e.toNat)

/-- The number nearest to `num / den`, a tie going to the even significand. A quotient beyond the
greatest finite number, as far as a step of its size, is infinite.

With `e` the exponent at which the quotient has a significand of fifty-three bits, and never below
the least exponent, the magnitude's bits are `(e + 1074) · 2 ^ 52` plus the rounded significand,
also where rounding carries into the next exponent. -/
def ofRatio (negative : Bool) (num den : Nat) : Binary64 :=
  if num = 0 then ofMagnitude negative 0
  else
    -- right, or one too great when the significand would have fewer than fifty-three bits
    let guess : Int := (num.log2 : Int) - (den.log2 : Int) - 52
    let small : Bool :=
      if guess < 0 then num * twoTo (-guess).toNat < den * twoTo 52
      else num < den * twoTo guess.toNat * twoTo 52
    let e := max (if small then guess - 1 else guess) leastExponent
    ofMagnitude negative ((e - leastExponent).toNat * twoTo 52 + roundScaled num den e)

/-- The number nearest to `digits · 10 ^ e`. Decimals far out of range are settled by their size. -/
def ofDecimal (negative : Bool) (digits : Nat) (e : Int) : Binary64 :=
  let size : Int := (Nat.toDigits 10 digits).length + e
  if digits = 0 || size < -400 then ofMagnitude negative 0
  else if 400 < size then infinity negative
  else if e < 0 then ofRatio negative digits (tenTo (-e).toNat)
  else ofRatio negative (digits * tenTo e.toNat) 1

end Binary64

end LoadGenerator
