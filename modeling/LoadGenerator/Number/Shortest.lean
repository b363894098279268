/-
The fewest decimal digits that read back as a given floating-point number.

* **`Decimal`** — significant digits with a point behind the first and a power of ten;
* **`Binary64.shortest`** — of the decimals with the fewest digits that lie nearer to the number
  than to any other, the one nearest to it, the greater of two equally near;
* **`DecimalLayout`** — where positional notation ends and whether a whole number keeps a point;
* **`Decimal.text`** — digits laid out.

A number `m · 2 ^ q` is the nearest one to every real between the midpoints to its neighbours, and
to the midpoints themselves when `m` is even. If any decimal of `n` digits lies in that interval,
then so does one of the two that enclose the number on the grid of `n` digits.
-/
import LoadGenerator.Number.Binary64

namespace LoadGenerator

/-- The decimal `d₁.d₂d₃… · 10 ^ exponent`. -/
structure Decimal where
  digits : List Nat
  exponent : Int
  deriving DecidableEq, Repr

namespace Binary64

/-- A positive number and the bounds of the reals that round to it, as integers over one
denominator. -/
structure Interval where
  low : Nat
  value : Nat
  high : Nat
  den : Nat
  closed : Bool

/-- The interval of a finite number's magnitude. Below a power of two the neighbour is half as
far. -/
def interval (x : Binary64) : Interval :=
  -- everything in quarters of a unit, so that the midpoints are whole
  let m := x.significand
  let below := if m = twoTo 52 ∧ 1 < x.exponentField then 4 * m - 1 else 4 * m - 2
  let e := x.exponent - 2
  let up := if 0 ≤ e then twoTo e.toNat else 1
  let den := if e < 0 then twoTo (-e).toNat else 1
  { low := below * up
    value := 4 * m * up
    high := (4 * m + 2) * up
    den
    closed := m % 2 = 0 }

namespace Interval

/-- Some decimal `n · 10 ^ k` lies in the interval. The pair stands for the power of ten: a factor
above and a factor below. -/
def holds (i : Interval) (n : Nat) (up down : Nat) : Bool :=
  let v := n * up * i.den
  if i.closed then i.low * down ≤ v && v ≤ i.high * down
  else i.low * down < v && v < i.high * down

/-- The power of ten as a factor above and a factor below. -/
def powerOfTen (k : Int) : Nat × Nat :=
  if 0 ≤ k then (tenTo k.toNat, 1) else (1, tenTo (-k).toNat)

/-- The multiple of `10 ^ k` in the interval that is nearest to the number, if it holds one of the
two that enclose the number. -/
def nearestOnGrid? (i : Interval) (k : Int) : Option Nat :=
  let (up, down) := powerOfTen k
  let num := i.value * down
  let den := i.den * up
  let floor := num / den
  let remainder := num % den
  let floorHolds := i.holds floor up down
  let ceilHolds := i.holds (floor + 1) up down
  if floorHolds && (!ceilHolds || 2 * remainder < den) then some floor
  else if ceilHolds then some (floor + 1)
  else none

/-- The exponent of the number's leading decimal digit: from a lower guess upwards, the first at
which the number has a single digit before the point. -/
def leadingExponent (i : Interval) : (fuel : Nat) → (guess : Int) → Int
  | 0, guess => guess
  | fuel + 1, guess =>
    let (up, down) := powerOfTen (guess + 1)
    if i.value * down < i.den * up then guess else i.leadingExponent fuel (guess + 1)

/-- The coarsest grid, from `count` digits on, that has a point in the interval. -/
def firstGrid (i : Interval) (leading : Int) : (fuel : Nat) → (count : Int) → Nat × Int
  | 0, count => (0, leading + 1 - count)
  | fuel + 1, count =>
    let k := leading + 1 - count
    match i.nearestOnGrid? k with
    | some n => (n, k)
    | none => i.firstGrid leading fuel (count + 1)

end Interval

/-- The shortest decimal of a finite number's magnitude. Seventeen digits always suffice. -/
def shortest (x : Binary64) : Decimal :=
  if x.isZero then ⟨[0], 0⟩
  else
    let i := x.interval
    -- the logarithm of two to five places, and one less, so that the guess is never too high
    let guess : Int := ((i.value.log2 : Int) - (i.den.log2 : Int) - 1) * 30103 / 100000 - 1
    let leading := i.leadingExponent 8 guess
    let (n, k) := i.firstGrid leading 17 1
    let written := Nat.toDigits 10 n
    let digits := (written.map fun c => c.toNat - '0'.toNat)
    let trimmed := (digits.reverse.dropWhile (· = 0)).reverse
    { digits := trimmed, exponent := k + digits.length - 1 }

end Binary64

/-- How decimals are laid out: the exponents that are written positionally, and whether a whole
number keeps a point and a zero behind it. -/
structure DecimalLayout where
  leastPositional : Option Int
  greatestPositional : Option Int
  keepsPoint : Bool

namespace DecimalLayout

/-- An exponent is written out in zeros rather than as a number. -/
def isPositional (l : DecimalLayout) (e : Int) : Bool :=
  (match l.leastPositional with | some least => decide (least ≤ e) | none => true) &&
  (match l.greatestPositional with | some greatest => decide (e ≤ greatest) | none => true)

end DecimalLayout

namespace Decimal

/-- Digits as characters. -/
def digitChars (digits : List Nat) : List Char :=
  digits.map fun d => Char.ofNat ('0'.toNat + d)

/-- Digits written out with all zeros between them and the point. -/
def positional (d : Decimal) (keepsPoint : Bool) : String :=
  let written := digitChars d.digits
  if d.exponent < 0 then
    String.ofList (['0', '.'] ++ List.replicate (-d.exponent - 1).toNat '0' ++ written)
  else
    let whole := d.exponent.toNat + 1
    let front := written.take whole ++ List.replicate (whole - written.length) '0'
    let back := written.drop whole
    let tail := if back.isEmpty then (if keepsPoint then ['.', '0'] else []) else '.' :: back
    String.ofList (front ++ tail)

/-- Digits with a point behind the first and the exponent as a number. -/
def scientific (d : Decimal) : String :=
  let written := digitChars d.digits
  let back := written.drop 1
  let mantissa := written.take 1 ++ (if back.isEmpty then [] else '.' :: back)
  s!"{String.ofList mantissa}e{d.exponent}"

/-- The text of a decimal in a layout. -/
def text (d : Decimal) (l : DecimalLayout) : String :=
  if l.isPositional d.exponent then d.positional l.keepsPoint else d.scientific

end Decimal

end LoadGenerator
