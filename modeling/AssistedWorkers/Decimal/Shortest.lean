import AssistedWorkers.Decimal.Binary64

/-!
# The shortest decimal of a floating point number

Of all decimals that are rounded to a given number, the shortest ones have the fewest digits, and
of those the nearest to the number is taken.  The search goes through the grids of one, two and
up to seventeen digits and looks at the two points of each grid around the number.

A decimal is written positionally when its first digit stands for a power of ten between
10^-5 and 10^15, and with an exponent otherwise.
-/

namespace AssistedWorkers.Decimal

/-- The decimal `coefficient * 10 ^ exponent`. -/
structure Numeral where
  coefficient : Nat
  exponent : Int
deriving DecidableEq, Repr

/-- How many decimal digits a number has; zero has none. -/
def digitCount (n : Nat) : Nat :=
  if n = 0 then 0 else (Nat.toDigits 10 n).length

namespace Binary64

/-- Whether a decimal lies among the reals that are rounded to the number: at most half a unit
away, a quarter below a power of two, with the ends included when the significand is even. -/
def absorbs (x : Binary64) (d : Numeral) : Bool :=
  let narrow := x.significand = twoTo 52 ∧ x.exponent > leastExponent
  let low := 4 * x.significand - (if narrow then 1 else 2)
  let high := 4 * x.significand + 2
  -- both sides over a common denominator
  let point := 4 * (d.coefficient * tenTo d.exponent.toNat * twoTo (-x.exponent).toNat)
  let unit := tenTo (-d.exponent).toNat * twoTo x.exponent.toNat
  if x.significand % 2 = 0 then low * unit ≤ point ∧ point ≤ high * unit
  else low * unit < point ∧ point < high * unit

/-- The power of ten of the first digit of a positive number. -/
def leadingPower (x : Binary64) : Int :=
  if x.denominator ≤ x.numerator then (digitCount (x.numerator / x.denominator) : Int) - 1
  else -(digitCount ((x.denominator - 1) / x.numerator) : Int)

/-- The better of the two points around a positive number on the grid of decimals with `digits`
digits, if one of them is rounded to the number. -/
def onGrid? (x : Binary64) (digits : Nat) : Option Numeral :=
  let exponent := x.leadingPower - digits + 1
  let numerator := x.numerator * tenTo (-exponent).toNat
  let denominator := x.denominator * tenTo exponent.toNat
  let below : Numeral := ⟨numerator / denominator, exponent⟩
  let above : Numeral := ⟨numerator / denominator + 1, exponent⟩
  match x.absorbs below, x.absorbs above with
  | false, false => none
  | true, false => some below
  | false, true => some above
  | true, true => some ⟨roundHalfEven numerator denominator, exponent⟩

/-- The shortest decimal that is rounded to a positive number. -/
def shortest (x : Binary64) : Numeral :=
  ((List.range 17).findSome? fun n => x.onGrid? (n + 1)).getD ⟨0, 0⟩

/-- The number as text: positional, with at least one digit after the point, or one digit before
the point and a signed exponent. -/
def toText (x : Binary64) : String :=
  if x.significand = 0 then "0.0"
  else
    let d := x.shortest
    let all := Nat.toDigits 10 d.coefficient
    let digits := (all.reverse.dropWhile (· == '0')).reverse
    let power : Int := d.exponent + all.length - 1
    let zeros (n : Nat) : List Char := List.replicate n '0'
    if 0 ≤ power ∧ power ≤ 15 then
      let whole := power.toNat + 1
      let fraction := digits.drop whole
      String.ofList (digits.take whole ++ zeros (whole - digits.length) ++
        '.' :: if fraction.isEmpty then ['0'] else fraction)
    else if -5 ≤ power ∧ power < 0 then
      String.ofList ('0' :: '.' :: (zeros ((-power).toNat - 1) ++ digits))
    else
      let sign := if power < 0 then "e-" else "e+"
      let fraction := digits.drop 1
      String.ofList (digits.take 1 ++ if fraction.isEmpty then [] else '.' :: fraction) ++ sign ++
        toString power.natAbs

end Binary64

end AssistedWorkers.Decimal
