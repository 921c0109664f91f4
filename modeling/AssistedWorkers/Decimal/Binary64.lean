/-!
# Binary floating point numbers

The non-negative finite numbers of a binary format with a significand of 53 bits, as a natural
significand and a power of two, and their arithmetic with exact natural numbers: an operation
takes the exact quotient and rounds it to the nearest number, a tie going to the even
significand.  Numbers below 2^-1074 become zero and numbers from 2^1024 up are out of range.
-/

namespace AssistedWorkers.Decimal

/-- The natural number nearest to a quotient; of two equally near ones the even one. -/
def roundHalfEven (numerator denominator : Nat) : Nat :=
  let quotient := numerator / denominator
  let twice := 2 * (numerator % denominator)
  if twice < denominator then quotient
  else if twice > denominator then quotient + 1
  else if quotient % 2 = 0 then quotient else quotient + 1

/-- A power of two. -/
def twoTo (n : Nat) : Nat :=
  Nat.pow 2 n

/-- A power of ten. -/
def tenTo (n : Nat) : Nat :=
  Nat.pow 10 n

/-- The number `significand * 2 ^ exponent`. -/
structure Binary64 where
  significand : Nat
  exponent : Int
deriving DecidableEq, Repr

namespace Binary64

/-- The exponent of the smallest numbers. -/
def leastExponent : Int := -1074

/-- The exponent of the largest numbers. -/
def greatestExponent : Int := 971

/-- The numerator of the number as a quotient of natural numbers. -/
def numerator (x : Binary64) : Nat :=
  x.significand * twoTo x.exponent.toNat

/-- The denominator of the number as a quotient of natural numbers. -/
def denominator (x : Binary64) : Nat :=
  twoTo (-x.exponent).toNat

/-- The exponent with which a positive quotient has a significand of 53 bits, or the least
exponent if that is greater. -/
def exponentOf (numerator denominator : Nat) : Int :=
  let e : Int := (numerator.log2 : Int) - denominator.log2 - 53
  let wide := numerator * twoTo (-e).toNat / (denominator * twoTo e.toNat)
  max leastExponent (if wide < twoTo 53 then e else e + 1)

/-- The number nearest to a quotient, unless the quotient is out of range. -/
def ofQuotient? (numerator denominator : Nat) : Option Binary64 :=
  if numerator = 0 then some ⟨0, leastExponent⟩
  else
    let e := exponentOf numerator denominator
    let significand :=
      roundHalfEven (numerator * twoTo (-e).toNat) (denominator * twoTo e.toNat)
    let rounded : Binary64 :=
      if significand = twoTo 53 then ⟨twoTo 52, e + 1⟩ else ⟨significand, e⟩
    if rounded.exponent > greatestExponent then none else some rounded

/-- The rounded product of two numbers. -/
def mul? (x y : Binary64) : Option Binary64 :=
  ofQuotient? (x.numerator * y.numerator) (x.denominator * y.denominator)

/-- The rounded quotient of two numbers, the second one positive. -/
def div? (x y : Binary64) : Option Binary64 :=
  ofQuotient? (x.numerator * y.denominator) (x.denominator * y.numerator)

/-- The greatest power of ten in range. -/
def greatestPower : Nat := 308

/-- The number nearest to a power of ten. -/
def powerOfTen? (n : Nat) : Option Binary64 :=
  ofQuotient? (tenTo n) 1

/-- A number times a power of ten, which is multiplied or divided by in steps of at most
`greatestPower`.  A positive number that needs more than one step up is out of range; one that
needs many steps down becomes zero after a few of them, so `rounds` need not be large. -/
def scale? : (rounds : Nat) → Binary64 → Int → Option Binary64
  | 0, x, _ => some x
  | rounds + 1, x, power =>
    if power.natAbs ≤ greatestPower then do
      let factor ← powerOfTen? power.natAbs
      if power < 0 then x.div? factor else x.mul? factor
    else if x.significand = 0 then some x
    else if power < 0 then do
      let factor ← powerOfTen? greatestPower
      let smaller ← x.div? factor
      scale? rounds smaller (power + greatestPower)
    else none

/-- The number that a decimal with the given significand is read as, unless it is out of range.
The significand is rounded first and scaled afterwards. -/
def ofDecimal? (significand : Nat) (power : Int) : Option Binary64 := do
  let x ← ofQuotient? significand 1
  scale? 4 x power

end Binary64

end AssistedWorkers.Decimal
