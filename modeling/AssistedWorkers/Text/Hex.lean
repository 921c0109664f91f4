/-!
# Hexadecimal digits

Escapes write a code point with four hexadecimal digits in lower case and are read back with
digits of either case.

* `value?_digit` — a written digit reads back.
-/

namespace AssistedWorkers.Text.Hex

/-- The digit for a number below sixteen, in lower case. -/
def digit (n : Nat) : Char :=
  Nat.digitChar n

/-- The number a digit stands for. -/
def value? (c : Char) : Option Nat :=
  if '0' ≤ c ∧ c ≤ '9' then some (c.toNat - '0'.toNat)
  else if 'a' ≤ c ∧ c ≤ 'f' then some (c.toNat - 'a'.toNat + 10)
  else if 'A' ≤ c ∧ c ≤ 'F' then some (c.toNat - 'A'.toNat + 10)
  else none

/-- The last four digits of a number. -/
def fourDigits (n : Nat) : List Char :=
  [digit (n / 4096 % 16), digit (n / 256 % 16), digit (n / 16 % 16), digit (n % 16)]

/-- The number that four digits stand for. -/
def ofFour? (a b c d : Char) : Option Nat := do
  let a ← value? a
  let b ← value? b
  let c ← value? c
  let d ← value? d
  return ((a * 16 + b) * 16 + c) * 16 + d

/-- A written digit reads back. -/
theorem value?_digit {n : Nat} (h : n < 16) : value? (digit n) = some n := by
  revert n; decide

/-- Four written digits read back as the number below 65536 that they show. -/
theorem ofFour?_fourDigits {n : Nat} (h : n < 65536) :
    ofFour? (digit (n / 4096 % 16)) (digit (n / 256 % 16)) (digit (n / 16 % 16))
      (digit (n % 16)) = some n := by
  have lt (k : Nat) : k % 16 < 16 := Nat.mod_lt _ (by decide)
  simp only [ofFour?, value?_digit (lt _), Option.bind_eq_bind, Option.bind_some,
    Option.pure_def, Option.some.injEq]
  omega

end AssistedWorkers.Text.Hex
