import CodeReview.Number.Binary

/-!
# Shortest decimals

A number of a binary format is written with the fewest decimal digits that read back as it; of
several such decimals the nearest one is taken.
-/

set_option autoImplicit false

namespace CodeReview.Number

/-- The decimal `digits · 10 ^ exponent`. -/
structure Decimal where
  digits : Nat
  exponent : Int
deriving DecidableEq, Repr

namespace Decimal

/-- The number that a decimal stands for. -/
def value (d : Decimal) : Rat := (d.digits : Rat) * (10 : Rat) ^ d.exponent

/-- The number of digits of a decimal. -/
def length (d : Decimal) : Nat := (toString d.digits).length

/-- Moves zeros at the end of the digits into the exponent. -/
def dropZeros : Nat → Decimal → Decimal
  | 0, d => d
  | fuel + 1, d =>
    if d.digits ≠ 0 ∧ d.digits % 10 = 0 then dropZeros fuel ⟨d.digits / 10, d.exponent + 1⟩ else d

end Decimal

/-- What to do with two decimals that are equally near. -/
inductive Tie
  | upward
  | toEven
deriving DecidableEq, Repr

/-- The exponent of the largest power of ten that is not above a positive number. -/
def log10 (x : Rat) : Int :=
  let e : Int := ((toString x.num.natAbs).length : Int) - ((toString x.den).length : Int)
  if (10 : Rat) ^ e ≤ x then e else e - 1

/-- Whether a magnitude is within an interval. -/
def within (bounds : Rat × Rat × Bool) (y : Rat) : Bool :=
  (bounds.1 < y && y < bounds.2.1) || (bounds.2.2 && (y == bounds.1 || y == bounds.2.1))

/-- The better of the two decimals around a number that have the given exponent, if one of them is
within the bounds. -/
def neighbour? (tie : Tie) (bounds : Rat × Rat × Bool) (x : Rat) (exponent : Int) :
    Option Decimal :=
  let n := (x / (10 : Rat) ^ exponent).floor.toNat
  let low : Decimal := ⟨n, exponent⟩
  let high : Decimal := ⟨n + 1, exponent⟩
  match within bounds low.value, within bounds high.value with
  | false, false => none
  | true, false => some low
  | false, true => some high
  | true, true =>
    if x - low.value < high.value - x then some low
    else if high.value - x < x - low.value then some high
    else if tie = .toEven ∧ n % 2 = 0 then some low
    else some high

/-- The shortest decimal that reads back as a positive number of a format. -/
def shortest (f : Format) (tie : Tie) (x : Rat) : Decimal :=
  let top := log10 x
  let found := (List.range f.digits).findSome? fun (n : Nat) =>
    neighbour? tie (f.interval x) x (top - n)
  Decimal.dropZeros f.digits (found.getD ⟨0, 0⟩)

end CodeReview.Number
