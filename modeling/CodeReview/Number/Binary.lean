/-!
# Binary formats

The finite numbers of a binary format are the multiples of a power of two with a limited number of
binary digits. A magnitude is rounded to the nearest of them, and a tie goes to the even neighbour.
-/

set_option autoImplicit false

namespace CodeReview.Number

/-- A binary format: the number of digits, and the exponents of the smallest and of the largest
unit that a number is a multiple of. -/
structure Format where
  digits : Nat
  least : Int
  greatest : Int
deriving DecidableEq, Repr

/-- The format of 32 binary digits. -/
def single : Format := ⟨24, -149, 104⟩

/-- The format of 64 binary digits. -/
def double : Format := ⟨53, -1074, 971⟩

/-- The exponent of the largest power of two that is not above a positive number. -/
def log2 (x : Rat) : Int :=
  let e : Int := (x.num.natAbs.log2 : Int) - (x.den.log2 : Int)
  if (2 : Rat) ^ e ≤ x then e else e - 1

/-- The nearest integer; of two the even one. -/
def roundEven (x : Rat) : Int :=
  let n := x.floor
  let r := x - n
  if r < 1 / 2 then n
  else if 1 / 2 < r then n + 1
  else if n % 2 = 0 then n
  else n + 1

namespace Format

/-- The exponent of the unit around a positive number. -/
def unitExponent (f : Format) (x : Rat) : Int := max f.least (log2 x - ((f.digits : Int) - 1))

/-- The nearest number of the format for a magnitude, unless that is too large for it. -/
def round? (f : Format) (x : Rat) : Option Rat :=
  if x = 0 then some 0
  else
    let unit := (2 : Rat) ^ f.unitExponent x
    let y := (roundEven (x / unit) : Rat) * unit
    if y < (2 : Rat) ^ ((f.digits : Int) + f.greatest) then some y else none

/-- The magnitudes that are rounded to a positive number of the format: their least and their
greatest value, and whether these two are among them. Just above a power of two the numbers are
twice as far apart as below it. -/
def interval (f : Format) (x : Rat) : Rat × Rat × Bool :=
  let e := f.unitExponent x
  let unit := (2 : Rat) ^ e
  let below := if x = (2 : Rat) ^ log2 x ∧ f.least < e then unit / 4 else unit / 2
  (x - below, x + unit / 2, (x / unit).num % 2 = 0)

end Format

end CodeReview.Number
