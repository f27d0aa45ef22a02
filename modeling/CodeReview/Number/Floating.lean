import CodeReview.Number.Shortest

/-!
# Floating point numbers

A floating point number is finite, infinite or no number at all. `round` brings it into a binary
format, `text` and `numeral?` write a number of a format with the fewest digits that tell it from
all others.
-/

set_option autoImplicit false

namespace CodeReview.Number

/-- A floating point number; a finite one has a sign and a magnitude. -/
inductive Floating
  | nan
  | infinite (negative : Bool)
  | finite (negative : Bool) (magnitude : Rat)
deriving DecidableEq, Repr

namespace Floating

/-- The nearest number of a format. -/
def round (f : Format) : Floating → Floating
  | finite negative x =>
    match f.round? x with
    | some y => finite negative y
    | none => infinite negative
  | x => x

/-- An integer. -/
def ofInt (n : Int) : Floating := finite (decide (n < 0)) (n.natAbs : Rat)

/-- A decimal; one of more than four hundred digits before or after the point counts as if it had
as many. -/
def ofDecimal (negative : Bool) (d : Decimal) : Floating :=
  finite negative <|
    if d.digits = 0 then 0
    else if 400 < d.exponent + d.length then (10 : Rat) ^ (400 : Int)
    else if d.exponent + d.length < -400 then (10 : Rat) ^ (-400 : Int)
    else d.value

/-- Whether a number lies between two natural numbers or is one of them. -/
def isBetween (low high : Nat) : Floating → Bool
  | finite negative x =>
    if negative && x ≠ 0 then false else decide ((low : Rat) ≤ x ∧ x ≤ (high : Rat))
  | _ => false

/-! ## Texts -/

/-- Some zeros. -/
def zeros (n : Nat) : String := String.ofList (List.replicate n '0')

/-- The minus of a negative number. -/
def minus (negative : Bool) : String := if negative then "-" else ""

/-- A decimal in positional notation, without a point if it is whole. -/
def positional (d : Decimal) : String :=
  let digits := toString d.digits
  let point := (digits.length : Int) + d.exponent
  if 0 ≤ d.exponent then digits ++ zeros d.exponent.toNat
  else if point ≤ 0 then "0." ++ zeros (-point).toNat ++ digits
  else String.ofList (digits.toList.take point.toNat) ++ "." ++
    String.ofList (digits.toList.drop point.toNat)

/-- The text of a number of a format: the fewest digits, and no exponent. -/
def text (f : Format) : Floating → String
  | nan => "NaN"
  | infinite negative => minus negative ++ "inf"
  | finite negative x =>
    minus negative ++ if x = 0 then "0" else positional (shortest f .upward x)

/-- A decimal as a digit, a point with the other digits if there are any, and an exponent. -/
def scientific (d : Decimal) : String :=
  let digits := (toString d.digits).toList
  let exponent := d.exponent + (digits.length : Int) - 1
  let fraction := if digits.length ≤ 1 then "" else "." ++ String.ofList digits.tail
  String.ofList (digits.take 1) ++ fraction ++ "e" ++ toString exponent

/-- The numeral of a number of a format: always with a point or an exponent, the latter for numbers
of more than thirteen digits before the point or more than five zeros after it. A value that is not
finite has none. -/
def numeral? (f : Format) : Floating → Option String
  | finite negative x =>
    if x = 0 then some (minus negative ++ "0.0")
    else
      let d := shortest f .toEven x
      let point := (d.length : Int) + d.exponent
      let body :=
        if point ≤ -6 ∨ 13 < point then scientific d
        else if 0 ≤ d.exponent then positional d ++ ".0"
        else positional d
      some (minus negative ++ body)
  | _ => none

end Floating

end CodeReview.Number
