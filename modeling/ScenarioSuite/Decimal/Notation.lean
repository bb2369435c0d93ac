import ScenarioSuite.Decimal.Shortest

/-!
# Writing decimals

## Main definitions

* `Decimal.positional`: all digits written out, with at least one behind the point.
* `Decimal.scientific`: one digit, a point if more follow, and a signed power of ten.
* `write`: positional for the exponents of a range, scientific outside.
-/

namespace ScenarioSuite.Decimal

/-- The digits of the units. -/
def digits (d : Decimal) : List Char :=
  Nat.toDigits 10 d.units

/-- The power of ten of the first digit. -/
def leadingExponent (d : Decimal) : Int :=
  d.exponent + d.digits.length - 1

/-- All digits written out, with at least one behind the point. -/
def positional (d : Decimal) : List Char :=
  let digits := d.digits
  let point := d.leadingExponent + 1
  if point ≤ 0 then
    ['0', '.'] ++ List.replicate (-point).toNat '0' ++ digits
  else
    let whole := digits.take point.toNat
    let fraction := digits.drop point.toNat
    whole ++ List.replicate (point.toNat - whole.length) '0' ++
      '.' :: (if fraction.isEmpty then ['0'] else fraction)

/-- One digit before the point and a signed power of ten. -/
def scientific (d : Decimal) : List Char :=
  let exponent := d.leadingExponent
  let mantissa := match d.digits with
    | [] => []
    | [digit] => [digit]
    | digit :: rest => digit :: '.' :: rest
  mantissa ++ 'e' :: (if exponent < 0 then '-' else '+') :: Nat.toDigits 10 exponent.natAbs

/-- Which exponents of the first digit are written positionally. -/
structure Range where
  least : Int
  greatest : Int

/-- The text of a finite number, positional within the range. -/
def write (range : Option Range) (x : Float) : String :=
  let d := shortest (.ofFloat x)
  let positional := match range with
    | none => true
    | some r => r.least ≤ d.leadingExponent ∧ d.leadingExponent ≤ r.greatest
  let magnitude := if positional then d.positional else d.scientific
  String.ofList (if isNegative x then '-' :: magnitude else magnitude)

end ScenarioSuite.Decimal
