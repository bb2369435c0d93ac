/-!
# Shortest decimals

A binary floating-point number stands for an interval of reals, those that round to it. Its
shortest decimal is the one with the fewest digits in that interval and, among those, the one
nearest to the number. Everything is computed on natural numbers.

## Main definitions

* `Binary`: a positive number `significand * 2 ^ exponent`, and `Binary.ofFloat?`.
* `Decimal`: a natural number of units of a power of ten.
* `shortest`: the shortest decimal of a binary number.
-/

namespace ScenarioSuite

/-- The number `units * 10 ^ exponent`. -/
structure Decimal where
  units : Nat
  exponent : Int
deriving Repr, DecidableEq

namespace Decimal

/-- The number `significand * 2 ^ exponent`. The flag tells that its lower neighbour is only half
as far away as the upper one. -/
structure Binary where
  significand : Nat
  exponent : Int
  narrowBelow : Bool
deriving Repr, DecidableEq

/-- The magnitude of a finite number in binary. -/
def Binary.ofFloat (x : Float) : Binary :=
  let bits := x.toBits.toNat
  let fraction : Nat := bits % Nat.pow 2 52
  let biased : Nat := bits / Nat.pow 2 52 % Nat.pow 2 11
  if biased = 0 then ⟨fraction, -1074, false⟩
  else ⟨Nat.pow 2 52 + fraction, (biased : Int) - 1075, fraction = 0 ∧ 1 < biased⟩

/-- Whether a number carries a minus sign; a zero can. -/
def isNegative (x : Float) : Bool :=
  Nat.pow 2 63 ≤ x.toBits.toNat

/-- The same number without zeros at the end of its units. -/
def stripZeros (fuel : Nat) (d : Decimal) : Decimal :=
  match fuel with
  | 0 => d
  | fuel + 1 =>
    if d.units ≠ 0 ∧ d.units % 10 = 0 then
      stripZeros fuel ⟨d.units / 10, d.exponent + 1⟩
    else d

/-- A number between a lower and an upper bound, all three over one denominator. -/
structure Interval where
  low : Nat
  value : Nat
  high : Nat
  denominator : Nat
  closed : Bool

/-- The reals that round to a binary number: half way to either neighbour, the ends included
when the significand is even. -/
def Binary.interval (b : Binary) : Interval :=
  let scale (n : Nat) : Nat := if 2 ≤ b.exponent then n * Nat.pow 2 (b.exponent - 2).toNat else n
  { low := scale (4 * b.significand - if b.narrowBelow then 1 else 2)
    value := scale (4 * b.significand)
    high := scale (4 * b.significand + 2)
    denominator := Nat.pow 2 (2 - b.exponent).toNat
    closed := b.significand % 2 = 0 }

/-- The number of digits before the point, or minus the number of zeros behind it. -/
def Interval.magnitude (i : Interval) : Int :=
  if i.denominator ≤ i.value then (Nat.toDigits 10 (i.value / i.denominator)).length
  else leadingZeros 400 i.value
where
  leadingZeros (fuel value : Nat) : Int :=
    match fuel with
    | 0 => 0
    | fuel + 1 => if i.denominator ≤ 10 * value then 0 else leadingZeros fuel (10 * value) - 1

/-- The multiple of `10 ^ exponent` that is nearest to the value and inside the interval; of two
that are equally near the even one. -/
def Interval.nearest? (i : Interval) (exponent : Int) : Option Decimal :=
  let grow := Nat.pow 10 (-exponent).toNat
  let step := i.denominator * Nat.pow 10 exponent.toNat
  let value := i.value * grow
  let inside (units : Nat) : Bool :=
    let point := units * step
    if i.closed then i.low * grow ≤ point && point ≤ i.high * grow
    else i.low * grow < point && point < i.high * grow
  let below := value / step
  let above := below + 1
  let toBelow := value - below * step
  let toAbove := above * step - value
  if inside below && (!inside above || toBelow < toAbove || (toBelow == toAbove && below % 2 == 0))
  then some ⟨below, exponent⟩
  else if inside above then some ⟨above, exponent⟩
  else none

/-- The shortest decimal of a number: grids of more and more digits are tried until one has a
point in the interval, and 17 digits always do. -/
def shortest (b : Binary) : Decimal :=
  if b.significand = 0 then ⟨0, 0⟩
  else
    let i := b.interval
    let magnitude := i.magnitude
    let found := (List.range 17).findSome? fun n => i.nearest? (magnitude - (n + 1 : Nat))
    (found.getD ⟨i.value / i.denominator, 0⟩).stripZeros 20

end Decimal

end ScenarioSuite
