import CallJournal.Real.Double

/-! The shortest decimal that reads back as a given double: the coarsest grid with a point in the
interval that rounds to it. -/

namespace CallJournal.Real

/-- The number `digits` times ten to the power `exponent`. -/
structure Decimal where
  digits : Nat
  exponent : Int
  deriving DecidableEq, Repr

/-- Which of two equally near neighbours is taken. -/
inductive Tie where
  | even
  /-- The one that is farther from zero. -/
  | away
  deriving DecidableEq, Repr

/-- The reals that round to a double, in units of a quarter of its last binary place. -/
structure Interval where
  low : Nat
  value : Nat
  high : Nat
  /-- Ends belong to the interval exactly when the significand is even. -/
  closed : Bool
  /-- The unit is two to this power. -/
  power : Int

def Double.interval (value : Double) : Interval :=
  let significand := value.significand
  let halfStep := significand == exponentPlace && 1 < value.exponentField
  { low := 4 * significand - (if halfStep then 1 else 2)
    value := 4 * significand
    high := 4 * significand + 2
    closed := significand % 2 == 0
    power := value.binaryExponent - 2 }

/-- Whether a point of the grid of step ten to the power `exponent` rounds to the double. -/
def Interval.holds (interval : Interval) (point : Decimal) : Bool :=
  let scale := raised 2 (-interval.power) * raised 10 point.exponent
  let unit := raised 2 interval.power * raised 10 (-point.exponent)
  let position := point.digits * scale
  if interval.closed then interval.low * unit ≤ position && position ≤ interval.high * unit
  else interval.low * unit < position && position < interval.high * unit

/-- The grid's two neighbours of the double; the first one is not above it. -/
def Interval.neighbours (interval : Interval) (exponent : Int) : Decimal × Decimal :=
  let scale := raised 2 (-interval.power) * raised 10 exponent
  let unit := raised 2 interval.power * raised 10 (-exponent)
  let below := interval.value * unit / scale
  (⟨below, exponent⟩, ⟨below + 1, exponent⟩)

def Interval.nearer (interval : Interval) (tie : Tie) (below above : Decimal) : Decimal :=
  let scale := raised 2 (-interval.power) * raised 10 below.exponent
  let unit := raised 2 interval.power * raised 10 (-below.exponent)
  let position := 2 * interval.value * unit
  let middle := (below.digits + above.digits) * scale
  if position < middle then below
  else if middle < position then above
  else if tie = .even ∧ below.digits % 2 = 0 then below
  else above

/-- The point of one grid that stands for the double, if the grid has one. -/
def Interval.point? (interval : Interval) (tie : Tie) (exponent : Int) : Option Decimal :=
  let (below, above) := interval.neighbours exponent
  match interval.holds below && below.digits != 0, interval.holds above with
  | true, true => some (interval.nearer tie below above)
  | true, false => some below
  | false, true => some above
  | false, false => none

/-- Refines the grid until it has a point; seventeen digits always suffice. -/
def Interval.refine (interval : Interval) (tie : Tie) : Nat → Int → Decimal
  | 0, exponent => (interval.neighbours exponent).1
  | steps + 1, exponent =>
    match interval.point? tie exponent with
    | some point => point
    | none => interval.refine tie steps (exponent - 1)

/-- A power of ten above the double: a binary place is less than 0.30103 decimal places. -/
def Double.coarsest (value : Double) : Int :=
  ((value.significand.log2 : Int) + value.binaryExponent + 1) * 30103 / 100000 + 1

/-- The shortest decimal that rounds to a positive finite double. -/
def Double.shortest (value : Double) (tie : Tie) : Decimal :=
  value.interval.refine tie 20 value.coarsest

end CallJournal.Real
