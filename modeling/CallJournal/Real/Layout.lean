import CallJournal.Real.Shortest

namespace CallJournal.Real

structure Layout where
  /-- Positional notation needs a decimal point to the right of this place. -/
  leftmost : Int
  /-- Positional notation needs a decimal point at this place or to the left of it. -/
  rightmost : Int
  /-- Whether a positive exponent is written with a sign. -/
  signed : Bool
  /-- Which of two equally short and equally near decimals is written. -/
  tie : Tie

/-- Numbers inside JSON text: positional from 0.00001 to below 10^16. -/
def Layout.json : Layout := ⟨-5, 16, true, .even⟩

/-- Numbers beside a field's name on a plain line: positional from 0.0001 to below 10^16. -/
def Layout.plain : Layout := ⟨-4, 16, false, .away⟩

def exponentText (signed : Bool) (exponent : Int) : List Char :=
  if exponent < 0 then '-' :: Nat.toDigits 10 exponent.natAbs
  else if signed then '+' :: Nat.toDigits 10 exponent.natAbs
  else Nat.toDigits 10 exponent.natAbs

def Layout.positive (layout : Layout) (decimal : Decimal) : List Char :=
  let digits := Nat.toDigits 10 decimal.digits
  let place : Int := digits.length + decimal.exponent
  if layout.leftmost < place ∧ place ≤ layout.rightmost then
    if 0 ≤ decimal.exponent then
      digits ++ List.replicate decimal.exponent.toNat '0' ++ ['.', '0']
    else if 0 < place then digits.take place.toNat ++ '.' :: digits.drop place.toNat
    else ['0', '.'] ++ List.replicate (-place).toNat '0' ++ digits
  else
    let front := match digits with
      | [] => []
      | [only] => [only]
      | first :: others => first :: '.' :: others
    front ++ 'e' :: exponentText layout.signed (place - 1)

def Layout.finite (layout : Layout) (value : Double) : List Char :=
  let unsigned :=
    if value.isZero then ['0', '.', '0'] else layout.positive (value.shortest layout.tie)
  if value.isNegative then '-' :: unsigned else unsigned

def Layout.write (layout : Layout) (value : Double) : String :=
  if value.isFinite then String.ofList (layout.finite value)
  else if value.isNaN then "NaN"
  else if value.isNegative then "-inf"
  else "inf"

end CallJournal.Real
