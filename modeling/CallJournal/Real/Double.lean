/-! Binary64 values as bit patterns. Everything that rounds does so through `roundHalfEven`. -/

namespace CallJournal.Real

/-- The nearest natural number to a quotient; of two equally near ones the even one. -/
def roundHalfEven (numerator denominator : Nat) : Nat :=
  let whole := numerator / denominator
  let rest := numerator % denominator
  if denominator < 2 * rest || (2 * rest == denominator && whole % 2 == 1) then whole + 1
  else whole

def roundHalfUp (numerator denominator : Nat) : Nat :=
  (2 * numerator + denominator) / (2 * denominator)

/-- A power of a number; a negative exponent counts as zero. -/
def raised (base : Nat) (exponent : Int) : Nat := base.pow exponent.toNat

/-- A binary64 value, by its bit pattern. -/
structure Double where
  bits : UInt64
  deriving DecidableEq, Repr

namespace Double

/-- The weight of the exponent field's lowest bit. -/
def exponentPlace : Nat := 0x10000000000000

/-- The weight of the sign bit. -/
def signPlace : Nat := 0x8000000000000000

/-- The largest exponent field marks what is no finite number. -/
def specialField : Nat := 2047

def exponentField (value : Double) : Nat := value.bits.toNat / exponentPlace % 0x800

def fractionField (value : Double) : Nat := value.bits.toNat % exponentPlace

def isNegative (value : Double) : Bool := value.bits.toNat / signPlace == 1

def isFinite (value : Double) : Bool := value.exponentField != specialField

def isNaN (value : Double) : Bool :=
  value.exponentField == specialField && value.fractionField != 0

/-- The magnitude is this significand times two to the power `binaryExponent`. -/
def significand (value : Double) : Nat :=
  if value.exponentField = 0 then value.fractionField else exponentPlace + value.fractionField

def binaryExponent (value : Double) : Int :=
  if value.exponentField = 0 then -1074 else (value.exponentField : Int) - 1075

def isZero (value : Double) : Bool := value.significand == 0

def magnitude (value : Double) : Nat × Nat :=
  (value.significand * raised 2 value.binaryExponent, raised 2 (-value.binaryExponent))

/-- The bit pattern of infinity, without its sign. -/
def infinityBits : Nat := specialField * exponentPlace

/-- The power of two just below a positive fraction, or equal to it. -/
def floorLog2 (numerator denominator : Nat) : Int :=
  let estimate : Int := (numerator.log2 : Int) - denominator.log2
  if numerator * raised 2 (-estimate) < denominator * raised 2 estimate then estimate - 1
  else estimate

/-- The bit pattern of the double nearest to a fraction, ties to even; infinity when too large. -/
def nearestBits (numerator denominator : Nat) : Nat :=
  if numerator = 0 then 0
  else
    let power := max (floorLog2 numerator denominator - 52) (-1074)
    let rounded := roundHalfEven (numerator * raised 2 (-power)) (denominator * raised 2 power)
    min infinityBits ((power + 1074).toNat * exponentPlace + rounded)

/-- The double nearest to a fraction with the given sign. -/
def ofFraction (negative : Bool) (numerator denominator : Nat) : Double :=
  ⟨UInt64.ofNat ((if negative then signPlace else 0) + nearestBits numerator denominator)⟩

def ofNat (value : Nat) : Double := ofFraction false value 1

def negate (value : Double) : Double :=
  ⟨UInt64.ofNat ((value.bits.toNat + signPlace) % (2 * signPlace))⟩

def mul (left right : Double) : Double :=
  ofFraction (left.isNegative != right.isNegative)
    (left.magnitude.1 * right.magnitude.1) (left.magnitude.2 * right.magnitude.2)

/-- The quotient of two finite doubles, rounded; the divisor is not zero. -/
def div (left right : Double) : Double :=
  ofFraction (left.isNegative != right.isNegative)
    (left.magnitude.1 * right.magnitude.2) (left.magnitude.2 * right.magnitude.1)

def powerOfTen (exponent : Nat) : Double := ofNat (raised 10 exponent)

/-- Division by a power of ten, in steps of the largest power of ten that is a double. -/
def shiftDown (value : Double) (exponent : Nat) : Double :=
  if exponent ≤ 308 then value.div (powerOfTen exponent)
  else if value.isZero then value
  else shiftDown (value.div (powerOfTen 308)) (exponent - 308)
  termination_by exponent

/-- A decimal is rounded first to a double and then once for each step of its exponent; nothing
when it is too large. -/
def ofDecimal? (significand : Nat) (exponent : Int) : Option Double :=
  let value := ofNat significand
  if exponent < 0 then some (value.shiftDown (-exponent).toNat)
  else if significand = 0 then some value
  else if 308 < exponent then none
  else
    let scaled := value.mul (powerOfTen exponent.toNat)
    if scaled.isFinite then some scaled else none

/-- The value of a double that is a whole number after rounding halves away from zero; negative
values, and those from 2^64 up, have none. -/
def toNat64? (value : Double) : Option Nat :=
  if !value.isFinite || (value.isNegative && !value.isZero) then none
  else
    let (numerator, denominator) := value.magnitude
    if numerator < 2 * signPlace * denominator then some (roundHalfUp numerator denominator)
    else none

def zero : Double := ⟨0⟩

end Double

end CallJournal.Real
