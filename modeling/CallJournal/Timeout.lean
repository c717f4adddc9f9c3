import CallJournal.Text.Cut
import CallJournal.Time.Duration

/-! A timeout is at most eight digits and the letter of a unit. -/

namespace CallJournal.Timeout

/-- Units from the finest to the coarsest: hours are whole minutes in sixties, minutes whole
seconds in sixties. -/
inductive Unit where
  | nanosecond
  | microsecond
  | millisecond
  | second
  | minute
  | hour
  deriving DecidableEq, Repr

/-- What stops the reading of a timeout before it is known whether the text is one. -/
inductive Fault where
  /-- The place in front of the last octet is inside a character. -/
  | brokenCut
  /-- A product does not fit 64 bits. -/
  | overflow
  deriving DecidableEq, Repr

/-- A product of two numbers of 64 bits. -/
def product (left right : Nat) : Except Fault Nat :=
  if left * right < 0x10000000000000000 then .ok (left * right) else .error .overflow

namespace Unit

def letter : Unit → Char
  | nanosecond => 'n'
  | microsecond => 'u'
  | millisecond => 'm'
  | second => 'S'
  | minute => 'M'
  | hour => 'H'

def nanos : Unit → Nat
  | nanosecond => 1
  | microsecond => 1000
  | millisecond => 1000000
  | second => 1000000000
  | minute => 60000000000
  | hour => 3600000000000

def all : List Unit := [nanosecond, microsecond, millisecond, second, minute, hour]

/-- The unit of a letter; letter case matters. -/
def ofLetter? (letter : Char) : Option Unit := all.find? fun unit => unit.letter == letter

def ofText? : List Char → Option Unit
  | [letter] => ofLetter? letter
  | _ => none

/-- How long a number of units is; minutes and hours are counted in seconds first. -/
def times (unit : Unit) (amount : Nat) : Except Fault Duration :=
  match unit with
  | nanosecond => .ok ⟨amount⟩
  | microsecond => .ok ⟨amount * 1000⟩
  | millisecond => .ok ⟨amount * 1000000⟩
  | second => .ok (.ofSeconds amount)
  | minute => (product amount 60).map .ofSeconds
  | hour => ((product amount 60).bind fun minutes => product minutes 60).map .ofSeconds

end Unit

def largest : Nat := 99999999

/-- Puts decimal digits behind a number, as long as it fits 64 bits. -/
def extended? (number : Nat) : List Char → Option Nat
  | [] => some number
  | digit :: rest =>
    let longer := 10 * number + (digit.toNat - '0'.toNat)
    if digit.isDigit && longer < 0x10000000000000000 then extended? longer rest else none

/-- What stands behind a plus sign, if the text begins with one. -/
def unsigned : List Char → List Char
  | '+' :: rest => rest
  | text => text

/-- A number of 64 bits in decimal digits; a plus sign may stand before them. -/
def number? (text : List Char) : Option Nat :=
  if (unsigned text).isEmpty then none else extended? 0 (unsigned text)

/-- The duration that a number of at most eight digits and the letter of a unit make. -/
def ofParts (digits letter : List Char) : Except Fault (Option Duration) :=
  if 8 < Text.octetCount digits || !digits.all Char.isDigit then .ok none
  else match number? digits, Unit.ofText? letter with
    | some amount, some unit => (unit.times amount).map some
    | _, _ => .ok none

/-- Reads a timeout: ASCII text of two octets or more is cut in front of the last one. -/
def attempt (text : String) : Except Fault (Option Duration) :=
  let chars := text.toList
  let size := Text.octetCount chars
  if size < 2 || !chars.all (·.toNat < 128) then .ok none
  else match Text.cutAt? (size - 1) chars with
    | none => .error .brokenCut
    | some (digits, letter) => ofParts digits letter

/-- The duration that a timeout text stands for. -/
def read? (text : String) : Option Duration :=
  match attempt text with
  | .ok found => found
  | .error _ => none

/-- The finest unit in which a duration, cut to whole units, has at most eight digits. -/
def unitOf? (duration : Duration) : Option Unit :=
  Unit.all.find? fun unit => duration.nanos / unit.nanos ≤ largest

/-- The text of a duration, cut to whole units; nothing from 10^8 hours on. -/
def write? (duration : Duration) : Option String :=
  (unitOf? duration).map fun unit =>
    String.ofList (Nat.toDigits 10 (duration.nanos / unit.nanos) ++ [unit.letter])

/-- Digits make a number below the power of ten with as many zeros. -/
theorem ofDigitChars_lt {digits : List Char} (decimal : digits.all Char.isDigit = true)
    (first : Nat) :
    Nat.ofDigitChars 10 digits first < (first + 1) * Nat.pow 10 digits.length := by
  induction digits generalizing first with
  | nil => simp [Nat.ofDigitChars_nil]
  | cons digit rest ih =>
    obtain ⟨head, tail⟩ := Bool.and_eq_true_iff.mp (List.all_cons ▸ decimal)
    have small : digit.toNat - '0'.toNat < 10 := by
      have bounds := Char.isDigit_iff_toNat.mp head
      exact Nat.lt_succ_of_le (Nat.sub_le_sub_right bounds.2 _)
    calc Nat.ofDigitChars 10 (digit :: rest) first
      _ = Nat.ofDigitChars 10 rest (10 * first + (digit.toNat - '0'.toNat)) :=
        Nat.ofDigitChars_cons
      _ < (10 * first + (digit.toNat - '0'.toNat) + 1) * Nat.pow 10 rest.length := ih tail _
      _ ≤ (first + 1) * 10 * Nat.pow 10 rest.length := Nat.mul_le_mul_right _ (by omega)
      _ = (first + 1) * Nat.pow 10 (digit :: rest).length := by
        rw [Nat.mul_assoc, Nat.mul_comm 10]
        rfl

theorem le_ofDigitChars (digits : List Char) (first : Nat) :
    first ≤ Nat.ofDigitChars 10 digits first := by
  induction digits generalizing first with
  | nil => simp [Nat.ofDigitChars_nil]
  | cons digit rest ih =>
    rw [Nat.ofDigitChars_cons]
    have later := ih (10 * first + (digit.toNat - '0'.toNat))
    omega

/-- Digits are all put behind a number if the whole of them fits 64 bits. -/
theorem extended?_of_lt {digits : List Char} (decimal : digits.all Char.isDigit = true)
    {first : Nat} (fits : Nat.ofDigitChars 10 digits first < 0x10000000000000000) :
    extended? first digits = some (Nat.ofDigitChars 10 digits first) := by
  induction digits generalizing first with
  | nil => simp [extended?, Nat.ofDigitChars_nil]
  | cons digit rest ih =>
    obtain ⟨head, tail⟩ := Bool.and_eq_true_iff.mp (List.all_cons ▸ decimal)
    rw [Nat.ofDigitChars_cons] at fits ⊢
    have grows := le_ofDigitChars rest (10 * first + (digit.toNat - '0'.toNat))
    have small : 10 * first + (digit.toNat - '0'.toNat) < 0x10000000000000000 :=
      Nat.lt_of_le_of_lt grows fits
    rw [extended?, head, decide_eq_true small]
    exact ih tail fits

end CallJournal.Timeout
