import CallJournal.Metadata

namespace CallJournal.Token

/-- Why a text is no base64; offsets count from zero. -/
inductive Base64Error where
  | symbol (code offset : Nat)
  | length (count : Nat)
  | lastSymbol (code offset : Nat)
  | padding
  deriving DecidableEq, Repr

def Base64Error.message : Base64Error → String
  | .symbol code offset =>
    "Invalid symbol " ++ Nat.repr code ++ ", offset " ++ Nat.repr offset ++ "."
  | .length count => "Invalid input length: " ++ Nat.repr count
  | .lastSymbol code offset =>
    "Invalid last symbol " ++ Nat.repr code ++ ", offset " ++ Nat.repr offset ++ "."
  | .padding => "Invalid padding"

namespace Base64Url

def symbol (value : Nat) : Char :=
  if value < 26 then Char.ofNat ('A'.toNat + value)
  else if value < 52 then Char.ofNat ('a'.toNat + (value - 26))
  else if value < 62 then Char.ofNat ('0'.toNat + (value - 52))
  else if value = 62 then '-'
  else '_'

def value? (char : Char) : Option Nat :=
  if 'A' ≤ char ∧ char ≤ 'Z' then some (char.toNat - 'A'.toNat)
  else if 'a' ≤ char ∧ char ≤ 'z' then some (char.toNat - 'a'.toNat + 26)
  else if '0' ≤ char ∧ char ≤ '9' then some (char.toNat - '0'.toNat + 52)
  else if char = '-' then some 62
  else if char = '_' then some 63
  else none

/-- Three octets become four symbols; one or two at the end become two or three. -/
def encode : Octets → List Char
  | [] => []
  | [a] => [symbol (a.toNat / 4), symbol (a.toNat % 4 * 16)]
  | [a, b] =>
    [symbol (a.toNat / 4), symbol (a.toNat % 4 * 16 + b.toNat / 16), symbol (b.toNat % 16 * 4)]
  | a :: b :: c :: rest =>
    symbol (a.toNat / 4) :: symbol (a.toNat % 4 * 16 + b.toNat / 16) ::
      symbol (b.toNat % 16 * 4 + c.toNat / 64) :: symbol (c.toNat % 64) :: encode rest

/-- The number of a symbol at an offset. -/
def valueAt (char : Char) (offset : Nat) : Except Base64Error Nat :=
  match value? char with
  | some value => .ok value
  | none => .error (.symbol char.toNat offset)

/-- The octets of two, three or four symbols. -/
def octetsOfTwo (a b : Nat) : Octets := [UInt8.ofNat (a * 4 + b / 16)]

def octetsOfThree (a b c : Nat) : Octets :=
  octetsOfTwo a b ++ [UInt8.ofNat (b % 16 * 16 + c / 4)]

def octetsOfFour (a b c d : Nat) : Octets :=
  octetsOfThree a b c ++ [UInt8.ofNat (c % 4 * 64 + d)]

/-- Padding may stand at the third and fourth place of a last group only, with nothing but padding
behind it. -/
def lastValues (offset place : Nat) : List Char → Except Base64Error (List Nat)
  | [] => .ok []
  | char :: rest =>
    if char = '=' then
      if place < 2 then .error (.symbol char.toNat (offset + place))
      else if rest.all (· == '=') then .ok []
      else .error (.symbol char.toNat (offset + place))
    else
      match valueAt char (offset + place) with
      | .error cause => .error cause
      | .ok value =>
        match lastValues offset (place + 1) rest with
        | .error cause => .error cause
        | .ok values => .ok (value :: values)

/-- The octets of a last group of one to four symbols. -/
def lastGroup (offset : Nat) (group : List Char) : Except Base64Error Octets :=
  match lastValues offset 0 group with
  | .error cause => .error cause
  | .ok values =>
    let spare (char : Char) : Base64Error := .lastSymbol char.toNat (offset + values.length - 1)
    let last := group.getD (values.length - 1) '='
    match values with
    | [] | [_] => .error (.length (offset + values.length))
    | [a, b] =>
      if values.length < group.length then .error .padding
      else if b % 16 = 0 then .ok (octetsOfTwo a b) else .error (spare last)
    | [a, b, c] =>
      if values.length < group.length then .error .padding
      else if c % 4 = 0 then .ok (octetsOfThree a b c) else .error (spare last)
    | a :: b :: c :: d :: _ => .ok (octetsOfFour a b c d)

/-- Reads groups from an offset on; the last group is the one with at most four symbols left. -/
def groups (offset : Nat) : List Char → Except Base64Error Octets
  | [] => .ok []
  | a :: b :: c :: d :: next :: rest => do
    let a ← valueAt a offset
    let b ← valueAt b (offset + 1)
    let c ← valueAt c (offset + 2)
    let d ← valueAt d (offset + 3)
    let others ← groups (offset + 4) (next :: rest)
    return octetsOfFour a b c d ++ others
  | group => lastGroup offset group

/-- Reads a text. A single character too many that is no symbol, such as a line's end, is reported
before anything else. -/
def decode (text : List Char) : Except Base64Error Octets :=
  match text.getLast? with
  | some last =>
    if text.length % 4 = 1 ∧ last ≠ '=' ∧ value? last = none then
      .error (.symbol last.toNat (text.length - 1))
    else groups 0 text
  | none => .ok []

end Base64Url

end CallJournal.Token
