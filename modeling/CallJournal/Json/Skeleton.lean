/-! The grammar of JSON texts, before numbers are rounded, escapes are joined to characters and
repeated keys are settled. -/

namespace CallJournal

/-- A part of a string literal: a character as it stands, or a UTF-16 unit given by its number. -/
inductive Piece where
  | char (value : Char)
  | unit (code : Nat)
  deriving DecidableEq

/-- A number as it is written. -/
structure Numeral where
  negative : Bool
  whole : List Nat
  fraction : List Nat
  /-- Whether there is a fraction or an exponent. -/
  isWhole : Bool
  exponent : Int
  deriving DecidableEq

inductive Skeleton where
  | null
  | bool (value : Bool)
  | number (value : Numeral)
  | string (value : List Piece)
  | array (items : List Skeleton)
  | object (members : List (List Piece × Skeleton))

namespace Skeleton

def isSpace (char : Char) : Bool :=
  char == ' ' || char == '\n' || char == '\t' || char == '\r'

def skipSpace (text : List Char) : List Char := text.dropWhile isSpace

def digitValue (char : Char) : Nat := char.toNat - '0'.toNat

/-- The digits at the front and what follows them. -/
def digits (text : List Char) : List Nat × List Char :=
  ((text.takeWhile Char.isDigit).map digitValue, text.dropWhile Char.isDigit)

def hexValue? (char : Char) : Option Nat :=
  if char.isDigit then some (char.toNat - '0'.toNat)
  else if 'a' ≤ char ∧ char ≤ 'f' then some (char.toNat - 'a'.toNat + 10)
  else if 'A' ≤ char ∧ char ≤ 'F' then some (char.toNat - 'A'.toNat + 10)
  else none

def hexUnit? (first second third fourth : Char) : Option Nat := do
  let high ← hexValue? first
  let upper ← hexValue? second
  let lower ← hexValue? third
  let low ← hexValue? fourth
  return ((high * 16 + upper) * 16 + lower) * 16 + low

/-- The character that a one-letter escape stands for. -/
def escapeValue? (char : Char) : Option Char :=
  match char with
  | '"' => some '"'
  | '\\' => some '\\'
  | '/' => some '/'
  | 'b' => some '\x08'
  | 'f' => some '\x0c'
  | 'n' => some '\n'
  | 'r' => some '\r'
  | 't' => some '\t'
  | _ => none

/-- The pieces up to the closing quote, and what follows it. -/
def stringBody : List Char → Option (List Piece × List Char)
  | [] => none
  | '"' :: rest => some ([], rest)
  | '\\' :: 'u' :: first :: second :: third :: fourth :: rest => do
    let code ← hexUnit? first second third fourth
    let (pieces, after) ← stringBody rest
    return (.unit code :: pieces, after)
  | '\\' :: letter :: rest => do
    let char ← escapeValue? letter
    let (pieces, after) ← stringBody rest
    return (.char char :: pieces, after)
  | char :: rest =>
    if char = '\\' ∨ char.toNat < 0x20 then none
    else (stringBody rest).map fun (pieces, after) => (.char char :: pieces, after)

/-- The exponent at the front, if there is one: a letter, a sign or none, and at least one digit. -/
def exponentPart : List Char → Option (Option Int × List Char)
  | char :: rest =>
    if char = 'e' ∨ char = 'E' then
      let (negative, unsigned) := match rest with
        | '+' :: after => (false, after)
        | '-' :: after => (true, after)
        | _ => (false, rest)
      match digits unsigned with
      | ([], _) => none
      | (places, after) =>
        let size : Nat := places.foldl (fun value digit => value * 10 + digit) 0
        some (some (if negative then -(size : Int) else size), after)
    else some (none, char :: rest)
  | [] => some (none, [])

/-- The digits after a point at the front, if there is one; at least one digit must follow it. -/
def fractionPart : List Char → Option (Option (List Nat) × List Char)
  | '.' :: rest =>
    match digits rest with
    | ([], _) => none
    | (places, after) => some (some places, after)
  | text => some (none, text)

/-- A number without its sign; a leading zero stands alone. -/
def unsignedNumber (negative : Bool) (text : List Char) : Option (Numeral × List Char) := do
  let (whole, rest) := digits text
  match whole with
  | [] => none
  | 0 :: _ :: _ => none
  | _ =>
    let (fraction, rest) ← fractionPart rest
    let (exponent, rest) ← exponentPart rest
    return ({ negative, whole, fraction := fraction.getD []
              isWhole := fraction.isNone && exponent.isNone
              exponent := exponent.getD 0 }, rest)

mutual

/-- The value at the front of a text, and what follows it. -/
def value : Nat → List Char → Option (Skeleton × List Char)
  | 0, _ => none
  | fuel + 1, text =>
    match skipSpace text with
    | 'n' :: 'u' :: 'l' :: 'l' :: rest => some (null, rest)
    | 't' :: 'r' :: 'u' :: 'e' :: rest => some (bool true, rest)
    | 'f' :: 'a' :: 'l' :: 's' :: 'e' :: rest => some (bool false, rest)
    | '"' :: rest => (stringBody rest).map fun (pieces, after) => (string pieces, after)
    | '-' :: rest =>
      (unsignedNumber true rest).map fun (numeral, after) => (number numeral, after)
    | '[' :: rest =>
      match skipSpace rest with
      | ']' :: after => some (array [], after)
      | body => (items fuel body).map fun (found, after) => (array found, after)
    | '\x7b' :: rest =>
      match skipSpace rest with
      | '\x7d' :: after => some (object [], after)
      | body => (members fuel body).map fun (found, after) => (object found, after)
    | other =>
      (unsignedNumber false other).map fun (numeral, after) => (number numeral, after)

/-- One item or more, up to the closing bracket. -/
def items : Nat → List Char → Option (List Skeleton × List Char)
  | 0, _ => none
  | fuel + 1, text =>
    match value fuel text with
    | none => none
    | some (first, rest) =>
      match skipSpace rest with
      | ']' :: after => some ([first], after)
      | ',' :: more => (items fuel more).map fun (others, after) => (first :: others, after)
      | _ => none

/-- One member or more, up to the closing brace. -/
def members : Nat → List Char → Option (List (List Piece × Skeleton) × List Char)
  | 0, _ => none
  | fuel + 1, text =>
    match skipSpace text with
    | '"' :: rest =>
      match stringBody rest with
      | none => none
      | some (key, rest) =>
        match skipSpace rest with
        | ':' :: rest =>
          match value fuel rest with
          | none => none
          | some (first, rest) =>
            match skipSpace rest with
            | '\x7d' :: after => some ([(key, first)], after)
            | ',' :: more =>
              (members fuel more).map fun (others, after) => ((key, first) :: others, after)
            | _ => none
        | _ => none
    | _ => none

end

/-- The value at the front of a text, whatever follows it. -/
def front? (text : List Char) : Option (Skeleton × List Char) :=
  value (2 * text.length + 1) text

/-- The value of a whole text; only white space may surround it. -/
def read? (text : List Char) : Option Skeleton :=
  match front? text with
  | some (found, rest) => if (skipSpace rest).isEmpty then some found else none
  | none => none

mutual

/-- How many arrays and objects are nested in the text, the outermost included. -/
def depth : Skeleton → Nat
  | array items => depthItems items + 1
  | object members => depthMembers members + 1
  | _ => 0

def depthItems : List Skeleton → Nat
  | [] => 0
  | item :: rest => max (depth item) (depthItems rest)

def depthMembers : List (List Piece × Skeleton) → Nat
  | [] => 0
  | (_, value) :: rest => max (depth value) (depthMembers rest)

end

end Skeleton

end CallJournal
