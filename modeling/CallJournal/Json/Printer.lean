import CallJournal.Json.Fields
import CallJournal.Real.Layout

/-! JSON text, compact and with the fewest escapes. -/

namespace CallJournal

/-- The last two digits of a code below 256, in hexadecimal. -/
def hexPair (code : Nat) : List Char :=
  [Nat.digitChar (code / 16), Nat.digitChar (code % 16)]

def escapedChar (char : Char) : List Char :=
  if char = '"' then ['\\', '"']
  else if char = '\\' then ['\\', '\\']
  else if char = '\x08' then ['\\', 'b']
  else if char = '\x0c' then ['\\', 'f']
  else if char = '\n' then ['\\', 'n']
  else if char = '\r' then ['\\', 'r']
  else if char = '\t' then ['\\', 't']
  else if char.toNat < 0x20 then ['\\', 'u', '0', '0'] ++ hexPair char.toNat
  else [char]

def stringLiteral (text : String) : List Char :=
  '"' :: text.toList.flatMap escapedChar ++ ['"']

def Number.chars : Number → List Char
  | .whole ⟨value, _⟩ =>
    if value < 0 then '-' :: Nat.toDigits 10 value.natAbs else Nat.toDigits 10 value.natAbs
  | .float value _ => Real.Layout.json.finite value

namespace Json

mutual

/-- The compact text of a value, member by member. -/
def chars : Json → List Char
  | null => ['n', 'u', 'l', 'l']
  | bool true => ['t', 'r', 'u', 'e']
  | bool false => ['f', 'a', 'l', 's', 'e']
  | number value => value.chars
  | string value => stringLiteral value
  | array [] => ['[', ']']
  | array (first :: rest) => '[' :: chars first ++ itemChars rest
  | object [] => ['\x7b', '\x7d']
  | object ((key, value) :: rest) =>
    '\x7b' :: stringLiteral key ++ ':' :: chars value ++ memberChars rest

/-- The items after the first, each behind a comma, and the closing bracket. -/
def itemChars : List Json → List Char
  | [] => [']']
  | item :: rest => ',' :: chars item ++ itemChars rest

/-- The members after the first, each behind a comma, and the closing brace. -/
def memberChars : List (String × Json) → List Char
  | [] => ['\x7d']
  | (key, value) :: rest =>
    ',' :: stringLiteral key ++ ':' :: chars value ++ memberChars rest

end

def text (value : Json) : String := String.ofList value.chars

end Json

def Fields.text (fields : Fields) : String := fields.toJson.text

end CallJournal
