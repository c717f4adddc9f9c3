import CallJournal.Event
import CallJournal.Real.Layout

namespace CallJournal.Output

/-- One character of a message, made harmless. -/
def harmlessChar (char : Char) : List Char :=
  if char = '\x1b' then ['\\', 'x', '1', 'b']
  else if char = '\x07' then ['\\', 'x', '0', '7']
  else if char = '\x08' then ['\\', 'x', '0', '8']
  else if char = '\x0c' then ['\\', 'x', '0', 'c']
  else if char = '\x7f' then ['\\', 'x', '7', 'f']
  else if 0x80 ≤ char.toNat ∧ char.toNat ≤ 0x9f then
    ['\\', 'u', '\x7b'] ++ Nat.toDigits 16 char.toNat ++ ['\x7d']
  else [char]

def harmless (text : String) : String := String.ofList (text.toList.flatMap harmlessChar)

/-- A field's value on a plain line, if it has one. -/
def plainValue? : FieldValue → Option String
  | .text value => some (Text.quoted value)
  | .shown value => some value
  | .failure value => some (harmless value)
  | .whole value => some (toString value.value)
  | .wide value => some (toString value)
  | .double value => some (Real.Layout.plain.write value)
  | .bool value => some (toString value)
  | .absent => none

/-- A message as a text of its own, whatever kind of field it came as. -/
def messageText? : FieldValue → Option String
  | .text value => some (harmless value)
  | value => (plainValue? value).map harmless

/-- A field with a value: the message bare, any other behind its name. -/
def plainField? (field : String × FieldValue) : Option String :=
  if field.1 = Event.messageKey then messageText? field.2
  else (plainValue? field.2).map fun value => field.1 ++ "=" ++ value

/-- The name of a level, right-aligned to five characters. -/
def alignedLevel (level : Level) : String :=
  String.ofList (List.replicate (5 - level.name.length) ' ') ++ level.name

def plainText (stamp : String) (event : Event) : String :=
  stamp ++ " " ++ alignedLevel event.level ++ " " ++ event.target ++ ": " ++
    " ".intercalate (event.fields.filterMap plainField?) ++ "\n"

end CallJournal.Output
