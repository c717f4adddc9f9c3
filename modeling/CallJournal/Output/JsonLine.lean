import CallJournal.Event
import CallJournal.Json.Reader

namespace CallJournal.Output

/-- A text as an object, if it is the text of one. -/
def expand (text : String) : Json :=
  match Json.read? text with
  | some (.object members) => .object members
  | _ => .string text

/-- A field's value in JSON, if it has one; what has no number in JSON is null or its text. -/
def jsonValue? (name : String) : FieldValue → Option Json
  | .text value => some (if name = Event.fieldsKey then expand value else .string value)
  | .shown value => some (.string value)
  | .failure value => some (.string value)
  | .whole value => some (.number (.whole value))
  | .wide value => some (.string (toString value))
  | .double value => some (.ofDouble value)
  | .bool value => some (.bool value)
  | .absent => none

/-- What an event says, with the time at which it is written. -/
def jsonLine (stamp : String) (event : Event) : Fields :=
  let frame := Fields.ofList
    [("timestamp", .string stamp), ("level", .string event.level.name),
      ("target", .string event.target)]
  event.fields.foldl (fun line field => line.insert? field.1 (jsonValue? field.1 field.2)) frame

/-- The line of an event, with its end. -/
def jsonText (stamp : String) (event : Event) : String := (jsonLine stamp event).text ++ "\n"

end CallJournal.Output
