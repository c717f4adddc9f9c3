import CallJournal.Logger
import CallJournal.Real.Double

namespace CallJournal

inductive FieldValue where
  | text (value : String)
  /-- A value that comes with a text of its own. -/
  | shown (value : String)
  /-- A failure, by its text. -/
  | failure (value : String)
  | whole (value : Whole)
  /-- A whole number that may need more than 64 bits. -/
  | wide (value : Int)
  | double (value : Real.Double)
  | bool (value : Bool)
  /-- The field is announced, but there is no value for it. -/
  | absent
  deriving DecidableEq

structure Event where
  level : Level
  target : String
  fields : List (String × FieldValue)
  deriving DecidableEq

namespace Event

def messageKey : String := "message"

def fieldsKey : String := "fields"

/-- The target of events that loggers make of their records. -/
def callTarget : String := "gateway_log::calls"

/-- Whether an event announces a field of a name, with a value or without. -/
def has (event : Event) (name : String) : Bool := event.fields.any fun field => field.1 == name

def ofMessage (level : Level) (target message : String)
    (others : List (String × FieldValue)) : Event :=
  ⟨level, target, (messageKey, .shown message) :: others⟩

/-- The event of a record; its fields travel as the text of one JSON object. -/
def ofRecord (record : Record) : Event :=
  ofMessage record.level callTarget record.message [(fieldsKey, .text record.fields.text)]

end Event

end CallJournal
