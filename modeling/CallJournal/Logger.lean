import CallJournal.Json.Printer
import CallJournal.Level
import CallJournal.Text.Quoted

namespace CallJournal

structure Record where
  level : Level
  message : String
  fields : Fields

/-- Where a logger's records go. -/
inductive Sink where
  /-- They are kept as they are. -/
  | records
  /-- They become events, which pass through whatever output is installed. -/
  | events
  deriving DecidableEq, Repr

structure Logger where
  filter : Filter
  fields : Fields
  sink : Sink

namespace Logger

/-- A logger without fields whose records become events. -/
def ofFilter (filter : Filter) : Logger := ⟨filter, .empty, .events⟩

/-- The logger of whoever has none. -/
def standard : Logger := ofFilter (.upTo .info)

instance : Inhabited Logger := ⟨standard⟩

def withFilter (logger : Logger) (filter : Filter) : Logger := { logger with filter }

/-- A logger with more fields; those it already has under the same names give way. -/
def withFields (logger : Logger) (fields : Fields) : Logger :=
  { logger with fields := logger.fields.merge fields }

def withField (logger : Logger) (name : String) (value : Json) : Logger :=
  { logger with fields := logger.fields.insert name value }

def passes (logger : Logger) (level : Level) : Bool := logger.filter.passes level

/-- The record that a message becomes, if the logger lets its level pass. -/
def record? (logger : Logger) (level : Level) (message : String) : Option Record :=
  if logger.passes level then some ⟨level, message, logger.fields⟩ else none

end Logger

namespace Json

mutual

/-- A value with the kinds of its parts named. -/
def describe : Json → List Char
  | null => "Null".toList
  | bool value => "Bool(".toList ++ (toString value).toList ++ [')']
  | number value => "Number(".toList ++ value.chars ++ [')']
  | string value => "String(".toList ++ (Text.quoted value).toList ++ [')']
  | array items => "Array [".toList ++ describeItems items ++ [']']
  | object members => "Object \x7b".toList ++ describeMembers members ++ ['\x7d']

def describeItems : List Json → List Char
  | [] => []
  | [item] => describe item
  | item :: rest => describe item ++ ", ".toList ++ describeItems rest

def describeMembers : List (String × Json) → List Char
  | [] => []
  | [(key, value)] => (Text.quoted key).toList ++ ": ".toList ++ describe value
  | (key, value) :: rest =>
    (Text.quoted key).toList ++ ": ".toList ++ describe value ++ ", ".toList ++
      describeMembers rest

end

end Json

def Logger.describe (logger : Logger) : String :=
  "Logger \x7b level: LevelFilter::" ++ logger.filter.name ++ ", fields: \x7b" ++
    String.ofList (Json.describeMembers logger.fields.entries) ++ "\x7d, .. \x7d"

end CallJournal
