import CallJournal.Text.Ascii
import CallJournal.Text.Blank
import CallJournal.Text.Quoted

namespace CallJournal

/-- The importance of a record, the most important first. -/
inductive Level where
  | error
  | warn
  | info
  | debug
  | trace
  deriving DecidableEq, Repr

namespace Level

/-- How much is shown when everything up to this level is. -/
def verbosity : Level → Nat
  | error => 1
  | warn => 2
  | info => 3
  | debug => 4
  | trace => 5

def name : Level → String
  | error => "ERROR"
  | warn => "WARN"
  | info => "INFO"
  | debug => "DEBUG"
  | trace => "TRACE"

def all : List Level := [error, warn, info, debug, trace]

end Level

/-- Lets records pass up to a level, or none. -/
inductive Filter where
  | off
  | upTo (level : Level)
  deriving DecidableEq, Repr

namespace Filter

def verbosity : Filter → Nat
  | off => 0
  | upTo level => level.verbosity

def passes (filter : Filter) (level : Level) : Bool := level.verbosity ≤ filter.verbosity

def name : Filter → String
  | off => "OFF"
  | upTo level => level.name

def all : List Filter := off :: Level.all.map upTo

/-- The filter of a name, in lower case and without blanks around it. -/
def ofFoldedName? (name : String) : Option Filter :=
  if name = "off" then some off
  else if name = "panic" ∨ name = "fatal" ∨ name = "error" then some (upTo .error)
  else if name = "warn" ∨ name = "warning" then some (upTo .warn)
  else if name = "info" then some (upTo .info)
  else if name = "debug" then some (upTo .debug)
  else if name = "trace" then some (upTo .trace)
  else none

end Filter

/-- A name that no filter has. -/
structure UnknownLevel where
  name : String
  deriving DecidableEq, Repr

def UnknownLevel.message (unknown : UnknownLevel) : String :=
  "not a valid log level: " ++ Text.quoted unknown.name

/-- The filter that a name stands for, whatever its letter case and the blanks around it. -/
def Filter.ofName (name : String) : Except UnknownLevel Filter :=
  match Filter.ofFoldedName? (Text.lowered (Text.trim name)) with
  | some filter => .ok filter
  | none => .error ⟨name⟩

theorem Filter.ofName_eq_ok_iff {name : String} {filter : Filter} :
    Filter.ofName name = .ok filter ↔
      Filter.ofFoldedName? (Text.lowered (Text.trim name)) = some filter := by
  unfold Filter.ofName
  split <;> simp_all

end CallJournal
