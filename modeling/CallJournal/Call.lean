import CallJournal.RequestId

namespace CallJournal

/-- A cell with a logger that fields can be added to. -/
structure LoggerCell where
  index : Nat
  deriving DecidableEq, Repr

/-- A cell with a mark that, once set, stays. -/
structure Sentinel where
  index : Nat
  deriving DecidableEq, Repr

/-- What a call carries besides its request: at most one value of each kind. -/
structure Extensions where
  logger? : Option LoggerCell
  sentinel? : Option Sentinel
  requestId? : Option RequestId
  deriving DecidableEq, Repr

def Extensions.empty : Extensions := ⟨none, none, none⟩

structure Request where
  method : String
  body : String
  metadata : Metadata
  deriving DecidableEq, Repr

/-- A request on its way, with its extensions. -/
structure Call where
  request : Request
  extensions : Extensions
  deriving DecidableEq, Repr

/-- The request ID that a call brings of its own; an empty one is none. -/
def Extensions.ownId? (extensions : Extensions) : Option RequestId :=
  extensions.requestId?.filter fun id => !id.isEmpty

/-- Puts a new logger in the place of the one that a call has. -/
def Extensions.attach (extensions : Extensions) (cell : LoggerCell) : Extensions :=
  { extensions with logger? := some cell }

def Extensions.guard (extensions : Extensions) (sentinel : Sentinel) : Extensions :=
  { extensions with sentinel? := some sentinel }

end CallJournal
