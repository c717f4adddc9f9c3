import CallJournal.Call
import CallJournal.Event

/-! Everything that happens, in the order in which it happens. -/

namespace CallJournal

/-- Where in a chain a call is looked at. -/
inductive Place where
  | interceptor
  | transport
  deriving DecidableEq, Repr

/-- How a call looks to somebody on its way. -/
structure Sighting where
  place : Place
  request : Request
  logger : Logger
  marked? : Option Bool
  requestId? : Option RequestId
  sentinel? : Option Sentinel

inductive Entry where
  | record (record : Record)
  | event (event : Event)
  | sighting (sighting : Sighting)
  /-- Somebody added fields to a call's logger; the call may have had none. -/
  | addition (found : Bool)

/-- How a record stands in the journal once it has gone to a sink. -/
def Sink.entry : Sink → Record → Entry
  | .records, record => .record record
  | .events, record => .event (.ofRecord record)

end CallJournal
