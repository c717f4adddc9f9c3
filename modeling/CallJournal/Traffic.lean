import CallJournal.Gateway
import Mathlib.Logic.Function.Basic

/-! Many calls at one gateway. The moves of different callers follow one another in any order. -/

namespace CallJournal

/-- What becomes of a call, one move after the other. -/
inductive Move where
  /-- The call comes, with any extensions: those of a call that is on its way, too. -/
  | start (call : Call)
  | addFields (fields : Fields)
  /-- An interceptor reads the call's logger and its mark. -/
  | look
  | passGuard
  | finish (outcome : Outcome)

/-- A move of one of the callers, with the clock readings and random numbers of its moment. -/
structure Step where
  caller : Nat
  move : Move
  supply : Supply

/-- Lets clock readings and random numbers come from another supply. -/
def Shared.supplied (shared : Shared) (supply : Supply) : Shared :=
  { shared with supply := supply }

/-- A call that a gateway has sent on its way, what was seen on the way and how it ended. -/
structure Journey where
  ticket : Ticket
  call : Call
  cell : call.extensions.logger? = some ticket.cell
  sentinel : call.extensions.sentinel? = some ticket.sentinel
  seen : List (Logger × Option Bool)
  outcome? : Option Outcome

/-- What can be told of a call without naming the cells in which its logger and its mark are. -/
structure View where
  request : Request
  requestId? : Option RequestId
  started : Reading
  logger : Logger
  marked? : Option Bool
  seen : List (Logger × Option Bool)
  outcome? : Option Outcome

namespace Journey

def start (gateway : Gateway) (call : Call) (shared : Shared) : Journey where
  ticket := (gateway.start call shared).1
  call := (gateway.start call shared).2.1
  cell := rfl
  sentinel := rfl
  seen := []
  outcome? := none

def view (journey : Journey) (shared : Shared) : View where
  request := journey.call.request
  requestId? := journey.call.extensions.requestId?
  started := journey.ticket.started
  logger := shared.loggerOf journey.call.extensions
  marked? := shared.markOf journey.call.extensions
  seen := journey.seen
  outcome? := journey.outcome?

/-- A call is started once and finished once; nothing else can be done before it is started. -/
def move (gateway : Gateway) : Option Journey → Move → Shared → Option Journey × Shared
  | none, .start call, shared =>
    (some (.start gateway call shared), (gateway.start call shared).2.2)
  | some journey, .addFields fields, shared =>
    (some journey, shared.addFieldsOf journey.call.extensions fields)
  | some journey, .look, shared =>
    let sight := (shared.loggerOf journey.call.extensions, shared.markOf journey.call.extensions)
    (some { journey with seen := journey.seen ++ [sight] }, shared)
  | some journey, .passGuard, shared => (some journey, shared.markCarried journey.call.extensions)
  | some journey, .finish outcome, shared =>
    match journey.outcome? with
    | none =>
      (some { journey with outcome? := some outcome },
        gateway.finish journey.ticket outcome shared)
    | some _ => (some journey, shared)
  | journey?, _, shared => (journey?, shared)

end Journey

/-- The calls that are on their way, by caller, and what they share. -/
structure Traffic where
  journeys : Nat → Option Journey
  shared : Shared

namespace Traffic

def idle (shared : Shared) : Traffic := ⟨fun _ => none, shared⟩

/-- The next move of a caller: its call as it is afterwards, and what all share. -/
def moved (gateway : Gateway) (traffic : Traffic) (step : Step) : Option Journey × Shared :=
  Journey.move gateway (traffic.journeys step.caller) step.move
    (traffic.shared.supplied step.supply)

def perform (gateway : Gateway) (traffic : Traffic) (step : Step) : Traffic where
  journeys := Function.update traffic.journeys step.caller (traffic.moved gateway step).1
  shared := (traffic.moved gateway step).2

def run (gateway : Gateway) (traffic : Traffic) (steps : List Step) : Traffic :=
  steps.foldl (perform gateway) traffic

/-- What a caller can tell of its call. -/
def view? (traffic : Traffic) (caller : Nat) : Option View :=
  (traffic.journeys caller).map fun journey => journey.view traffic.shared

variable (gateway : Gateway) (traffic : Traffic) (step : Step)

@[simp]
theorem journeys_perform_own :
    (traffic.perform gateway step).journeys step.caller = (traffic.moved gateway step).1 :=
  Function.update_self _ _ _

theorem journeys_perform_other {other : Nat} (differs : other ≠ step.caller) :
    (traffic.perform gateway step).journeys other = traffic.journeys other :=
  Function.update_of_ne differs _ _

end Traffic

end CallJournal
