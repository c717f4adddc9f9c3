import CallJournal.CallFields
import CallJournal.Config
import CallJournal.Shared
import CallJournal.Timeout

/-! The gateway's part in a call. The outcome is recorded unless the call's sentinel was marked on
the way: then the server records it. -/

namespace CallJournal

/-- Where calls are logged, and what is added to their loggers. -/
structure Gateway where
  logger : Logger
  config : Config
  /-- What it reads tokens with. -/
  libraries : Token.Libraries

/-- What the gateway keeps of a call that is on its way. -/
structure Ticket where
  cell : LoggerCell
  sentinel : Sentinel
  started : Reading
  deriving DecidableEq, Repr

def timeoutHeader : String := "grpc-timeout"

def Request.timeout? (request : Request) : Option Duration :=
  (request.metadata.text? timeoutHeader).bind Timeout.read?

/-- Says how long a call may take; a time that no timeout text is short enough for is refused. -/
def Request.setTimeout? (request : Request) (duration : Duration) : Option Request :=
  (Timeout.write? duration).map fun text =>
    { request with metadata := request.metadata.replace timeoutHeader (octetsOf text) }

/-- Timeouts from 2^63 milliseconds on are too long to have a deadline. -/
def Duration.isCountable (duration : Duration) : Bool :=
  duration.nanos / 1000000 < 0x8000000000000000

/-- When a call that starts now has to be over. -/
def Request.deadline? (request : Request) (start : Instant) : Option Instant :=
  (request.timeout?.filter Duration.isCountable).bind start.plus?

/-- What a call that starts now says of itself. -/
def Request.knownFields (request : Request) (start : Instant) : Fields :=
  callFields (.split request.method) start (request.deadline? start)

namespace Gateway

/-- The request ID that a call brings: its own, or the one in a header. -/
def carriedId? (call : Call) : Option RequestId :=
  call.extensions.ownId?.or
    ((call.request.metadata.forwarded? RequestId.header).bind RequestId.ofText?)

/-- The request ID of a call; a fresh one for a call that brings none. -/
def chooseId (call : Call) (shared : Shared) : RequestId × Shared :=
  match carriedId? call with
  | some id => (id, shared)
  | none => (shared.freshId, shared.draw)

/-- A call's metadata and fields while its logger is being made. -/
structure Draft where
  metadata : Metadata
  fields : Fields
  shared : Shared

/-- Sends the request ID and writes it down. -/
def identify (gateway : Gateway) (call : Call) (fields : Fields) (shared : Shared) : Draft :=
  if gateway.config.requestIdDisabled then ⟨call.request.metadata, fields, shared⟩
  else
    let chosen := chooseId call shared
    let sent := chosen.2.setMetadata call.request.metadata RequestId.header chosen.1.text
    ⟨sent.1, fields.insert RequestId.field (.string chosen.1.text), sent.2⟩

/-- The filter of a call's logger: the one that the level header names, if that is obeyed and is a
level, or else the gateway's own. -/
def filterOf (gateway : Gateway) (metadata : Metadata) : Filter :=
  if gateway.config.dynamicLevel then
    match metadata.forwarded? gateway.config.levelKey with
    | some name =>
      match Filter.ofName name with
      | .ok filter => filter
      | .error _ => gateway.logger.filter
    | none => gateway.logger.filter
  else gateway.logger.filter

/-- The value of the flag header, if that is looked at. -/
def flagOf (gateway : Gateway) (metadata : Metadata) : Option String :=
  if gateway.config.dynamicLevel then metadata.forwarded? gateway.config.flagKey else none

def flag (gateway : Gateway) (draft : Draft) : Draft :=
  { draft with
    fields := draft.fields.insert? FieldName.logFlag
      ((gateway.flagOf draft.metadata).map .string) }

/-- Writes down the account of a call. Why there is none is told through the gateway's own
logger. -/
def account (gateway : Gateway) (now : Int) (draft : Draft) : Draft :=
  if gateway.config.accountIdEnabled then
    match Token.accountId gateway.libraries draft.metadata gateway.config.keyfunc? now with
    | .ok account =>
      { draft with fields := draft.fields.insert Token.accountField (.string account) }
    | .error cause =>
      { draft with
        fields := draft.fields.insert Token.accountField (.string undefinedValue)
        shared := draft.shared.log gateway.logger .info cause.message }
  else draft

def draft (gateway : Gateway) (call : Call) (shared : Shared) : Draft :=
  let started := shared.reading
  gateway.account started.time.seconds <| gateway.flag <|
    gateway.identify call (call.request.knownFields started.time) shared.tick

def loggerFor (gateway : Gateway) (draft : Draft) : Logger :=
  (gateway.logger.withFilter (gateway.filterOf draft.metadata)).withFields draft.fields

/-- Prepares a call: what the gateway keeps of it, the call that goes on, and what all share. -/
def start (gateway : Gateway) (call : Call) (shared : Shared) : Ticket × Call × Shared :=
  let started := shared.reading
  let draft := gateway.draft call shared
  let attached := draft.shared.addCell (gateway.loggerFor draft)
  let cell := draft.shared.nextCell
  let sentinel := attached.nextSentinel
  (⟨cell, sentinel, started⟩,
    { request := { call.request with metadata := draft.metadata }
      extensions := (call.extensions.attach cell).guard sentinel },
    attached.addSentinel)

def outcomeMessage (code : StatusCode) : String :=
  "finished client unary call with code " ++ code.name

def failure? : Outcome → Option Status
  | .ok _ => none
  | .error status => some status

/-- Records how a call ended, unless it was marked on its way. -/
def finish (gateway : Gateway) (ticket : Ticket) (outcome : Outcome) (shared : Shared) : Shared :=
  if shared.isMarked ticket.sentinel then shared
  else
    let elapsed : Duration := ⟨shared.reading.ticks - ticket.started.ticks⟩
    let logger := (shared.logger ticket.cell).withFields (outcomeFields elapsed (failure? outcome))
    shared.tick.log logger (gateway.config.levelOf outcome.code) (outcomeMessage outcome.code)

def wrap (gateway : Gateway) (inner : Service) : Service := fun call shared =>
  let started := gateway.start call shared
  let served := inner started.2.1 started.2.2
  (served.1, gateway.finish started.1 served.1 served.2)

variable (gateway : Gateway) (call : Call) (shared : Shared)

theorem filterOf_of_disobeyed (disobeyed : gateway.config.dynamicLevel = false)
    (metadata : Metadata) : gateway.filterOf metadata = gateway.logger.filter := by
  rw [filterOf, disobeyed]
  rfl

@[simp]
theorem loggers_chooseId : (chooseId call shared).2.loggers = shared.loggers := by
  unfold chooseId
  split <;> rfl

@[simp]
theorem marks_chooseId : (chooseId call shared).2.marks = shared.marks := by
  unfold chooseId
  split <;> rfl

@[simp]
theorem loggers_identify (fields : Fields) :
    (gateway.identify call fields shared).shared.loggers = shared.loggers := by
  unfold identify
  split <;> simp

@[simp]
theorem marks_identify (fields : Fields) :
    (gateway.identify call fields shared).shared.marks = shared.marks := by
  unfold identify
  split <;> simp

@[simp]
theorem metadata_account (now : Int) (draft : Draft) :
    (gateway.account now draft).metadata = draft.metadata := by
  unfold account
  split
  · split <;> rfl
  · rfl

@[simp]
theorem loggers_account (now : Int) (draft : Draft) :
    (gateway.account now draft).shared.loggers = draft.shared.loggers := by
  unfold account
  split
  · split <;> simp
  · rfl

@[simp]
theorem marks_account (now : Int) (draft : Draft) :
    (gateway.account now draft).shared.marks = draft.shared.marks := by
  unfold account
  split
  · split <;> simp
  · rfl

@[simp]
theorem supply_account (now : Int) (draft : Draft) :
    (gateway.account now draft).shared.supply = draft.shared.supply := by
  unfold account
  split
  · split <;> simp
  · rfl

@[simp]
theorem loggers_draft : (gateway.draft call shared).shared.loggers = shared.loggers := by
  simp [draft, flag, Shared.tick]

@[simp]
theorem marks_draft : (gateway.draft call shared).shared.marks = shared.marks := by
  simp [draft, flag, Shared.tick]

/-- The cell of a call's logger is one that nobody had before. -/
theorem cell_start : (gateway.start call shared).1.cell = shared.nextCell := by
  simp [start, Shared.nextCell]

theorem sentinel_start : (gateway.start call shared).1.sentinel = shared.nextSentinel := by
  simp [start, Shared.nextSentinel, Shared.addCell]

/-- The call that goes on has the metadata of the draft, and a new cell and a new sentinel. -/
theorem sent_start : (gateway.start call shared).2.1 =
    { request := { call.request with metadata := (gateway.draft call shared).metadata }
      extensions := (call.extensions.attach shared.nextCell).guard shared.nextSentinel } := by
  rw [← gateway.cell_start call shared, ← gateway.sentinel_start call shared]
  rfl

theorem ticket_start : (gateway.start call shared).1 =
    ⟨shared.nextCell, shared.nextSentinel, shared.reading⟩ := by
  rw [← gateway.cell_start call shared, ← gateway.sentinel_start call shared]
  rfl

theorem loggers_start : (gateway.start call shared).2.2.loggers =
    shared.loggers ++ [gateway.loggerFor (gateway.draft call shared)] := by
  simp [start, Shared.addSentinel, Shared.addCell]

theorem marks_start : (gateway.start call shared).2.2.marks = shared.marks ++ [false] := by
  simp [start, Shared.addSentinel, Shared.addCell]

theorem cell_start_lt : (gateway.start call shared).1.cell.index <
    (gateway.start call shared).2.2.loggers.length := by
  simp [cell_start, loggers_start, Shared.nextCell]

theorem sentinel_start_lt : (gateway.start call shared).1.sentinel.index <
    (gateway.start call shared).2.2.marks.length := by
  simp [sentinel_start, marks_start, Shared.nextSentinel]

theorem isMarked_start :
    (gateway.start call shared).2.2.isMarked (gateway.start call shared).1.sentinel = false := by
  simp [sentinel_start, Shared.isMarked, marks_start, Shared.nextSentinel]

theorem logger_start {cell : LoggerCell} (known : cell.index < shared.loggers.length) :
    (gateway.start call shared).2.2.logger cell = shared.logger cell := by
  simp [Shared.logger, loggers_start, List.getElem?_append_left known]

theorem isMarked_start_other {sentinel : Sentinel} (known : sentinel.index < shared.marks.length) :
    (gateway.start call shared).2.2.isMarked sentinel = shared.isMarked sentinel := by
  simp [Shared.isMarked, marks_start, List.getElem?_append_left known]

@[simp]
theorem loggers_finish (ticket : Ticket) (outcome : Outcome) :
    (gateway.finish ticket outcome shared).loggers = shared.loggers := by
  unfold finish
  split
  · rfl
  · exact Shared.loggers_log _ _ _ _

@[simp]
theorem marks_finish (ticket : Ticket) (outcome : Outcome) :
    (gateway.finish ticket outcome shared).marks = shared.marks := by
  unfold finish
  split
  · rfl
  · exact Shared.marks_log _ _ _ _

theorem loggerOf_start : (gateway.start call shared).2.2.loggerOf
    (gateway.start call shared).2.1.extensions =
      gateway.loggerFor (gateway.draft call shared) :=
  (gateway.draft call shared).shared.logger_addCell_nextCell _

end Gateway

/-- Marks the sentinel of a call that is about to reach the server, and lets it go on. -/
def guardTransport (inner : Service) : Service := fun call shared =>
  match call.extensions.sentinel? with
  | some sentinel => inner call (shared.mark sentinel)
  | none => inner call shared

theorem guardTransport_eq (inner : Service) (call : Call) (shared : Shared) :
    guardTransport inner call shared = inner call (shared.markCarried call.extensions) := by
  cases found : call.extensions.sentinel? <;>
    simp only [guardTransport, Shared.markCarried, found]

end CallJournal
