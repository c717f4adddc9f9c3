import CallJournal.Journal
import CallJournal.Status
import CallJournal.Time.Instant

/-! What calls share: cells with their loggers and marks, the journal, clock readings and random
numbers. -/

namespace CallJournal

/-- A look at the clocks: the time of day, and nanoseconds that never run backwards. -/
structure Reading where
  time : Instant
  ticks : Nat
  deriving DecidableEq, Repr

/-- The clock readings and random numbers that are still to come. -/
structure Supply where
  readings : Nat → Reading
  taken : Nat
  seeds : Nat → Nat
  drawn : Nat

/-- Tells why metadata was left as it was. -/
def Metadata.Refusal.event : Metadata.Refusal → Event
  | .key text => .ofMessage .debug "gateway_log::metadata" "failed to parse metadata key"
      [("key", .shown text)]
  | .value text => .ofMessage .debug "gateway_log::metadata" "failed to parse metadata value"
      [("value", .shown text)]

/-- What all calls share. -/
structure Shared where
  loggers : List Logger
  marks : List Bool
  journal : List Entry
  supply : Supply

namespace Shared

def start (readings : Nat → Reading) (seeds : Nat → Nat) : Shared :=
  ⟨[], [], [], ⟨readings, 0, seeds, 0⟩⟩

def enter (shared : Shared) (entry : Entry) : Shared :=
  { shared with journal := shared.journal ++ [entry] }

def emit (shared : Shared) (event : Event) : Shared := shared.enter (.event event)

def write (shared : Shared) (sink : Sink) (record : Record) : Shared :=
  shared.enter (sink.entry record)

def log (shared : Shared) (logger : Logger) (level : Level) (message : String) : Shared :=
  match logger.record? level message with
  | some record => shared.write logger.sink record
  | none => shared

def reading (shared : Shared) : Reading := shared.supply.readings shared.supply.taken

def tick (shared : Shared) : Shared :=
  { shared with supply := { shared.supply with taken := shared.supply.taken + 1 } }

def seed (shared : Shared) : Nat := shared.supply.seeds shared.supply.drawn

def freshId (shared : Shared) : RequestId := .ofSeed shared.seed

def draw (shared : Shared) : Shared :=
  { shared with supply := { shared.supply with drawn := shared.supply.drawn + 1 } }

/-- The cell that the next logger gets. -/
def nextCell (shared : Shared) : LoggerCell := ⟨shared.loggers.length⟩

def addCell (shared : Shared) (logger : Logger) : Shared :=
  { shared with loggers := shared.loggers ++ [logger] }

def logger (shared : Shared) (cell : LoggerCell) : Logger :=
  shared.loggers.getD cell.index .standard

def addFields (shared : Shared) (cell : LoggerCell) (fields : Fields) : Shared :=
  { shared with
    loggers := shared.loggers.modify cell.index fun logger => logger.withFields fields }

def nextSentinel (shared : Shared) : Sentinel := ⟨shared.marks.length⟩

def addSentinel (shared : Shared) : Shared := { shared with marks := shared.marks ++ [false] }

def isMarked (shared : Shared) (sentinel : Sentinel) : Bool :=
  shared.marks.getD sentinel.index false

def mark (shared : Shared) (sentinel : Sentinel) : Shared :=
  { shared with marks := shared.marks.set sentinel.index true }

/-- The logger of a call; a call without one has the standard logger. -/
def loggerOf (shared : Shared) (extensions : Extensions) : Logger :=
  match extensions.logger? with
  | some cell => shared.logger cell
  | none => .standard

/-- The state of a call's sentinel, if it has one. -/
def markOf (shared : Shared) (extensions : Extensions) : Option Bool :=
  extensions.sentinel?.map shared.isMarked

/-- Sets the mark of a call, if it has a sentinel. -/
def markCarried (shared : Shared) (extensions : Extensions) : Shared :=
  match extensions.sentinel? with
  | some sentinel => shared.mark sentinel
  | none => shared

def addFieldsOf (shared : Shared) (extensions : Extensions) (fields : Fields) : Shared :=
  match extensions.logger? with
  | some cell => shared.addFields cell fields
  | none => shared

/-- Sets metadata; what is refused is left as it was, with an event about it. -/
def setMetadata (shared : Shared) (metadata : Metadata) (key value : String) :
    Metadata × Shared :=
  match metadata.set key value with
  | .ok changed => (changed, shared)
  | .error refusal => (metadata, shared.emit refusal.event)

def see (shared : Shared) (place : Place) (call : Call) : Shared :=
  shared.enter <| .sighting
    { place
      request := call.request
      logger := shared.loggerOf call.extensions
      marked? := shared.markOf call.extensions
      requestId? := call.extensions.requestId?
      sentinel? := call.extensions.sentinel? }

/-- What is read off depends on the part alone that it is read off. -/
theorem reading_congr {first second : Shared} (same : first.supply = second.supply) :
    first.reading = second.reading := by
  simp only [reading, same]

theorem seed_congr {first second : Shared} (same : first.supply = second.supply) :
    first.seed = second.seed := by
  simp only [seed, same]

theorem logger_congr {first second : Shared} (same : first.loggers = second.loggers)
    (cell : LoggerCell) : first.logger cell = second.logger cell := by
  simp only [logger, same]

theorem isMarked_congr {first second : Shared} (same : first.marks = second.marks)
    (sentinel : Sentinel) : first.isMarked sentinel = second.isMarked sentinel := by
  simp only [isMarked, same]

theorem markOf_congr {first second : Shared} (same : first.marks = second.marks)
    (extensions : Extensions) : first.markOf extensions = second.markOf extensions := by
  rw [markOf, markOf, funext (isMarked_congr same)]

@[simp]
theorem loggers_log (shared : Shared) (logger : Logger) (level : Level) (message : String) :
    (shared.log logger level message).loggers = shared.loggers := by
  unfold log
  split <;> rfl

@[simp]
theorem marks_log (shared : Shared) (logger : Logger) (level : Level) (message : String) :
    (shared.log logger level message).marks = shared.marks := by
  unfold log
  split <;> rfl

@[simp]
theorem supply_log (shared : Shared) (logger : Logger) (level : Level) (message : String) :
    (shared.log logger level message).supply = shared.supply := by
  unfold log
  split <;> rfl

theorem journal_log (shared : Shared) (logger : Logger) (level : Level) (message : String) :
    (shared.log logger level message).journal =
      shared.journal ++ ((logger.record? level message).map logger.sink.entry).toList := by
  unfold log
  split <;> rename_i found <;> simp [found, write, enter]

@[simp]
theorem loggers_setMetadata (shared : Shared) (metadata : Metadata) (key value : String) :
    (shared.setMetadata metadata key value).2.loggers = shared.loggers := by
  unfold setMetadata
  split <;> rfl

@[simp]
theorem marks_setMetadata (shared : Shared) (metadata : Metadata) (key value : String) :
    (shared.setMetadata metadata key value).2.marks = shared.marks := by
  unfold setMetadata
  split <;> rfl

@[simp]
theorem supply_setMetadata (shared : Shared) (metadata : Metadata) (key value : String) :
    (shared.setMetadata metadata key value).2.supply = shared.supply := by
  unfold setMetadata
  split <;> rfl

@[simp]
theorem marks_addFieldsOf (shared : Shared) (extensions : Extensions) (fields : Fields) :
    (shared.addFieldsOf extensions fields).marks = shared.marks := by
  unfold addFieldsOf
  split <;> rfl

/-- Of all that is shared, marking a call changes marks only. -/
theorem markCarried_eq (shared : Shared) (extensions : Extensions) :
    shared.markCarried extensions =
      { shared with marks := (shared.markCarried extensions).marks } := by
  unfold markCarried
  split <;> rfl

@[simp]
theorem loggers_markCarried (shared : Shared) (extensions : Extensions) :
    (shared.markCarried extensions).loggers = shared.loggers := by
  rw [markCarried_eq]

@[simp]
theorem logger_addCell_nextCell (shared : Shared) (logger : Logger) :
    (shared.addCell logger).logger shared.nextCell = logger := by
  simp [Shared.logger, addCell, nextCell]

theorem logger_addCell_of_lt (shared : Shared) (added : Logger) {cell : LoggerCell}
    (known : cell.index < shared.loggers.length) :
    (shared.addCell added).logger cell = shared.logger cell := by
  simp [Shared.logger, addCell, List.getElem?_append_left known]

theorem logger_addFields_same (shared : Shared) {cell : LoggerCell} (fields : Fields)
    (known : cell.index < shared.loggers.length) :
    (shared.addFields cell fields).logger cell = (shared.logger cell).withFields fields := by
  simp [Shared.logger, addFields, List.getElem?_eq_getElem known]

theorem logger_addFields_other (shared : Shared) {cell other : LoggerCell} (fields : Fields)
    (differs : other ≠ cell) :
    (shared.addFields cell fields).logger other = shared.logger other := by
  have indices : cell.index ≠ other.index := fun same =>
    differs (by cases cell; cases other; exact congrArg _ same.symm)
  simp [Shared.logger, addFields, indices]

/-- A mark that nobody has set yet is not set, wherever it is. -/
@[simp]
theorem isMarked_addSentinel (shared : Shared) (sentinel : Sentinel) :
    shared.addSentinel.isMarked sentinel = shared.isMarked sentinel := by
  simp only [isMarked, addSentinel, List.getD_eq_getElem?_getD, List.getElem?_append]
  split
  · rfl
  · rename_i beyond
    rw [List.getElem?_eq_none (Nat.le_of_not_lt beyond), List.getElem?_singleton]
    split <;> rfl

theorem isMarked_mark_same (shared : Shared) {sentinel : Sentinel}
    (known : sentinel.index < shared.marks.length) :
    (shared.mark sentinel).isMarked sentinel = true := by
  simp [isMarked, mark, known]

theorem isMarked_mark_other (shared : Shared) {sentinel other : Sentinel}
    (differs : other ≠ sentinel) :
    (shared.mark sentinel).isMarked other = shared.isMarked other := by
  have indices : sentinel.index ≠ other.index := fun same =>
    differs (by cases sentinel; cases other; exact congrArg _ same.symm)
  simp [isMarked, mark, indices]

/-- Marking a call sets the mark of its sentinel and of no other. -/
theorem isMarked_markCarried_iff (shared : Shared) (extensions : Extensions) {sentinel : Sentinel}
    (known : sentinel.index < shared.marks.length) :
    (shared.markCarried extensions).isMarked sentinel = true ↔
      shared.isMarked sentinel = true ∨ extensions.sentinel? = some sentinel := by
  unfold markCarried
  split
  · rename_i carried found
    rw [found, Option.some.injEq]
    by_cases same : carried = sentinel
    · subst same
      simp [shared.isMarked_mark_same known]
    · simp [shared.isMarked_mark_other (Ne.symm same), same]
  · rename_i bare
    simp [bare]

end Shared

/-- A service takes a call and comes back with its outcome. -/
abbrev Service := Call → Shared → Outcome × Shared

end CallJournal
