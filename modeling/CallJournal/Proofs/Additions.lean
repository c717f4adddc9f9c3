import CallJournal.Proofs.Growth

/-! After any chain, a logger in a cell is the one from before with field maps added. -/

namespace CallJournal

namespace Logger

def withAll (logger : Logger) (added : List Fields) : Logger := added.foldl withFields logger

theorem withAll_append (logger : Logger) (first last : List Fields) :
    logger.withAll (first ++ last) = (logger.withAll first).withAll last :=
  List.foldl_append

theorem withAll_eq (logger : Logger) (added : List Fields) :
    logger.withAll added = { logger with fields := added.foldl Fields.merge logger.fields } := by
  induction added generalizing logger with
  | nil => rfl
  | cons first rest ih => exact ih (logger.withFields first)

end Logger

def Act.additions (cell : LoggerCell) : Act → Call → List Fields
  | addFields fields, call => if call.extensions.logger? = some cell then [fields] else []
  | _, _ => []

/-- The field maps that a plan adds to the logger in a cell, with those that are added below it. -/
def Plan.additions (inner : Service) (below : Call → Shared → List Fields) (cell : LoggerCell) :
    Plan → Call → Shared → List Fields
  | answer _, _, _ => []
  | forward next, call, shared =>
    let served := inner call shared
    below call shared ++ (next served.1).additions inner below cell call served.2
  | first act next, call, shared =>
    let done := act.perform call shared
    act.additions cell call ++ (next done.1).additions inner below cell done.2.1 done.2.2

/-- The field maps that are added to the logger in a cell while a chain serves a call; those in
`last` are added behind the chain. -/
def additions (terminal : Service) (last : LoggerCell → Call → Shared → List Fields)
    (cell : LoggerCell) : List Link → Call → Shared → List Fields
  | [], call, shared => last cell call shared
  | .transportGuard :: rest, call, shared =>
    additions terminal last cell rest call (shared.markCarried call.extensions)
  | .interceptor decide :: rest, call, shared =>
    (decide call.request).additions (serve rest terminal) (additions terminal last cell rest) cell
      call shared
  | .gateway front :: rest, call, shared =>
    let started := front.start call shared
    additions terminal last cell rest started.2.1 started.2.2

/-- A service that adds the field maps in `added`, in their order, to the logger in a cell. -/
def Adds (cell : LoggerCell) (added : Call → Shared → List Fields) (service : Service) : Prop :=
  ∀ (call : Call) (shared : Shared), cell.index < shared.loggers.length →
    (service call shared).2.logger cell = (shared.logger cell).withAll (added call shared)

theorem adds_transport (cell : LoggerCell) (respond : Request → Outcome) :
    Adds cell (fun _ _ => []) (transport respond) := fun _ _ _ => rfl

namespace Shared

theorem logger_addFieldsOf (shared : Shared) (extensions : Extensions) (fields : Fields)
    {cell : LoggerCell} (known : cell.index < shared.loggers.length) :
    (shared.addFieldsOf extensions fields).logger cell =
      if extensions.logger? = some cell then (shared.logger cell).withFields fields
      else shared.logger cell := by
  unfold addFieldsOf
  split
  · rename_i changed found
    rw [found]
    by_cases same : changed = cell
    · subst same
      rw [if_pos rfl, shared.logger_addFields_same fields known]
    · rw [if_neg (fun held => same (Option.some.inj held)),
        shared.logger_addFields_other fields (Ne.symm same)]
  · rename_i bare
    rw [bare, if_neg nofun]

end Shared

theorem Act.logger_perform (act : Act) (call : Call) (shared : Shared) {cell : LoggerCell}
    (known : cell.index < shared.loggers.length) :
    (act.perform call shared).2.2.logger cell =
      (shared.logger cell).withAll (act.additions cell call) := by
  cases act with
  | addFields fields =>
    refine (shared.logger_addFieldsOf call.extensions fields known).trans ?_
    simp only [additions]
    split <;> rfl
  | log level message => exact Shared.logger_congr (shared.loggers_log _ level message) cell
  | attach logger => exact shared.logger_addCell_of_lt logger known
  | set key value => exact Shared.logger_congr (shared.loggers_setMetadata _ key value) cell
  | _ => rfl

/-- A plan adds what its acts add and what is added below; induction on the plan, along which the
cell stays known. -/
theorem Plan.adds_run {inner : Service} (steady : IsSteady inner) {cell : LoggerCell}
    {below : Call → Shared → List Fields} (adds : Adds cell below inner) (plan : Plan) :
    Adds cell (plan.additions inner below cell) (plan.run inner) := by
  intro call shared known
  induction plan generalizing call shared with
  | answer outcome => rfl
  | forward next ih =>
    have later := ih (inner call shared).1 call (inner call shared).2
      (Nat.lt_of_lt_of_le known (steady call shared).loggers)
    simp only [run, additions, Logger.withAll_append]
    rw [later, adds call shared known]
  | first act next ih =>
    have later := ih (act.perform call shared).1 (act.perform call shared).2.1
      (act.perform call shared).2.2
      (Nat.lt_of_lt_of_le known (act.grows_perform call shared).loggers)
    simp only [run, additions, Logger.withAll_append]
    rw [later, act.logger_perform call shared known]

theorem adds_serve {terminal : Service} (steady : IsSteady terminal)
    {last : LoggerCell → Call → Shared → List Fields} {cell : LoggerCell}
    (adds : Adds cell (last cell) terminal) (chain : List Link) :
    Adds cell (additions terminal last cell chain) (serve chain terminal) := by
  induction chain with
  | nil => exact adds
  | cons link rest ih =>
    cases link with
    | transportGuard =>
      intro call shared known
      have later := ih call (shared.markCarried call.extensions) (by simpa using known)
      rw [Shared.logger_congr (shared.loggers_markCarried _)] at later
      exact (congrArg (fun served => served.2.logger cell) (guardTransport_eq _ call shared)).trans
        later
    | interceptor decide =>
      intro call
      exact Plan.adds_run (isSteady_serve rest steady) ih (decide call.request) call
    | gateway front =>
      intro call shared known
      have grown := (front.grows_start call shared).loggers
      have later := ih (front.start call shared).2.1 (front.start call shared).2.2
        (Nat.lt_of_lt_of_le known grown)
      rw [front.logger_start call shared known] at later
      exact (Shared.logger_congr (front.loggers_finish _ _ _) cell).trans later

end CallJournal
