import CallJournal.Proofs.AccountField

/-! A quieter gateway leaves out records and changes nothing else, so the two runs never part. -/

namespace CallJournal

/-- A filter that is at most as verbose lets nothing pass that the other one stops. -/
theorem Filter.passes_of_le {quiet loud : Filter} (quieter : quiet.verbosity ≤ loud.verbosity)
    {level : Level} (passes : quiet.passes level = true) : loud.passes level = true :=
  decide_eq_true (Nat.le_trans (of_decide_eq_true passes) quieter)

/-- The level of a record, in whichever form it stands in the journal. -/
def Entry.level? : Entry → Option Level
  | .record written => some written.level
  | .event told => if told.target = Event.callTarget then some told.level else none
  | .sighting _ | .addition _ => none

/-- What a quieter gateway leaves of an entry: a record if its filter lets it pass, and everything
that is no record. -/
def Entry.quieted (quiet : Filter) : Entry → Option Entry
  | .sighting seen => some (.sighting { seen with logger := seen.logger.withFilter quiet })
  | entry => if entry.level?.all quiet.passes then some entry else none

theorem Entry.quieted_written (quiet : Filter) (sink : Sink) (record : Record) :
    (sink.entry record).quieted quiet =
      if quiet.passes record.level then some (sink.entry record) else none := by
  cases sink <;> rfl

theorem Entry.quieted_refusal (quiet : Filter) (refusal : Metadata.Refusal) :
    (Entry.event refusal.event).quieted quiet = some (.event refusal.event) := by
  cases refusal <;> rfl

/-- Since the journals were `early`, the quieter run leaves out what its filter stops, and nothing
else. -/
def QuietedSince (quiet : Filter) (early first second : List Entry) : Prop :=
  ∃ added, second = early ++ added ∧ first = early ++ added.filterMap (Entry.quieted quiet)

section Journals

variable {quiet loud : Filter} {early first second : List Entry}

theorem QuietedSince.append (since : QuietedSince quiet early first second)
    (added : List Entry) :
    QuietedSince quiet early (first ++ added.filterMap (Entry.quieted quiet))
      (second ++ added) := by
  obtain ⟨earlier, full, less⟩ := since
  refine ⟨earlier ++ added, ?_, ?_⟩
  · rw [full, List.append_assoc]
  · rw [less, List.filterMap_append, List.append_assoc]

/-- A quieter logger makes the records of a louder one, but for those that its filter stops. -/
theorem Logger.record?_withFilter {writer : Logger}
    (quieter : quiet.verbosity ≤ writer.filter.verbosity) (level : Level) (message : String) :
    (writer.withFilter quiet).record? level message =
      (writer.record? level message).filter fun record => quiet.passes record.level := by
  have filtered : (writer.withFilter quiet).passes level = quiet.passes level := rfl
  rw [record?, record?, filtered]
  by_cases quietly : quiet.passes level = true
  · have loudly : writer.passes level = true := Filter.passes_of_le quieter quietly
    rw [if_pos quietly, if_pos loudly, Option.filter_some, if_pos quietly]
    rfl
  · rw [if_neg quietly]
    split
    · exact (if_neg quietly).symm
    · rfl

theorem QuietedSince.log {first second : Shared}
    (since : QuietedSince quiet early first.journal second.journal) {writer : Logger}
    (quieter : quiet.verbosity ≤ writer.filter.verbosity) (level : Level) (message : String) :
    QuietedSince quiet early (first.log (writer.withFilter quiet) level message).journal
      (second.log writer level message).journal := by
  have written : ∀ record? : Option Record,
      ((record?.filter fun record => quiet.passes record.level).map writer.sink.entry).toList =
        (record?.map writer.sink.entry).toList.filterMap (Entry.quieted quiet) := by
    intro record?
    cases record? with
    | none => rfl
    | some record =>
      simp only [Option.filter_some, Option.map_some, Option.toList_some, List.filterMap_cons,
        Entry.quieted_written]
      split <;> rfl
  rw [Shared.journal_log, Shared.journal_log, Logger.record?_withFilter quieter]
  exact written _ ▸ since.append _

end Journals

/-- The logger in the cell of the call differs in its filter, and the journals in what that filter
stops. -/
structure Shared.Quieted (quiet : Filter) (cell : LoggerCell) (early : List Entry)
    (first second : Shared) : Prop where
  known : cell.index < second.loggers.length
  quieter : quiet.verbosity ≤ (second.logger cell).filter.verbosity
  loggers : first.loggers = second.loggers.modify cell.index fun logger => logger.withFilter quiet
  marks : first.marks = second.marks
  supply : first.supply = second.supply
  journal : QuietedSince quiet early first.journal second.journal

namespace Shared.Quieted

variable {quiet : Filter} {cell : LoggerCell} {early : List Entry} {first second : Shared}

theorem logger (quieted : Quieted quiet cell early first second) :
    first.logger cell = (second.logger cell).withFilter quiet := by
  simp [Shared.logger, quieted.loggers, quieted.known]

theorem loggerOf (quieted : Quieted quiet cell early first second) {extensions : Extensions}
    (held : extensions.logger? = some cell) :
    first.loggerOf extensions = (second.loggerOf extensions).withFilter quiet := by
  simp only [Shared.loggerOf, held, quieted.logger]

theorem tick (quieted : Quieted quiet cell early first second) :
    Quieted quiet cell early first.tick second.tick :=
  { quieted with supply := by rw [Shared.tick, quieted.supply]; rfl }

theorem draw (quieted : Quieted quiet cell early first second) :
    Quieted quiet cell early first.draw second.draw :=
  { quieted with supply := by rw [Shared.draw, quieted.supply]; rfl }

theorem enter (quieted : Quieted quiet cell early first second) {entry left : Entry}
    (kept : entry.quieted quiet = some left) :
    Quieted quiet cell early (first.enter left) (second.enter entry) := by
  have written := quieted.journal.append [entry]
  rw [List.filterMap_cons, kept] at written
  exact { quieted with journal := written }

theorem log (quieted : Quieted quiet cell early first second) {writer : Logger}
    (quieter : quiet.verbosity ≤ writer.filter.verbosity) (level : Level) (message : String) :
    Quieted quiet cell early (first.log (writer.withFilter quiet) level message)
      (second.log writer level message) where
  known := by rw [loggers_log]; exact quieted.known
  quieter := by rw [logger_congr (second.loggers_log _ _ _)]; exact quieted.quieter
  loggers := by rw [loggers_log, loggers_log]; exact quieted.loggers
  marks := by rw [marks_log, marks_log]; exact quieted.marks
  supply := by rw [supply_log, supply_log]; exact quieted.supply
  journal := quieted.journal.log quieter level message

theorem addFieldsOf (quieted : Quieted quiet cell early first second) {extensions : Extensions}
    (held : extensions.logger? = some cell) (fields : Fields) :
    Quieted quiet cell early (first.addFieldsOf extensions fields)
      (second.addFieldsOf extensions fields) := by
  have added : (second.addFields cell fields).logger cell =
      (second.logger cell).withFields fields :=
    second.logger_addFields_same fields quieted.known
  simp only [Shared.addFieldsOf, held]
  refine ⟨?_, ?_, ?_, quieted.marks, quieted.supply, quieted.journal⟩
  · simpa [Shared.addFields] using quieted.known
  · rw [added]
    exact quieted.quieter
  · simp only [Shared.addFields, quieted.loggers, List.modify_modify_eq]
    rfl

theorem markCarried (quieted : Quieted quiet cell early first second) (extensions : Extensions) :
    Quieted quiet cell early (first.markCarried extensions) (second.markCarried extensions) := by
  unfold Shared.markCarried
  cases extensions.sentinel? with
  | none => exact quieted
  | some sentinel =>
    exact { quieted with marks := congrArg (List.set · sentinel.index true) quieted.marks }

theorem setMetadata (quieted : Quieted quiet cell early first second) (metadata : Metadata)
    (key value : String) :
    (first.setMetadata metadata key value).1 = (second.setMetadata metadata key value).1 ∧
      Quieted quiet cell early (first.setMetadata metadata key value).2
        (second.setMetadata metadata key value).2 := by
  unfold Shared.setMetadata
  cases metadata.set key value with
  | ok changed => exact ⟨rfl, quieted⟩
  | error refusal => exact ⟨rfl, quieted.enter (Entry.quieted_refusal quiet refusal)⟩

theorem see (quieted : Quieted quiet cell early first second) (place : Place) {call : Call}
    (held : call.extensions.logger? = some cell) :
    Quieted quiet cell early (first.see place call) (second.see place call) := by
  rw [Shared.see, Shared.see, Shared.markOf_congr quieted.marks, quieted.loggerOf held]
  exact quieted.enter rfl

end Shared.Quieted

/-- A service that goes the same way in a quieter run, and writes no less than what the quieter
filter lets pass. -/
def Quiets (quiet : Filter) (service : Service) : Prop :=
  ∀ (cell : LoggerCell) (early : List Entry) (call : Call) (first second : Shared),
    call.extensions.logger? = some cell → Shared.Quieted quiet cell early first second →
    (service call first).1 = (service call second).1 ∧
      Shared.Quieted quiet cell early (service call first).2 (service call second).2

/-- Acts that leave the call's logger where it is and do not look at it. Fields may be added to it,
and messages logged through it. -/
def Act.LeavesLogger : Act → Prop
  | readLogger | attach _ | dropExtensions => False
  | addFields _ | consult | log _ _ | set _ _ | edit _ | look | tell _ => True

/-- Plans all of whose acts leave the call's logger. -/
inductive Plan.LeavesLogger : Plan → Prop where
  | answer (outcome : Outcome) : LeavesLogger (.answer outcome)
  | forward {next : Outcome → Plan} (each : ∀ outcome, LeavesLogger (next outcome)) :
      LeavesLogger (.forward next)
  | first {act : Act} (leaves : act.LeavesLogger) {next : act.Reply → Plan}
      (each : ∀ reply, LeavesLogger (next reply)) : LeavesLogger (.first act next)

/-- Guards have nothing to do with loggers. A gateway takes another logger for the call. -/
def Link.LeavesLogger : Link → Prop
  | gateway _ => False
  | transportGuard => True
  | interceptor decide => ∀ request, (decide request).LeavesLogger

section Chains

variable {quiet : Filter} {cell : LoggerCell} {early : List Entry} {first second : Shared}

/-- One act in both runs: what is learnt, how the call goes on, and what is shared then. -/
theorem Act.quieted_perform {act : Act} (leaves : act.LeavesLogger) {call : Call}
    (held : call.extensions.logger? = some cell)
    (quieted : Shared.Quieted quiet cell early first second) :
    (act.perform call first).1 = (act.perform call second).1 ∧
      (act.perform call first).2.1 = (act.perform call second).2.1 ∧
      (act.perform call second).2.1.extensions.logger? = some cell ∧
      Shared.Quieted quiet cell early (act.perform call first).2.2
        (act.perform call second).2.2 := by
  cases act with
  | addFields fields => exact ⟨rfl, rfl, held, quieted.addFieldsOf held fields⟩
  | consult => exact ⟨Shared.seed_congr quieted.supply, rfl, held, quieted.draw⟩
  | log level message =>
    have louder : quiet.verbosity ≤ (second.loggerOf call.extensions).filter.verbosity := by
      simp only [Shared.loggerOf, held, quieted.quieter]
    have logged := quieted.log louder level message
    rw [← quieted.loggerOf held] at logged
    exact ⟨rfl, rfl, held, logged⟩
  | set key value =>
    obtain ⟨metadata, kept⟩ := quieted.setMetadata call.request.metadata key value
    refine ⟨rfl, ?_, held, kept⟩
    simp only [perform, metadata]
  | edit change => exact ⟨rfl, rfl, held, quieted⟩
  | look => exact ⟨rfl, rfl, held, quieted.see .interceptor held⟩
  | tell found => exact ⟨rfl, rfl, held, quieted.enter rfl⟩
  | readLogger => exact leaves.elim
  | attach logger => exact leaves.elim
  | dropExtensions => exact leaves.elim

/-- Induction on the plan, for whatever call and shared state it has led to in both runs. -/
theorem Plan.LeavesLogger.quiets_run {plan : Plan} (leaves : plan.LeavesLogger) {inner : Service}
    (quiets : Quiets quiet inner) : Quiets quiet (plan.run inner) := by
  intro cell early call first second held quieted
  induction leaves generalizing call first second with
  | answer outcome => exact ⟨rfl, quieted⟩
  | forward each ih =>
    obtain ⟨outcome, served⟩ := quiets cell early call first second held quieted
    rw [run, run, outcome]
    exact ih _ call _ _ held served
  | first acts each ih =>
    obtain ⟨reply, sent, holds, done⟩ := Act.quieted_perform acts held quieted
    rw [run, run, reply, sent]
    exact ih _ _ _ _ holds done

theorem quiets_guardTransport {inner : Service} (quiets : Quiets quiet inner) :
    Quiets quiet (guardTransport inner) := by
  intro cell early call first second held quieted
  rw [guardTransport_eq, guardTransport_eq]
  exact quiets cell early call _ _ held (quieted.markCarried call.extensions)

theorem quiets_transport (respond : Request → Outcome) : Quiets quiet (transport respond) :=
  fun _ _ _ _ _ held quieted => ⟨rfl, quieted.see .transport held⟩

/-- A chain that leaves the call's logger parts the two runs nowhere; induction on the chain. -/
theorem quiets_serve {chain : List Link} (leaves : ∀ link ∈ chain, link.LeavesLogger)
    {inner : Service} (quiets : Quiets quiet inner) : Quiets quiet (serve chain inner) := by
  induction chain with
  | nil => exact quiets
  | cons link rest ih =>
    have behind := ih fun other member => leaves other (List.mem_cons_of_mem link member)
    have here := leaves link List.mem_cons_self
    cases link with
    | gateway front => exact here.elim
    | transportGuard => exact quiets_guardTransport behind
    | interceptor decide =>
      exact fun cell early call => (here call.request).quiets_run behind cell early call

end Chains

namespace Gateway

variable (gateway : Gateway)

/-- The gateway with another filter in its own logger. -/
def withBase (filter : Filter) : Gateway :=
  { gateway with logger := gateway.logger.withFilter filter }

variable {quiet loud : Filter} (call : Call) (shared : Shared)

theorem outline_withBase (filter : Filter) :
    (gateway.withBase filter).outline call shared = gateway.outline call shared := by
  unfold outline flag identify
  rfl

theorem metadata_draft_withBase (filter : Filter) :
    ((gateway.withBase filter).draft call shared).metadata =
      (gateway.draft call shared).metadata := by
  rw [draft_eq_account_outline, draft_eq_account_outline, metadata_account, metadata_account,
    outline_withBase]

theorem fields_draft_withBase (filter : Filter) :
    ((gateway.withBase filter).draft call shared).fields = (gateway.draft call shared).fields := by
  rw [draft_eq_account_outline, draft_eq_account_outline, fields_account, fields_account,
    outline_withBase]
  rfl

theorem ticket_withBase (filter : Filter) :
    ((gateway.withBase filter).start call shared).1 = (gateway.start call shared).1 := by
  rw [ticket_start, ticket_start]

theorem sent_withBase (filter : Filter) :
    ((gateway.withBase filter).start call shared).2.1 = (gateway.start call shared).2.1 := by
  rw [sent_start, sent_start, metadata_draft_withBase]

/-- Before accounts are looked up no record is written, only refusals of a request ID. -/
theorem quieted_outline (quiet : Filter) :
    QuietedSince quiet shared.journal (gateway.outline call shared).shared.journal
      (gateway.outline call shared).shared.journal := by
  obtain ⟨refusals, written⟩ : ∃ refusals : List Metadata.Refusal,
      (gateway.outline call shared).shared.journal =
        shared.journal ++ refusals.map fun refusal => Entry.event refusal.event :=
    gateway.journal_identify call shared.tick (call.request.knownFields shared.reading.time)
  refine ⟨refusals.map fun refusal => .event refusal.event, written, ?_⟩
  have kept : Entry.quieted quiet ∘ (fun refusal : Metadata.Refusal => .event refusal.event) =
      some ∘ fun refusal : Metadata.Refusal => .event refusal.event :=
    funext (Entry.quieted_refusal quiet)
  rw [List.filterMap_map, kept, List.filterMap_eq_map]
  exact written

/-- Why there is no account is told through the gateway's own logger, so in the quieter run only if
its filter lets that pass. -/
theorem quieted_draft (quieter : quiet.verbosity ≤ loud.verbosity) :
    QuietedSince quiet shared.journal ((gateway.withBase quiet).draft call shared).shared.journal
      ((gateway.withBase loud).draft call shared).shared.journal := by
  have identified := gateway.quieted_outline call shared quiet
  have louder : quiet.verbosity ≤ (gateway.logger.withFilter loud).filter.verbosity := quieter
  rw [draft_eq_account_outline, draft_eq_account_outline, outline_withBase, outline_withBase]
  cases enabled : gateway.config.accountIdEnabled with
  | false =>
    rw [(gateway.withBase quiet).account_of_disabled enabled,
      (gateway.withBase loud).account_of_disabled enabled]
    exact identified
  | true =>
    rw [(gateway.withBase quiet).shared_account_of_enabled enabled,
      (gateway.withBase loud).shared_account_of_enabled enabled]
    simp only [withBase]
    cases Token.accountId gateway.libraries (gateway.outline call shared).metadata
        gateway.config.keyfunc? shared.reading.time.seconds with
    | ok account => exact identified
    | error cause => exact identified.log louder .info cause.message

theorem loggerFor_withBase (fixed : gateway.config.dynamicLevel = false) (filter : Filter)
    (draft : Draft) :
    (gateway.withBase filter).loggerFor draft = (gateway.loggerFor draft).withFilter filter := by
  have own : (gateway.withBase filter).filterOf draft.metadata = filter :=
    (gateway.withBase filter).filterOf_of_disobeyed fixed draft.metadata
  rw [loggerFor, own, loggerFor]
  rfl

theorem quieted_start (fixed : gateway.config.dynamicLevel = false)
    (quieter : quiet.verbosity ≤ loud.verbosity) :
    Shared.Quieted quiet (gateway.start call shared).1.cell shared.journal
      ((gateway.withBase quiet).start call shared).2.2
      ((gateway.withBase loud).start call shared).2.2 := by
  have drafted (filter : Filter) :
      (gateway.withBase filter).loggerFor ((gateway.withBase filter).draft call shared) =
        (gateway.loggerFor (gateway.draft call shared)).withFilter filter := by
    rw [gateway.loggerFor_withBase fixed, loggerFor, loggerFor, metadata_draft_withBase,
      fields_draft_withBase]
  have loggers (filter : Filter) : ((gateway.withBase filter).start call shared).2.2.loggers =
      shared.loggers ++ [(gateway.loggerFor (gateway.draft call shared)).withFilter filter] := by
    rw [loggers_start, drafted]
  have supply (filter : Filter) : ((gateway.withBase filter).start call shared).2.2.supply =
      (gateway.outline call shared).shared.supply := by
    change ((gateway.withBase filter).draft call shared).shared.supply = _
    rw [draft_eq_account_outline, supply_account, outline_withBase]
  rw [cell_start]
  exact
    { known := by simp [loggers, Shared.nextCell]
      quieter := by
        simpa [Shared.logger, loggers, Shared.nextCell, Logger.withFilter] using quieter
      loggers := by
        rw [loggers, loggers]
        exact (List.modifyTailIdx_add (List.modifyHead fun logger => logger.withFilter quiet) 0
          shared.loggers [(gateway.loggerFor (gateway.draft call shared)).withFilter loud]).symm
      marks := by rw [marks_start, marks_start]
      supply := by rw [supply, supply]
      journal := gateway.quieted_draft call shared quieter }

theorem quieted_finish {ticket : Ticket} {early : List Entry} {first second : Shared}
    (quieted : Shared.Quieted quiet ticket.cell early first second) (outcome : Outcome) :
    Shared.Quieted quiet ticket.cell early
      ((gateway.withBase quiet).finish ticket outcome first)
      ((gateway.withBase loud).finish ticket outcome second) := by
  unfold finish
  rw [Shared.isMarked_congr quieted.marks, Shared.reading_congr quieted.supply, quieted.logger]
  split
  · exact quieted
  · have louder : quiet.verbosity ≤ ((second.logger ticket.cell).withFields (outcomeFields
        ⟨second.reading.ticks - ticket.started.ticks⟩ (failure? outcome))).filter.verbosity :=
      quieted.quieter
    exact quieted.tick.log louder _ _

/-- In front of a chain that leaves the call's logger, a quieter gateway hands on the same call
and has the same outcome, and writes the same but for the records that its filter stops. -/
theorem verbosity_only_adds_records (fixed : gateway.config.dynamicLevel = false)
    (quieter : quiet.verbosity ≤ loud.verbosity) {chain : List Link}
    (leaves : ∀ link ∈ chain, link.LeavesLogger) (respond : Request → Outcome) :
    let sent := (gateway.start call shared).2.1
    let less := (gateway.withBase quiet).wrap (serve chain (transport respond)) call shared
    let more := (gateway.withBase loud).wrap (serve chain (transport respond)) call shared
    (∃ before, HandsOn (gateway.withBase quiet).wrap call shared sent before) ∧
    (∃ before, HandsOn (gateway.withBase loud).wrap call shared sent before) ∧
    less.1 = more.1 ∧
    ∃ added, more.2.journal = shared.journal ++ added ∧
      less.2.journal = shared.journal ++ added.filterMap (Entry.quieted quiet) := by
  intro sent less more
  have handed (filter : Filter) :
      HandsOn (gateway.withBase filter).wrap call shared sent
        ((gateway.withBase filter).start call shared).2.2 := by
    have own := (gateway.withBase filter).handsOn_wrap call shared
    rwa [sent_withBase] at own
  have wrapped (filter : Filter) (inner : Service) :
      (gateway.withBase filter).wrap inner call shared =
        let served := inner sent ((gateway.withBase filter).start call shared).2.2
        (served.1, (gateway.withBase filter).finish (gateway.start call shared).1 served.1
          served.2) := by
    rw [wrap, ticket_withBase, sent_withBase]
  have held : sent.extensions.logger? = some (gateway.start call shared).1.cell := rfl
  obtain ⟨outcome, served⟩ := quiets_serve leaves (quiets_transport respond) _ _ sent _ _ held
    (gateway.quieted_start call shared fixed quieter)
  refine ⟨⟨_, handed quiet⟩, ⟨_, handed loud⟩, ?_⟩
  simp only [less, more, wrapped, outcome]
  exact ⟨trivial, (gateway.quieted_finish served _).journal⟩

/-- Of three records of a rejected call, a gateway that shows failures only writes the last. -/
theorem quieter_gateway_records_failure_only :
    let gateway : Gateway := ⟨⟨.off, .empty, .records⟩,
      Config.standard.disableRequestId.withUnverifiedAccountId, .silent⟩
    let chain : List Link :=
      [.interceptor (Interceptor.addingFields (.ofList [("tried", .bool true)]) none),
        .interceptor (Interceptor.doing (.log .debug "passing") none),
        .interceptor (Interceptor.reject ⟨.internal, "broken"⟩)]
    let call : Call := ⟨⟨"/svc.Pkg/Method", "", .empty⟩, .empty⟩
    let shared : Shared := .start (fun _ => ⟨⟨0, 0⟩, 0⟩) fun _ => 0
    let ran (filter : Filter) :=
      (gateway.withBase filter).wrap (serve chain (transport fun _ => .ok "body")) call shared
    (ran (.upTo .error)).1 = (ran (.upTo .trace)).1 ∧
      (ran (.upTo .error)).2.journal =
        (ran (.upTo .trace)).2.journal.filterMap (Entry.quieted (.upTo .error)) ∧
      (ran (.upTo .trace)).2.journal.map Entry.level? =
        [some .info, none, some .debug, some .error] := by
  intro gateway chain call shared ran
  have leaves : ∀ link ∈ chain, link.LeavesLogger := by
    intro link member
    simp only [chain, List.mem_cons, List.not_mem_nil, or_false] at member
    rcases member with rfl | rfl | rfl
    · intro _
      refine .first ?_ fun _ => .first ?_ fun _ => .forward fun _ => .answer _ <;> trivial
    · intro _
      refine .first ?_ fun _ => .forward fun _ => .answer _
      trivial
    · exact fun _ => .answer _
  have quieter : (Filter.upTo .error).verbosity ≤ (Filter.upTo .trace).verbosity := by decide
  obtain ⟨-, -, outcome, added, more, less⟩ :=
    gateway.verbosity_only_adds_records call shared rfl quieter leaves fun _ => .ok "body"
  refine ⟨outcome, ?_, rfl⟩
  rw [less, more]
  rfl

end Gateway

end CallJournal
