import CallJournal.Chain
import Mathlib.Data.List.Forall2

/-! Two runs that differ in one field of loggers and records. A chain overlooks what its
interceptors and its service overlook. -/

namespace CallJournal

section Values

variable {name : String}

/-- The same in every field but one. -/
def Fields.Alike (name : String) (first second : Fields) : Prop :=
  ∀ other, other ≠ name → first.get? other = second.get? other

theorem Fields.Alike.refl (fields : Fields) : fields.Alike name fields := fun _ _ => rfl

theorem Fields.Alike.merge {first second : Fields} (alike : first.Alike name second)
    {newer others : Fields} (additions : newer.Alike name others) :
    (first.merge newer).Alike name (second.merge others) := by
  intro other differs
  rw [get?_merge, get?_merge, alike other differs, additions other differs]

theorem Fields.alike_insert (fields : Fields) (value : Json) :
    (fields.insert name value).Alike name fields := by
  intro other differs
  rw [get?_insert, if_neg differs]

structure Logger.Alike (name : String) (first second : Logger) : Prop where
  filter : first.filter = second.filter
  sink : first.sink = second.sink
  fields : first.fields.Alike name second.fields

theorem Logger.Alike.refl (logger : Logger) : logger.Alike name logger :=
  ⟨rfl, rfl, .refl logger.fields⟩

theorem Logger.Alike.withFields {first second : Logger} (alike : first.Alike name second)
    {fields others : Fields} (additions : fields.Alike name others) :
    (first.withFields fields).Alike name (second.withFields others) :=
  ⟨alike.filter, alike.sink, alike.fields.merge additions⟩

theorem Logger.alike_withField (logger : Logger) (value : Json) :
    (logger.withField name value).Alike name logger :=
  ⟨rfl, rfl, logger.fields.alike_insert value⟩

/-- The same happened, with records and loggers that may differ in one field. -/
inductive Entry.Alike (name : String) : Entry → Entry → Prop where
  | same (entry : Entry) : Alike name entry entry
  | logged (sink : Sink) (level : Level) (message : String) {first second : Fields}
      (fields : first.Alike name second) :
      Alike name (sink.entry ⟨level, message, first⟩) (sink.entry ⟨level, message, second⟩)
  | sighted (sighting : Sighting) {first second : Logger} (logger : first.Alike name second) :
      Alike name (.sighting { sighting with logger := first })
        (.sighting { sighting with logger := second })

end Values

/-- What is shared in two runs is the same but for one field. Of the journals this is asked from
certain moments on, before which they were `early` and `late`. -/
structure Shared.Alike (name : String) (early late : List Entry) (first second : Shared) :
    Prop where
  loggers : List.Forall₂ (Logger.Alike name) first.loggers second.loggers
  marks : first.marks = second.marks
  supply : first.supply = second.supply
  journal : ∃ added others, first.journal = early ++ added ∧ second.journal = late ++ others ∧
    List.Forall₂ (Entry.Alike name) added others

namespace Shared.Alike

variable {name : String} {early late : List Entry} {first second : Shared}

theorem nextCell (alike : Alike name early late first second) :
    first.nextCell = second.nextCell :=
  congrArg LoggerCell.mk alike.loggers.length_eq

theorem logger (alike : Alike name early late first second) (cell : LoggerCell) :
    (first.logger cell).Alike name (second.logger cell) := by
  have each : ∀ {loggers others : List Logger}, List.Forall₂ (Logger.Alike name) loggers others →
      ∀ index, (loggers.getD index .standard).Alike name (others.getD index .standard) := by
    intro loggers others pairs
    induction pairs with
    | nil => exact fun _ => .refl _
    | cons head _ ih =>
      intro index
      cases index with
      | zero => exact head
      | succ index => exact ih index
  exact each alike.loggers cell.index

theorem loggerOf (alike : Alike name early late first second) (extensions : Extensions) :
    (first.loggerOf extensions).Alike name (second.loggerOf extensions) := by
  unfold Shared.loggerOf
  cases extensions.logger? with
  | none => exact .refl _
  | some cell => exact alike.logger cell

theorem reading (alike : Alike name early late first second) : first.reading = second.reading :=
  Shared.reading_congr alike.supply

theorem seed (alike : Alike name early late first second) : first.seed = second.seed :=
  Shared.seed_congr alike.supply

theorem isMarked (alike : Alike name early late first second) (sentinel : Sentinel) :
    first.isMarked sentinel = second.isMarked sentinel :=
  Shared.isMarked_congr alike.marks sentinel

theorem markOf (alike : Alike name early late first second) (extensions : Extensions) :
    first.markOf extensions = second.markOf extensions :=
  Shared.markOf_congr alike.marks extensions

theorem enter (alike : Alike name early late first second) {entry other : Entry}
    (same : entry.Alike name other) :
    Alike name early late (first.enter entry) (second.enter other) := by
  obtain ⟨added, others, before, after, pairs⟩ := alike.journal
  refine ⟨alike.loggers, alike.marks, alike.supply, added ++ [entry], others ++ [other], ?_, ?_, ?_⟩
  · rw [Shared.enter, before, List.append_assoc]
  · rw [Shared.enter, after, List.append_assoc]
  · exact List.rel_append pairs (.cons same .nil)

theorem log (alike : Alike name early late first second) {writer other : Logger}
    (same : writer.Alike name other) (level : Level) (message : String) :
    Alike name early late (first.log writer level message) (second.log other level message) := by
  obtain ⟨filter, sink, fields⟩ := same
  unfold Shared.log Logger.record? Logger.passes
  rw [filter]
  by_cases passes : other.filter.passes level = true
  · rw [if_pos passes, if_pos passes]
    have entered := alike.enter (.logged other.sink level message fields)
    rwa [← sink] at entered ⊢
  · rw [if_neg passes, if_neg passes]
    exact alike

theorem tick (alike : Alike name early late first second) :
    Alike name early late first.tick second.tick where
  loggers := alike.loggers
  marks := alike.marks
  supply := by rw [Shared.tick, alike.supply]; rfl
  journal := alike.journal

theorem draw (alike : Alike name early late first second) :
    Alike name early late first.draw second.draw where
  loggers := alike.loggers
  marks := alike.marks
  supply := by rw [Shared.draw, alike.supply]; rfl
  journal := alike.journal

theorem addCell (alike : Alike name early late first second) {added other : Logger}
    (same : added.Alike name other) :
    Alike name early late (first.addCell added) (second.addCell other) :=
  { alike with loggers := List.rel_append alike.loggers (.cons same .nil) }

theorem addSentinel (alike : Alike name early late first second) :
    Alike name early late first.addSentinel second.addSentinel :=
  { alike with marks := congrArg (· ++ [false]) alike.marks }

theorem markCarried (alike : Alike name early late first second) (extensions : Extensions) :
    Alike name early late (first.markCarried extensions) (second.markCarried extensions) := by
  unfold Shared.markCarried
  cases extensions.sentinel? with
  | none => exact alike
  | some sentinel =>
    exact { alike with marks := congrArg (List.set · sentinel.index true) alike.marks }

theorem addFieldsOf (alike : Alike name early late first second) (extensions : Extensions)
    {fields others : Fields} (additions : fields.Alike name others) :
    Alike name early late (first.addFieldsOf extensions fields)
      (second.addFieldsOf extensions others) := by
  have modified : ∀ {loggers standing : List Logger},
      List.Forall₂ (Logger.Alike name) loggers standing → ∀ index,
      List.Forall₂ (Logger.Alike name) (loggers.modify index (·.withFields fields))
        (standing.modify index (·.withFields others)) := by
    intro loggers standing pairs
    induction pairs with
    | nil =>
      intro index
      rw [List.modify_nil, List.modify_nil]
      exact .nil
    | cons head tail ih =>
      intro index
      cases index with
      | zero => exact .cons (head.withFields additions) tail
      | succ index => exact .cons head (ih index)
  unfold Shared.addFieldsOf
  cases extensions.logger? with
  | none => exact alike
  | some cell => exact { alike with loggers := modified alike.loggers cell.index }

theorem setMetadata (alike : Alike name early late first second) (metadata : Metadata)
    (key value : String) :
    (first.setMetadata metadata key value).1 = (second.setMetadata metadata key value).1 ∧
      Alike name early late (first.setMetadata metadata key value).2
        (second.setMetadata metadata key value).2 := by
  unfold Shared.setMetadata
  cases metadata.set key value with
  | ok changed => exact ⟨rfl, alike⟩
  | error refusal => exact ⟨rfl, alike.enter (.same _)⟩

theorem see (alike : Alike name early late first second) (place : Place) (call : Call) :
    Alike name early late (first.see place call) (second.see place call) := by
  let sighting : Sighting :=
    { place
      request := call.request
      logger := second.loggerOf call.extensions
      marked? := second.markOf call.extensions
      requestId? := call.extensions.requestId?
      sentinel? := call.extensions.sentinel? }
  rw [Shared.see, Shared.see, alike.markOf call.extensions]
  exact alike.enter (.sighted sighting (alike.loggerOf call.extensions))

end Shared.Alike

/-- A service that comes back with the same outcome from runs that differ in one field, and lets
them differ in nothing else. -/
def Overlooks (name : String) (service : Service) : Prop :=
  ∀ (call : Call) (early late : List Entry) (first second : Shared),
    Shared.Alike name early late first second →
    (service call first).1 = (service call second).1 ∧
      Shared.Alike name early late (service call first).2 (service call second).2

section Plans

variable {name : String}

/-- What is learnt in two runs by one act is the same, but for the field in a logger. -/
def Act.RepliesAlike (name : String) : (act : Act) → act.Reply → act.Reply → Prop
  | readLogger => Logger.Alike name
  | addFields _ | consult | log _ _ | attach _ | set _ _ | edit _ | dropExtensions | look
  | tell _ => Eq

/-- Plans that are followed in two runs without a difference but for one field, which may be
handed on to a logger. -/
inductive Plan.Alike (name : String) : Plan → Plan → Prop where
  | answer (outcome : Outcome) : Alike name (.answer outcome) (.answer outcome)
  | forward {next other : Outcome → Plan}
      (each : ∀ outcome, Alike name (next outcome) (other outcome)) :
      Alike name (.forward next) (.forward other)
  | first (act : Act) {next other : act.Reply → Plan}
      (each : ∀ reply answer, act.RepliesAlike name reply answer →
        Alike name (next reply) (other answer)) :
      Alike name (.first act next) (.first act other)
  | attach {logger replacement : Logger} (same : logger.Alike name replacement)
      {next other : Unit → Plan} (rest : Alike name (next ()) (other ())) :
      Alike name (.first (.attach logger) next) (.first (.attach replacement) other)
  | addFields {fields additions : Fields} (same : fields.Alike name additions)
      {next other : Bool → Plan} (each : ∀ found, Alike name (next found) (other found)) :
      Alike name (.first (.addFields fields) next) (.first (.addFields additions) other)

/-- Whoever does not ask for the logger of a call learns the same in both runs. -/
theorem Act.eq_of_repliesAlike {act : Act} (blind : act ≠ .readLogger) {reply answer : act.Reply}
    (alike : act.RepliesAlike name reply answer) : reply = answer := by
  cases act with
  | readLogger => exact absurd rfl blind
  | _ => exact alike

/-- Plans that never ask for the logger of a call. -/
inductive Plan.IsBlind : Plan → Prop where
  | answer (outcome : Outcome) : IsBlind (.answer outcome)
  | forward {next : Outcome → Plan} (each : ∀ outcome, IsBlind (next outcome)) :
      IsBlind (.forward next)
  | first {act : Act} (blind : act ≠ .readLogger) {next : act.Reply → Plan}
      (each : ∀ reply, IsBlind (next reply)) : IsBlind (.first act next)

theorem Plan.IsBlind.alike {plan : Plan} (blind : plan.IsBlind) : plan.Alike name plan := by
  induction blind with
  | answer outcome => exact .answer outcome
  | forward each ih => exact .forward ih
  | first unread each ih =>
    refine .first _ fun reply answer same => ?_
    obtain rfl := Act.eq_of_repliesAlike unread same
    exact ih reply

variable {early late : List Entry} {first second : Shared}

/-- One act in two runs: what is learnt, how the call goes on, and what is shared then. -/
theorem Act.alike_perform (act : Act) (call : Call)
    (alike : Shared.Alike name early late first second) :
    act.RepliesAlike name (act.perform call first).1 (act.perform call second).1 ∧
      (act.perform call first).2.1 = (act.perform call second).2.1 ∧
      Shared.Alike name early late (act.perform call first).2.2 (act.perform call second).2.2 := by
  cases act with
  | addFields fields => exact ⟨rfl, rfl, alike.addFieldsOf call.extensions (.refl fields)⟩
  | readLogger => exact ⟨alike.loggerOf call.extensions, rfl, alike⟩
  | consult => exact ⟨alike.seed, rfl, alike.draw⟩
  | log level message => exact ⟨rfl, rfl, alike.log (alike.loggerOf call.extensions) level message⟩
  | attach logger =>
    refine ⟨rfl, ?_, alike.addCell (.refl logger)⟩
    simp only [perform, alike.nextCell]
  | set key value =>
    obtain ⟨metadata, kept⟩ := alike.setMetadata call.request.metadata key value
    refine ⟨rfl, ?_, kept⟩
    simp only [perform, metadata]
  | edit change => exact ⟨rfl, rfl, alike⟩
  | dropExtensions => exact ⟨rfl, rfl, alike⟩
  | look => exact ⟨rfl, rfl, alike.see .interceptor call⟩
  | tell found => exact ⟨rfl, rfl, alike.enter (.same _)⟩

/-- Plans that are alike end alike, as long as the service behind them overlooks the field. -/
theorem Plan.Alike.run {plan other : Plan} (plans : plan.Alike name other) {inner : Service}
    (overlooks : Overlooks name inner) (call : Call)
    (alike : Shared.Alike name early late first second) :
    (plan.run inner call first).1 = (other.run inner call second).1 ∧
      Shared.Alike name early late (plan.run inner call first).2
        (other.run inner call second).2 := by
  -- On the pair of plans, for all that may be shared by then: every act changes it.
  induction plans generalizing call first second with
  | answer outcome => exact ⟨rfl, alike⟩
  | forward each ih =>
    obtain ⟨outcome, served⟩ := overlooks call early late first second alike
    rw [Plan.run, Plan.run, outcome]
    exact ih _ call served
  | first act each ih =>
    obtain ⟨replies, sent, done⟩ := act.alike_perform call alike
    rw [Plan.run, Plan.run, sent]
    exact ih _ _ replies _ done
  | attach same rest ih =>
    simp only [Plan.run, Act.perform, alike.nextCell]
    exact ih _ (alike.addCell same)
  | addFields same each ih => exact ih _ call (alike.addFieldsOf call.extensions same)

end Plans

namespace Gateway

variable {name : String} {early late : List Entry} {first second : Shared}
variable (gateway : Gateway) (call : Call)

theorem alike_chooseId (alike : Shared.Alike name early late first second) :
    (chooseId call first).1 = (chooseId call second).1 ∧
      Shared.Alike name early late (chooseId call first).2 (chooseId call second).2 := by
  unfold chooseId
  cases carriedId? call with
  | some id => exact ⟨rfl, alike⟩
  | none => exact ⟨congrArg RequestId.ofSeed alike.seed, alike.draw⟩

structure Draft.Alike (name : String) (early late : List Entry) (draft other : Draft) : Prop where
  metadata : draft.metadata = other.metadata
  fields : draft.fields = other.fields
  shared : Shared.Alike name early late draft.shared other.shared

theorem alike_identify (fields : Fields) (alike : Shared.Alike name early late first second) :
    (gateway.identify call fields first).Alike name early late
      (gateway.identify call fields second) := by
  unfold identify
  split
  · exact ⟨rfl, rfl, alike⟩
  · obtain ⟨same, chosen⟩ := alike_chooseId call alike
    obtain ⟨metadata, sent⟩ := chosen.setMetadata call.request.metadata RequestId.header
      (chooseId call second).1.text
    simp only [same]
    exact ⟨metadata, rfl, sent⟩

theorem alike_flag {draft other : Draft} (alike : draft.Alike name early late other) :
    (gateway.flag draft).Alike name early late (gateway.flag other) := by
  obtain ⟨metadata, fields, shared⟩ := alike
  refine ⟨metadata, ?_, shared⟩
  rw [flag, flag, metadata, fields]

theorem alike_account (now : Int) {draft other : Draft}
    (alike : draft.Alike name early late other) :
    (gateway.account now draft).Alike name early late (gateway.account now other) := by
  obtain ⟨metadata, fields, shared⟩ := alike
  unfold account
  rw [metadata, fields]
  split
  · cases Token.accountId gateway.libraries other.metadata gateway.config.keyfunc? now with
    | ok account => exact ⟨rfl, rfl, shared⟩
    | error cause => exact ⟨rfl, rfl, shared.log (.refl gateway.logger) .info cause.message⟩
  · exact ⟨metadata, fields, shared⟩

theorem alike_draft (alike : Shared.Alike name early late first second) :
    (gateway.draft call first).Alike name early late (gateway.draft call second) := by
  rw [draft, draft, alike.reading]
  exact gateway.alike_account _ (gateway.alike_flag (gateway.alike_identify call _ alike.tick))

theorem alike_start (alike : Shared.Alike name early late first second) :
    (gateway.start call first).1 = (gateway.start call second).1 ∧
      (gateway.start call first).2.1 = (gateway.start call second).2.1 ∧
      Shared.Alike name early late (gateway.start call first).2.2
        (gateway.start call second).2.2 := by
  obtain ⟨metadata, fields, shared⟩ := gateway.alike_draft call alike
  have logger : gateway.loggerFor (gateway.draft call first) =
      gateway.loggerFor (gateway.draft call second) := by
    rw [loggerFor, loggerFor, metadata, fields]
  have attached := shared.addCell (.refl (gateway.loggerFor (gateway.draft call second)))
  have sentinel : Shared.nextSentinel _ = Shared.nextSentinel _ :=
    congrArg (fun marks : List Bool => Sentinel.mk marks.length) attached.marks
  refine ⟨?_, ?_, ?_⟩
  · simp only [start, alike.reading, logger, shared.nextCell, sentinel]
  · simp only [start, metadata, logger, shared.nextCell, sentinel]
  · simp only [start, logger]
    exact attached.addSentinel

theorem alike_finish (ticket : Ticket) (outcome : Outcome)
    (alike : Shared.Alike name early late first second) :
    Shared.Alike name early late (gateway.finish ticket outcome first)
      (gateway.finish ticket outcome second) := by
  unfold finish
  rw [alike.isMarked ticket.sentinel, alike.reading]
  split
  · exact alike
  · exact alike.tick.log ((alike.logger ticket.cell).withFields (.refl _)) _ _

theorem overlooks_wrap {inner : Service} (overlooks : Overlooks name inner) :
    Overlooks name (gateway.wrap inner) := by
  intro call early late first second alike
  obtain ⟨ticket, sent, started⟩ := gateway.alike_start call alike
  obtain ⟨outcome, served⟩ := overlooks (gateway.start call second).2.1 early late _ _ started
  rw [wrap, wrap, ticket, sent, outcome]
  exact ⟨rfl, gateway.alike_finish _ _ served⟩

end Gateway

variable {name : String}

theorem overlooks_guardTransport {inner : Service} (overlooks : Overlooks name inner) :
    Overlooks name (guardTransport inner) := by
  intro call early late first second alike
  rw [guardTransport_eq, guardTransport_eq]
  exact overlooks call early late _ _ (alike.markCarried call.extensions)

theorem overlooks_transport (respond : Request → Outcome) : Overlooks name (transport respond) :=
  fun call _ _ _ _ alike => ⟨rfl, alike.see .transport call⟩

/-- Gateways and guards read no fields; an interceptor must not go by the field of the name. -/
def Link.Overlooks (name : String) : Link → Prop
  | gateway _ | transportGuard => True
  | interceptor decide => ∀ request, (decide request).Alike name (decide request)

theorem Link.overlooks_wrap {link : Link} (blind : link.Overlooks name) {inner : Service}
    (overlooks : CallJournal.Overlooks name inner) :
    CallJournal.Overlooks name (link.wrap inner) := by
  cases link with
  | gateway front => exact front.overlooks_wrap overlooks
  | transportGuard => exact overlooks_guardTransport overlooks
  | interceptor decide =>
    exact fun call _ _ _ _ alike => (blind call.request).run overlooks call alike

/-- A chain overlooks what its links and the service behind it overlook; induction on the chain. -/
theorem overlooks_serve {chain : List Link} (blind : ∀ link ∈ chain, link.Overlooks name)
    {inner : Service} (overlooks : Overlooks name inner) : Overlooks name (serve chain inner) := by
  induction chain with
  | nil => exact overlooks
  | cons link rest ih =>
    have behind := ih fun other member => blind other (List.mem_cons_of_mem link member)
    exact Link.overlooks_wrap (blind link List.mem_cons_self) behind

end CallJournal
