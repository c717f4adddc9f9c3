import CallJournal.Proofs.Growth

/-! A sentinel that stays with its call is marked exactly when one of the attempts gets to a
guard. -/

namespace CallJournal

/-- The calls that a plan forwards, each with what all share when it is forwarded. -/
def Plan.attempts (inner : Service) : Plan → Call → Shared → List (Call × Shared)
  | answer _, _, _ => []
  | forward next, call, shared =>
    let served := inner call shared
    (call, shared) :: (next served.1).attempts inner call served.2
  | first act next, call, shared =>
    let done := act.perform call shared
    (next done.1).attempts inner done.2.1 done.2.2

/-- Whether serving a call takes some attempt of it into a transport guard. -/
def ReachesGuard (terminal : Service) : List Link → Call → Shared → Prop
  | [], _, _ => False
  | .transportGuard :: _, _, _ => True
  | .interceptor decide :: rest, call, shared =>
    ∃ attempt ∈ (decide call.request).attempts (serve rest terminal) call shared,
      ReachesGuard terminal rest attempt.1 attempt.2
  | .gateway front :: rest, call, shared =>
    ReachesGuard terminal rest (front.start call shared).2.1 (front.start call shared).2.2

/-- Acts that leave a call the sentinel it has. -/
def Act.keepsSentinel : Act → Bool
  | dropExtensions => false
  | _ => true

/-- Plans that leave a call the sentinel it has, whatever they learn on the way. -/
def Plan.KeepsSentinel : Plan → Prop
  | answer _ => True
  | forward next => ∀ outcome, (next outcome).KeepsSentinel
  | first act next => act.keepsSentinel = true ∧ ∀ reply, (next reply).KeepsSentinel

/-- Links that leave a call the sentinel it has; a further gateway would give it another one. -/
def Link.KeepsSentinel : Link → Prop
  | gateway _ => False
  | transportGuard => True
  | interceptor decide => ∀ request, (decide request).KeepsSentinel

/-- What can stand behind a chain: a service that takes nothing back and sets no marks. -/
structure IsTransport (service : Service) : Prop where
  steady : IsSteady service
  isMarked : ∀ (call : Call) (shared : Shared) (sentinel : Sentinel),
    (service call shared).2.isMarked sentinel = shared.isMarked sentinel

theorem isTransport_transport (respond : Request → Outcome) : IsTransport (transport respond) :=
  ⟨isSteady_transport respond, fun _ _ _ => rfl⟩

@[simp]
theorem Act.marks_perform (act : Act) (call : Call) (shared : Shared) :
    (act.perform call shared).2.2.marks = shared.marks := by
  cases act with
  | addFields fields => exact shared.marks_addFieldsOf call.extensions fields
  | log level message => exact shared.marks_log _ level message
  | set key value => exact shared.marks_setMetadata _ key value
  | _ => rfl

theorem Act.sentinel_perform {act : Act} (keeps : act.keepsSentinel = true) (call : Call)
    (shared : Shared) :
    (act.perform call shared).2.1.extensions.sentinel? = call.extensions.sentinel? := by
  cases act with
  | dropExtensions => cases keeps
  | _ => rfl

/-- A service of which it is known which calls it gets marked: those that carry a sentinel and are
in `reaches` come back marked, and none else. -/
def Marks (reaches : Call → Shared → Prop) (service : Service) : Prop :=
  ∀ (call : Call) (shared : Shared) (sentinel : Sentinel),
    call.extensions.sentinel? = some sentinel → sentinel.index < shared.marks.length →
      ((service call shared).2.isMarked sentinel = true ↔
        shared.isMarked sentinel = true ∨ reaches call shared)

/-- A plan gets its call marked when one of its attempts is; induction on the plan, along which the
call keeps its sentinel. -/
theorem Plan.marks_run {inner : Service} {reaches : Call → Shared → Prop} (steady : IsSteady inner)
    (marks : Marks reaches inner) {plan : Plan} (keeps : plan.KeepsSentinel) :
    Marks (fun call shared => ∃ attempt ∈ plan.attempts inner call shared,
      reaches attempt.1 attempt.2) (plan.run inner) := by
  intro call shared sentinel carried known
  induction plan generalizing call shared with
  | answer outcome => simp [run, attempts]
  | forward next ih =>
    have here := marks call shared sentinel carried known
    have later := ih (inner call shared).1 (keeps _) call (inner call shared).2 carried
      (Nat.lt_of_lt_of_le known (steady call shared).marks)
    simp only [run, attempts, List.mem_cons, exists_eq_or_imp]
    rw [later, here, or_assoc]
  | first act next ih =>
    have later := ih (act.perform call shared).1 (keeps.2 _) (act.perform call shared).2.1
      (act.perform call shared).2.2 ((act.sentinel_perform keeps.1 call shared).trans carried)
      (by rwa [act.marks_perform])
    simp only [run, attempts]
    rw [later, Shared.isMarked, Shared.isMarked, act.marks_perform]

/-- A chain gets a call marked exactly when an attempt of it gets to a guard. -/
theorem marks_serve {terminal : Service} (transport : IsTransport terminal) {chain : List Link}
    (keeps : ∀ link ∈ chain, link.KeepsSentinel) :
    Marks (ReachesGuard terminal chain) (serve chain terminal) := by
  induction chain with
  | nil =>
    intro call shared sentinel _ _
    simp [serve, ReachesGuard, transport.isMarked]
  | cons link rest ih =>
    have inner := ih fun other member => keeps other (List.mem_cons_of_mem link member)
    have steady := isSteady_serve rest transport.steady
    have kept := keeps link List.mem_cons_self
    cases link with
    | gateway front => exact kept.elim
    | transportGuard =>
      intro call shared sentinel carried known
      have marked : (shared.mark sentinel).isMarked sentinel = true :=
        shared.isMarked_mark_same known
      have served : (serve (.transportGuard :: rest) terminal call shared).2.isMarked sentinel =
          true := by
        simp only [serve, List.foldr_cons, Link.wrap, guardTransport, carried]
        exact (steady call (shared.mark sentinel)).marked sentinel marked
      simp [served, ReachesGuard]
    | interceptor decide =>
      intro call shared
      exact Plan.marks_run steady inner (kept call.request) call shared

/-- Entries that tell how a call ended. -/
def Entry.TellsOutcome (entry : Entry) : Prop :=
  ∃ (sink : Sink) (level : Level) (code : StatusCode) (fields : Fields),
    entry = sink.entry ⟨level, Gateway.outcomeMessage code, fields⟩

private theorem head?_append_text {front : String} {first : Char}
    (starts : front.toList.head? = some first) (back : String) :
    (front ++ back).toList.head? = some first := by
  rw [String.toList_append, List.head?_append, starts]
  rfl

theorem Gateway.head?_outcomeMessage (code : StatusCode) :
    (outcomeMessage code).toList.head? = some 'f' :=
  head?_append_text (by decide) _

/-- No failure to find an account reads like the outcome of a call. -/
theorem AuthError.message_ne_outcomeMessage (cause : AuthError) (code : StatusCode) :
    cause.message ≠ Gateway.outcomeMessage code := by
  intro same
  have starts : cause.message.toList.head? = some 'f' := same ▸ Gateway.head?_outcomeMessage code
  have others : cause.message.toList.head? = some 'r' ∨ cause.message.toList.head? = some 'u' ∨
      cause.message.toList.head? = some 'i' := by
    cases cause with
    | missingToken => exact .inl (by decide)
    | unsupportedScheme scheme => exact .inr (.inl (head?_append_text (by decide) _))
    | token fault => exact .inr (.inr (head?_append_text (by decide) _))
    | missingClaim field =>
      exact .inr (.inl (head?_append_text (head?_append_text (by decide) _) _))
    | keyResolution reason => exact .inr (.inl (head?_append_text (by decide) _))
  rw [starts] at others
  exact absurd others (by decide)

theorem Sink.message_of_entry {left right : Sink} {first second : Record}
    (same : left.entry first = right.entry second) : first.message = second.message := by
  cases left <;> cases right <;> simp [entry, Event.ofRecord, Event.ofMessage] at same
  · exact congrArg Record.message same
  · exact same.2.1

theorem Metadata.Refusal.not_tellsOutcome (refusal : Metadata.Refusal) :
    ¬ (Entry.event refusal.event).TellsOutcome := by
  rintro ⟨sink, level, code, fields, same⟩
  cases sink <;> cases refusal <;>
    simp [Sink.entry, event, Event.ofRecord, Event.ofMessage, Event.callTarget] at same

namespace Gateway

variable (gateway : Gateway) (call : Call) (shared : Shared)

theorem journal_identify (fields : Fields) : ∃ refusals : List Metadata.Refusal,
    (gateway.identify call fields shared).shared.journal =
      shared.journal ++ refusals.map fun refusal => .event refusal.event := by
  have chosen : (chooseId call shared).2.journal = shared.journal := by
    unfold chooseId
    split <;> rfl
  unfold identify
  split
  · exact ⟨[], by simp⟩
  · simp only [Shared.setMetadata]
    split
    · exact ⟨[], by simp [chosen]⟩
    · rename_i refusal _
      exact ⟨[refusal], by simp [Shared.emit, Shared.enter, chosen]⟩

theorem journal_account (now : Int) (draft : Draft) : ∃ causes : List AuthError,
    (gateway.account now draft).shared.journal = draft.shared.journal ++
      causes.filterMap fun cause =>
        (gateway.logger.record? .info cause.message).map gateway.logger.sink.entry := by
  unfold account
  split
  · split
    · exact ⟨[], by simp⟩
    · rename_i cause _
      refine ⟨[cause], ?_⟩
      simp only [Shared.journal_log, List.filterMap_cons]
      split <;> simp_all
  · exact ⟨[], by simp⟩

/-- Before a call goes on its gateway writes nothing that tells of an outcome. -/
theorem journal_start : ∃ before, (gateway.start call shared).2.2.journal =
    shared.journal ++ before ∧ ∀ entry ∈ before, ¬ entry.TellsOutcome := by
  obtain ⟨refusals, identified⟩ := gateway.journal_identify call shared.tick
    (call.request.knownFields shared.reading.time)
  obtain ⟨causes, accounted⟩ := gateway.journal_account shared.reading.time.seconds <|
    gateway.flag <| gateway.identify call (call.request.knownFields shared.reading.time) shared.tick
  have whole : (gateway.start call shared).2.2.journal =
      (gateway.draft call shared).shared.journal := rfl
  refine ⟨refusals.map (fun refusal => .event refusal.event) ++ causes.filterMap fun cause =>
    (gateway.logger.record? .info cause.message).map gateway.logger.sink.entry, ?_, ?_⟩
  · rw [whole, draft, accounted, flag, identified, List.append_assoc]
    rfl
  · intro entry member
    rcases List.mem_append.mp member with refused | failed
    · obtain ⟨refusal, _, rfl⟩ := List.mem_map.mp refused
      exact refusal.not_tellsOutcome
    · obtain ⟨cause, _, written⟩ := List.mem_filterMap.mp failed
      obtain ⟨record, passed, rfl⟩ := Option.map_eq_some_iff.mp written
      rintro ⟨sink, level, code, fields, same⟩
      have message : record.message = cause.message := by
        simp only [Logger.record?] at passed
        split at passed <;> cases passed
        rfl
      exact cause.message_ne_outcomeMessage code (message ▸ Sink.message_of_entry same)

theorem finish_of_marked {ticket : Ticket} (outcome : Outcome)
    (marked : shared.isMarked ticket.sentinel = true) :
    gateway.finish ticket outcome shared = shared := by
  simp [finish, marked]

theorem journal_finish {ticket : Ticket} (outcome : Outcome)
    (unmarked : shared.isMarked ticket.sentinel = false) :
    (gateway.finish ticket outcome shared).journal = shared.journal ++
      if (shared.logger ticket.cell).passes (gateway.config.levelOf outcome.code) then
        [(shared.logger ticket.cell).sink.entry
          ⟨gateway.config.levelOf outcome.code, outcomeMessage outcome.code,
            (shared.logger ticket.cell).fields.merge
              (outcomeFields ⟨shared.reading.ticks - ticket.started.ticks⟩ (failure? outcome))⟩]
      else [] := by
  simp only [finish, unmarked, Bool.false_eq_true, if_false, Shared.journal_log, Logger.record?,
    Logger.passes, Logger.withFields]
  by_cases passes : (shared.logger ticket.cell).filter.passes
      (gateway.config.levelOf outcome.code) = true
  · simp [passes, Shared.tick]
  · simp [passes, Shared.tick]

/-- The gateway records how a call ended, once and behind everything else, exactly when no attempt
of it got to a transport guard and the logger lets the level pass. -/
theorem records_outcome_iff_no_guard_reached {terminal : Service} (transport : IsTransport terminal)
    {chain : List Link} (keeps : ∀ link ∈ chain, link.KeepsSentinel) :
    let started := gateway.start call shared
    let answered := serve chain terminal started.2.1 started.2.2
    let ended := serve (.gateway gateway :: chain) terminal call shared
    let level := gateway.config.levelOf ended.1.code
    let isDue := ¬ ReachesGuard terminal chain started.2.1 started.2.2 ∧
      (started.2.2.loggerOf started.2.1.extensions).passes level = true
    ended.1 = answered.1 ∧
      ∃ before during after,
        started.2.2.journal = shared.journal ++ before ∧
        answered.2.journal = started.2.2.journal ++ during ∧
        ended.2.journal = answered.2.journal ++ after ∧
        (∀ entry ∈ before, ¬ entry.TellsOutcome) ∧
        (isDue → ∃ fields, after =
          [gateway.logger.sink.entry ⟨level, outcomeMessage ended.1.code, fields⟩]) ∧
        (¬ isDue → after = []) := by
  intro started answered ended level isDue
  have final : ended.2 = gateway.finish started.1 answered.1 answered.2 := rfl
  obtain ⟨before, first, silent⟩ := gateway.journal_start call shared
  have grown : started.2.2.Grows answered.2 := isSteady_serve chain transport.steady _ _
  obtain ⟨during, second⟩ := grown.journal
  -- The sentinel is new, so only an attempt that got to a guard can have marked it.
  have marked := marks_serve transport keeps started.2.1 started.2.2 started.1.sentinel rfl
    (gateway.sentinel_start_lt call shared)
  rw [gateway.isMarked_start, Bool.false_eq_true, false_or] at marked
  -- What the cell holds by now is the logger that the call began with, but for its fields.
  have held : started.2.2.logger started.1.cell =
      started.2.2.loggerOf started.2.1.extensions := rfl
  have known := gateway.cell_start_lt call shared
  have sink : (answered.2.logger started.1.cell).sink = gateway.logger.sink := by
    rw [grown.sink started.1.cell known, held, gateway.loggerOf_start]
    rfl
  have passes : (answered.2.logger started.1.cell).passes (gateway.config.levelOf answered.1.code) =
      (started.2.2.loggerOf started.2.1.extensions).passes level := by
    rw [Logger.passes, Logger.passes, grown.filter started.1.cell known, held]
    rfl
  by_cases reached : ReachesGuard terminal chain started.2.1 started.2.2
  · have quiet := gateway.finish_of_marked answered.2 answered.1 (marked.mpr reached)
    refine ⟨rfl, before, during, [], first, second.symm, ?_, silent, ?_, fun _ => rfl⟩
    · rw [final, quiet, List.append_nil]
    · exact fun due => absurd reached due.1
  · have unmarked : answered.2.isMarked started.1.sentinel = false :=
      Bool.eq_false_iff.mpr fun set => reached (marked.mp set)
    refine ⟨rfl, before, during, _, first, second.symm,
      gateway.journal_finish answered.2 answered.1 unmarked, silent, ?_, ?_⟩
    · intro due
      rw [if_pos (passes.trans due.2), sink]
      exact ⟨_, rfl⟩
    · intro due
      exact if_neg fun pass => due ⟨reached, passes.symm.trans pass⟩

end Gateway

/-- Forwards a call that has failed once more. -/
def Interceptor.retrying : Interceptor := fun _ =>
  .forward fun outcome => match outcome with
    | .ok body => .answer (.ok body)
    | .error _ => .forward .answer

/-- A call that brings a marked sentinel is left to the server when it is tried twice, and
recorded when it is rejected before the guard. -/
theorem Gateway.records_reused_call_iff_rejected :
    let gateway : Gateway := ⟨.standard, .standard, .silent⟩
    let terminal : Service := transport fun _ => .error ⟨.unavailable, "down"⟩
    let call : Call := ⟨⟨"/svc.Pkg/Method", "", .empty⟩, ⟨none, some ⟨0⟩, none⟩⟩
    let shared : Shared := (Shared.start (fun _ => ⟨⟨0, 0⟩, 0⟩) fun _ => 0).addSentinel.mark ⟨0⟩
    let retried : List Link := [.interceptor .retrying, .transportGuard]
    let rejected : List Link :=
      [.interceptor (.reject ⟨.unauthenticated, "missing token"⟩), .transportGuard]
    let started := gateway.start call shared
    IsTransport terminal ∧ (∀ link ∈ retried, link.KeepsSentinel) ∧
      (∀ link ∈ rejected, link.KeepsSentinel) ∧
      (serve (.gateway gateway :: retried) terminal call shared).2.journal =
        (serve retried terminal started.2.1 started.2.2).2.journal ∧
      ∃ fields, (serve (.gateway gateway :: rejected) terminal call shared).2.journal =
        (serve rejected terminal started.2.1 started.2.2).2.journal ++
          [.event (.ofRecord ⟨.info, outcomeMessage .unauthenticated, fields⟩)] := by
  intro gateway terminal call shared retried rejected started
  have transport : IsTransport terminal := isTransport_transport _
  have keepsRetried : ∀ link ∈ retried, link.KeepsSentinel := by
    intro link member
    simp only [retried, List.mem_cons, List.not_mem_nil, or_false] at member
    rcases member with rfl | rfl
    · intro request outcome
      cases outcome <;> simp [Plan.KeepsSentinel]
    · trivial
  have keepsRejected : ∀ link ∈ rejected, link.KeepsSentinel := by
    intro link member
    simp only [rejected, List.mem_cons, List.not_mem_nil, or_false] at member
    rcases member with rfl | rfl
    · exact fun request => trivial
    · trivial
  refine ⟨transport, keepsRetried, keepsRejected, ?_, ?_⟩
  · obtain ⟨_, _, _, after, _, _, whole, _, _, quiet⟩ :=
      gateway.records_outcome_iff_no_guard_reached call shared transport keepsRetried
    have reached : ReachesGuard terminal retried started.2.1 started.2.2 :=
      ⟨_, List.mem_cons_self, trivial⟩
    rw [whole, quiet fun due => due.1 reached, List.append_nil]
  · obtain ⟨_, _, _, after, _, _, whole, _, told, _⟩ :=
      gateway.records_outcome_iff_no_guard_reached call shared transport keepsRejected
    have unreached : ¬ ReachesGuard terminal rejected started.2.1 started.2.2 := by
      rintro ⟨attempt, member, _⟩
      cases member
    have failed : (serve (.gateway gateway :: rejected) terminal call shared).1 =
        .error ⟨.unauthenticated, "missing token"⟩ := rfl
    rw [failed, gateway.loggerOf_start] at told
    obtain ⟨fields, only⟩ := told ⟨unreached, rfl⟩
    exact ⟨fields, whole.trans (congrArg _ only)⟩

end CallJournal
