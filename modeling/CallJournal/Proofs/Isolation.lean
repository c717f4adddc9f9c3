import CallJournal.Proofs.OutcomeRecord
import CallJournal.Traffic
import Mathlib.Data.List.Induction

/-! The cells of two callers are never the same, so a move shows in the view of its own caller
only. -/

namespace CallJournal

namespace Shared

/-- What was shared before, with what has been written and taken from the supply since. -/
def upon (recent ground : Shared) : Shared :=
  { ground with journal := ground.journal ++ recent.journal, supply := recent.supply }

variable (recent ground : Shared)

theorem upon_self : upon ⟨[], [], [], ground.supply⟩ ground = ground := by
  simp [upon]

theorem enter_upon (entry : Entry) :
    (recent.upon ground).enter entry = (recent.enter entry).upon ground := by
  simp [enter, upon]

theorem log_upon (logger : Logger) (level : Level) (message : String) :
    (recent.upon ground).log logger level message =
      (recent.log logger level message).upon ground := by
  unfold log
  split
  · exact enter_upon recent ground _
  · rfl

theorem setMetadata_upon (metadata : Metadata) (key value : String) :
    (recent.upon ground).setMetadata metadata key value =
      ((recent.setMetadata metadata key value).1,
        (recent.setMetadata metadata key value).2.upon ground) := by
  unfold setMetadata
  split
  · rfl
  · exact congrArg (metadata, ·) (enter_upon recent ground _)

end Shared

namespace Gateway

def Draft.upon (draft : Draft) (ground : Shared) : Draft :=
  { draft with shared := draft.shared.upon ground }

variable (gateway : Gateway) (call : Call) (recent ground : Shared)

theorem chooseId_upon : chooseId call (recent.upon ground) =
    ((chooseId call recent).1, (chooseId call recent).2.upon ground) := by
  unfold chooseId
  split <;> rfl

theorem identify_upon (fields : Fields) : gateway.identify call fields (recent.upon ground) =
    (gateway.identify call fields recent).upon ground := by
  unfold identify
  split
  · rfl
  · simp only [chooseId_upon, Shared.setMetadata_upon, Draft.upon]

theorem account_upon (now : Int) (draft : Draft) :
    gateway.account now (draft.upon ground) = (gateway.account now draft).upon ground := by
  simp only [account, Draft.upon]
  split
  · split
    · rfl
    · simp only [Shared.log_upon]
  · rfl

/-- What is found out about a call does not depend on what other calls have left behind. -/
theorem draft_upon :
    gateway.draft call (recent.upon ground) = (gateway.draft call recent).upon ground := by
  have identified := gateway.identify_upon call recent.tick ground
    (call.request.knownFields recent.reading.time)
  have accounted := gateway.account_upon ground recent.reading.time.seconds <|
    gateway.flag <| gateway.identify call (call.request.knownFields recent.reading.time) recent.tick
  exact (congrArg (fun draft => gateway.account recent.reading.time.seconds (gateway.flag draft))
    identified).trans accounted

def soleDraft (supply : Supply) : Draft := gateway.draft call ⟨[], [], [], supply⟩

theorem draft_eq (shared : Shared) :
    gateway.draft call shared = (gateway.soleDraft call shared.supply).upon shared := by
  rw [soleDraft, ← draft_upon, Shared.upon_self]

end Gateway

namespace Journey

variable (gateway : Gateway)

structure IsHeld (journey : Journey) (shared : Shared) : Prop where
  cell : journey.ticket.cell.index < shared.loggers.length
  sentinel : journey.ticket.sentinel.index < shared.marks.length

structure IsApart (journey other : Journey) : Prop where
  cell : journey.ticket.cell ≠ other.ticket.cell
  sentinel : journey.ticket.sentinel ≠ other.ticket.sentinel

theorem IsApart.symm {journey other : Journey} (apart : journey.IsApart other) :
    other.IsApart journey :=
  ⟨apart.cell.symm, apart.sentinel.symm⟩

theorem IsHeld.grow {journey : Journey} {before after : Shared} (held : journey.IsHeld before)
    (grown : before.Grows after) : journey.IsHeld after :=
  ⟨Nat.lt_of_lt_of_le held.cell grown.loggers, Nat.lt_of_lt_of_le held.sentinel grown.marks⟩

theorem IsHeld.supplied {journey : Journey} {shared : Shared} (held : journey.IsHeld shared)
    (supply : Supply) : journey.IsHeld (shared.supplied supply) :=
  ⟨held.cell, held.sentinel⟩

theorem loggerOf_extensions (journey : Journey) (shared : Shared) :
    shared.loggerOf journey.call.extensions = shared.logger journey.ticket.cell := by
  rw [Shared.loggerOf, journey.cell]

theorem markOf_extensions (journey : Journey) (shared : Shared) :
    shared.markOf journey.call.extensions = some (shared.isMarked journey.ticket.sentinel) := by
  rw [Shared.markOf, journey.sentinel, Option.map_some]

theorem addFieldsOf_extensions (journey : Journey) (shared : Shared) (fields : Fields) :
    shared.addFieldsOf journey.call.extensions fields =
      shared.addFields journey.ticket.cell fields := by
  rw [Shared.addFieldsOf, journey.cell]

theorem markCarried_extensions (journey : Journey) (shared : Shared) :
    shared.markCarried journey.call.extensions = shared.mark journey.ticket.sentinel := by
  rw [Shared.markCarried, journey.sentinel]

/-- The view of a call changes with what is in its cells and with nothing else that is shared. -/
theorem view_congr {journey : Journey} {before after : Shared}
    (logger : after.logger journey.ticket.cell = before.logger journey.ticket.cell)
    (mark : after.isMarked journey.ticket.sentinel = before.isMarked journey.ticket.sentinel) :
    journey.view after = journey.view before := by
  simp only [view, loggerOf_extensions, markOf_extensions, logger, mark]

theorem view_finish (journey : Journey) (ticket : Ticket) (outcome : Outcome) (shared : Shared) :
    journey.view (gateway.finish ticket outcome shared) = journey.view shared :=
  view_congr (by simp [Shared.logger]) (by simp [Shared.isMarked])

theorem isHeld_start (call : Call) (shared : Shared) :
    (start gateway call shared).IsHeld (gateway.start call shared).2.2 :=
  ⟨gateway.cell_start_lt call shared, gateway.sentinel_start_lt call shared⟩

theorem grows_move (journey? : Option Journey) (move : Move) (shared : Shared) :
    shared.Grows (Journey.move gateway journey? move shared).2 := by
  cases journey? <;> cases move
  case none.start call => exact gateway.grows_start call shared
  case some.addFields journey fields => exact shared.grows_addFieldsOf _ fields
  case some.passGuard journey => exact shared.grows_markCarried journey.call.extensions
  case some.finish journey outcome =>
    simp only [Journey.move]
    split
    · exact gateway.grows_finish _ outcome shared
    · exact .refl shared
  all_goals exact .refl shared

/-- A call keeps its cells; those that a call starts with are new. -/
theorem ticket_move {gateway : Gateway} {journey? : Option Journey} {move : Move} {shared : Shared}
    {moved : Journey} (found : (Journey.move gateway journey? move shared).1 = some moved) :
    (∃ journey, journey? = some journey ∧ moved.ticket = journey.ticket) ∨
      ∃ call, moved = start gateway call shared ∧
        (Journey.move gateway journey? move shared).2 = (gateway.start call shared).2.2 := by
  cases journey? <;> cases move
  case none.start call =>
    cases found
    exact .inr ⟨call, rfl, rfl⟩
  case some.finish journey outcome =>
    simp only [Journey.move] at found
    split at found <;> cases found <;> exact .inl ⟨_, rfl, rfl⟩
  all_goals cases found <;> exact .inl ⟨_, rfl, rfl⟩

theorem isHeld_move {journey? : Option Journey} {move : Move} {shared : Shared}
    (held : ∀ journey, journey? = some journey → journey.IsHeld shared) {moved : Journey}
    (found : (Journey.move gateway journey? move shared).1 = some moved) :
    moved.IsHeld (Journey.move gateway journey? move shared).2 := by
  rcases ticket_move found with ⟨journey, present, ticket⟩ | ⟨call, rfl, after⟩
  · have grown := (held journey present).grow (grows_move gateway journey? move shared)
    exact ⟨ticket ▸ grown.cell, ticket ▸ grown.sentinel⟩
  · exact after ▸ isHeld_start gateway call shared

/-- Calls stay apart, since the cells of a call that starts are none of those that are there. -/
theorem isApart_move {bystander : Journey} {journey? : Option Journey} {move : Move}
    {shared : Shared} (held : bystander.IsHeld shared)
    (apart : ∀ journey, journey? = some journey → bystander.IsApart journey) {moved : Journey}
    (found : (Journey.move gateway journey? move shared).1 = some moved) :
    bystander.IsApart moved := by
  rcases ticket_move found with ⟨journey, present, ticket⟩ | ⟨call, rfl, _⟩
  · have before := apart journey present
    exact ⟨ticket ▸ before.cell, ticket ▸ before.sentinel⟩
  · constructor
    · intro same
      have new : bystander.ticket.cell = shared.nextCell :=
        same.trans (gateway.cell_start call shared)
      exact absurd (new ▸ held.cell) (Nat.lt_irrefl _)
    · intro same
      have new : bystander.ticket.sentinel = shared.nextSentinel :=
        same.trans (gateway.sentinel_start call shared)
      exact absurd (new ▸ held.sentinel) (Nat.lt_irrefl _)

/-- A move does not show in the view of another call. -/
theorem view_bystander {bystander : Journey} {journey? : Option Journey} {shared : Shared}
    (held : bystander.IsHeld shared)
    (apart : ∀ journey, journey? = some journey → bystander.IsApart journey) (move : Move) :
    bystander.view (Journey.move gateway journey? move shared).2 = bystander.view shared := by
  cases journey? <;> cases move
  case none.start call =>
    exact view_congr (gateway.logger_start call shared held.cell)
      (gateway.isMarked_start_other call shared held.sentinel)
  case some.addFields journey fields =>
    apply view_congr
    · simp only [Journey.move, addFieldsOf_extensions]
      exact shared.logger_addFields_other fields (apart journey rfl).cell
    · simp only [Journey.move, addFieldsOf_extensions]
      rfl
  case some.passGuard journey =>
    apply view_congr
    · simp only [Journey.move, markCarried_extensions]
      rfl
    · simp only [Journey.move, markCarried_extensions]
      exact shared.isMarked_mark_other (apart journey rfl).sentinel
  case some.finish journey outcome =>
    simp only [Journey.move]
    split
    · exact view_finish gateway bystander journey.ticket outcome shared
    · rfl
  all_goals rfl

end Journey

namespace View

/-- The records of a call that ends, by what is seen of it. -/
def outcomeEntries (gateway : Gateway) (supply : Supply) (view : View) (outcome : Outcome) :
    List Entry :=
  let level := gateway.config.levelOf outcome.code
  let elapsed : Duration := ⟨(supply.readings supply.taken).ticks - view.started.ticks⟩
  if view.marked? = some true then []
  else if view.logger.passes level then
    [view.logger.sink.entry ⟨level, Gateway.outcomeMessage outcome.code,
      view.logger.fields.merge (outcomeFields elapsed (Gateway.failure? outcome))⟩]
  else []

/-- What a move does to the view of its caller, and what it writes, if there are no other calls. -/
def move (gateway : Gateway) (supply : Supply) : Option View → Move → Option View × List Entry
  | none, .start call =>
    let draft := gateway.soleDraft call supply
    (some
      { request := { call.request with metadata := draft.metadata }
        requestId? := call.extensions.requestId?
        started := supply.readings supply.taken
        logger := gateway.loggerFor draft
        marked? := some false
        seen := []
        outcome? := none },
      draft.shared.journal)
  | some view, .addFields fields => (some { view with logger := view.logger.withFields fields }, [])
  | some view, .look => (some { view with seen := view.seen ++ [(view.logger, view.marked?)] }, [])
  | some view, .passGuard => (some { view with marked? := some true }, [])
  | some view, .finish outcome =>
    match view.outcome? with
    | none =>
      (some { view with outcome? := some outcome }, view.outcomeEntries gateway supply outcome)
    | some _ => (some view, [])
  | view?, _ => (view?, [])

end View

namespace Journey

variable (gateway : Gateway) (shared : Shared)

theorem view_start (call : Call) :
    some ((start gateway call shared).view (gateway.start call shared).2.2) =
      (View.move gateway shared.supply none (.start call)).1 := by
  have logger := gateway.loggerOf_start call shared
  have marked := congrArg some (gateway.isMarked_start call shared)
  have metadata : (gateway.start call shared).2.1.request =
      { call.request with metadata := (gateway.draft call shared).metadata } := rfl
  rw [gateway.draft_eq call shared] at logger metadata
  rw [View.move, Option.some.injEq, View.mk.injEq]
  exact ⟨metadata, rfl, rfl, logger, marked, rfl, rfl⟩

theorem journal_start (call : Call) :
    (gateway.start call shared).2.2.journal =
      shared.journal ++ (View.move gateway shared.supply none (.start call)).2 := by
  have whole : (gateway.start call shared).2.2.journal =
      (gateway.draft call shared).shared.journal := rfl
  rw [whole, gateway.draft_eq]
  rfl

theorem view_addFields {journey : Journey} (held : journey.IsHeld shared) (fields : Fields) :
    journey.view (shared.addFieldsOf journey.call.extensions fields) =
      { journey.view shared with logger := (journey.view shared).logger.withFields fields } := by
  simp only [view, loggerOf_extensions, markOf_extensions, addFieldsOf_extensions,
    shared.logger_addFields_same fields held.cell]
  rfl

theorem view_markCarried {journey : Journey} (held : journey.IsHeld shared) :
    journey.view (shared.markCarried journey.call.extensions) =
      { journey.view shared with marked? := some true } := by
  simp only [view, loggerOf_extensions, markOf_extensions, markCarried_extensions,
    shared.isMarked_mark_same held.sentinel]
  rfl

theorem journal_finish (journey : Journey) (outcome : Outcome) :
    (gateway.finish journey.ticket outcome shared).journal =
      shared.journal ++ (journey.view shared).outcomeEntries gateway shared.supply outcome := by
  cases marked : shared.isMarked journey.ticket.sentinel with
  | true =>
    rw [gateway.finish_of_marked shared outcome marked]
    simp [View.outcomeEntries, view, markOf_extensions, marked]
  | false =>
    rw [gateway.journal_finish shared outcome marked]
    simp [View.outcomeEntries, view, markOf_extensions, loggerOf_extensions, marked, Shared.reading]

/-- Moves of a call that nothing comes between are what a chain does with it. -/
theorem moves_in_a_row (call : Call) (fields : Fields) (outcome : Outcome) :
    let started := Journey.move gateway none (.start call) shared
    let added := Journey.move gateway started.1 (.addFields fields) started.2
    let guarded := Journey.move gateway added.1 .passGuard added.2
    serve [.gateway gateway, .interceptor (.doing (.addFields fields) none), .transportGuard]
        (fun _ shared => (outcome, shared)) call shared =
      (outcome, (Journey.move gateway guarded.1 (.finish outcome) guarded.2).2) := by
  intro started added guarded
  rfl

/-- What a move does to its caller's view and writes depends on nothing but that view, the clock
and chance. -/
theorem view_move {journey? : Option Journey}
    (held : ∀ journey, journey? = some journey → journey.IsHeld shared) (move : Move) :
    let moved := Journey.move gateway journey? move shared
    let alone :=
      View.move gateway shared.supply (journey?.map fun journey => journey.view shared) move
    moved.1.map (fun journey => journey.view moved.2) = alone.1 ∧
      moved.2.journal = shared.journal ++ alone.2 := by
  have quiet : shared.journal = shared.journal ++ [] := (List.append_nil _).symm
  cases journey? <;> cases move
  case none.start call => exact ⟨view_start gateway shared call, journal_start gateway shared call⟩
  case some.addFields journey fields =>
    have journal :
        (shared.addFieldsOf journey.call.extensions fields).journal = shared.journal := by
      rw [addFieldsOf_extensions, Shared.addFields]
    exact ⟨congrArg some (view_addFields shared (held journey rfl) fields), journal.trans quiet⟩
  case some.passGuard journey =>
    have journal : (shared.markCarried journey.call.extensions).journal = shared.journal := by
      rw [Shared.markCarried_eq]
    exact ⟨congrArg some (view_markCarried shared (held journey rfl)), journal.trans quiet⟩
  case some.finish journey outcome =>
    have seen : (journey.view shared).outcome? = journey.outcome? := rfl
    cases ended : journey.outcome? with
    | none =>
      simp only [Journey.move, Option.map_some, View.move, seen, ended]
      exact ⟨congrArg (fun view : View => some { view with outcome? := some outcome })
        (view_finish gateway journey journey.ticket outcome shared),
        journal_finish gateway shared journey outcome⟩
    | some earlier =>
      simp only [Journey.move, Option.map_some, View.move, seen, ended]
      exact ⟨trivial, quiet⟩
  all_goals exact ⟨rfl, quiet⟩

end Journey

namespace Traffic

/-- Calls that are on their way have cells, and no two have one in common. -/
structure IsSound (traffic : Traffic) : Prop where
  held : ∀ (caller : Nat) (journey : Journey), traffic.journeys caller = some journey →
    journey.IsHeld traffic.shared
  apart : ∀ (caller other : Nat) (journey another : Journey), caller ≠ other →
    traffic.journeys caller = some journey → traffic.journeys other = some another →
      journey.IsApart another

variable (gateway : Gateway) {traffic : Traffic}

theorem isSound_idle (shared : Shared) : (idle shared).IsSound where
  held _ _ present := nomatch present
  apart _ _ _ _ _ present _ := nomatch present

theorem isSound_perform (sound : traffic.IsSound) (step : Step) :
    (traffic.perform gateway step).IsSound := by
  have held (caller : Nat) (journey : Journey) (present : traffic.journeys caller = some journey) :=
    (sound.held caller journey present).supplied step.supply
  have apart (other : Nat) (bystander moved : Journey) (differs : other ≠ step.caller)
      (present : traffic.journeys other = some bystander)
      (found : (traffic.moved gateway step).1 = some moved) : bystander.IsApart moved :=
    Journey.isApart_move gateway (held other bystander present)
      (fun journey => sound.apart other step.caller bystander journey differs present) found
  constructor
  · intro caller journey present
    by_cases own : caller = step.caller
    · subst own
      rw [journeys_perform_own] at present
      exact Journey.isHeld_move gateway (held step.caller) present
    · rw [journeys_perform_other gateway traffic step own] at present
      exact (held caller journey present).grow (Journey.grows_move gateway _ _ _)
  · intro caller other journey another differs present anotherPresent
    by_cases own : caller = step.caller
    · subst own
      rw [journeys_perform_own] at present
      rw [journeys_perform_other gateway traffic step differs.symm] at anotherPresent
      exact (apart other another journey differs.symm anotherPresent present).symm
    · rw [journeys_perform_other gateway traffic step own] at present
      by_cases otherOwn : other = step.caller
      · subst otherOwn
        rw [journeys_perform_own] at anotherPresent
        exact apart caller journey another own present anotherPresent
      · rw [journeys_perform_other gateway traffic step otherOwn] at anotherPresent
        exact sound.apart caller other journey another differs present anotherPresent

theorem isSound_run (sound : traffic.IsSound) (steps : List Step) :
    (traffic.run gateway steps).IsSound := by
  induction steps generalizing traffic with
  | nil => exact sound
  | cons step rest ih => exact ih (isSound_perform gateway sound step)

theorem view?_perform_own (sound : traffic.IsSound) (step : Step) :
    (traffic.perform gateway step).view? step.caller =
      (View.move gateway step.supply (traffic.view? step.caller) step.move).1 := by
  rw [view?, journeys_perform_own]
  exact (Journey.view_move gateway (traffic.shared.supplied step.supply)
    (fun journey present => (sound.held step.caller journey present).supplied step.supply)
    step.move).1

theorem journal_perform (sound : traffic.IsSound) (step : Step) :
    (traffic.perform gateway step).shared.journal = traffic.shared.journal ++
      (View.move gateway step.supply (traffic.view? step.caller) step.move).2 :=
  (Journey.view_move gateway (traffic.shared.supplied step.supply)
    (fun journey present => (sound.held step.caller journey present).supplied step.supply)
    step.move).2

theorem view?_perform_other (sound : traffic.IsSound) (step : Step) {other : Nat}
    (differs : other ≠ step.caller) :
    (traffic.perform gateway step).view? other = traffic.view? other := by
  rw [view?, journeys_perform_other gateway traffic step differs, view?]
  cases present : traffic.journeys other with
  | none => rfl
  | some bystander =>
    have held := (sound.held other bystander present).supplied step.supply
    have apart (journey : Journey) :=
      sound.apart other step.caller bystander journey differs present
    exact congrArg some (Journey.view_bystander gateway held apart step.move)

/-- Traffic beside that of each caller alone. What has been written since `before` falls apart, by
who wrote it, into what each caller writes alone. -/
structure IsInterleaving (before : List Entry) (whole : Traffic) (alone : Nat → Traffic) :
    Prop where
  view : ∀ caller, whole.view? caller = (alone caller).view? caller
  journal : ∃ signed : List (Nat × Entry),
    whole.shared.journal = before ++ signed.map Prod.snd ∧
      ∀ caller, (alone caller).shared.journal =
        before ++ (signed.filter fun entry => entry.1 = caller).map Prod.snd

/-- When a caller makes a move in the whole traffic and in its own, the others need not. -/
theorem IsInterleaving.perform {before : List Entry} {whole : Traffic} {alone : Nat → Traffic}
    (interleaving : IsInterleaving before whole alone) (wholeSound : whole.IsSound)
    (aloneSound : ∀ caller, (alone caller).IsSound) (step : Step) :
    IsInterleaving before (whole.perform gateway step)
      (Function.update alone step.caller ((alone step.caller).perform gateway step)) := by
  have same := interleaving.view step.caller
  constructor
  · intro caller
    by_cases own : caller = step.caller
    · subst own
      rw [Function.update_self, view?_perform_own gateway wholeSound,
        view?_perform_own gateway (aloneSound step.caller), same]
    · rw [Function.update_of_ne own, view?_perform_other gateway wholeSound step own]
      exact interleaving.view caller
  · obtain ⟨signed, together, apart⟩ := interleaving.journal
    let written := (View.move gateway step.supply (whole.view? step.caller) step.move).2
    have unsigned : (written.map (step.caller, ·)).map Prod.snd = written := by
      simp [Function.comp_def]
    refine ⟨signed ++ written.map (step.caller, ·), ?_, ?_⟩
    · rw [journal_perform gateway wholeSound, together, List.map_append, unsigned,
        List.append_assoc]
    · intro caller
      by_cases own : caller = step.caller
      · subst own
        have kept : (written.map (step.caller, ·)).filter (fun entry => entry.1 = step.caller) =
            written.map (step.caller, ·) := List.filter_eq_self.mpr (by simp)
        rw [Function.update_self, journal_perform gateway (aloneSound step.caller), apart, ← same,
          List.filter_append, List.map_append, kept, unsigned, List.append_assoc]
      · have dropped : (written.map (step.caller, ·)).filter (fun entry => entry.1 = caller) = [] :=
          List.filter_eq_nil_iff.mpr (by simp [Ne.symm own])
        rw [Function.update_of_ne own, apart caller, List.filter_append, dropped, List.append_nil]

theorem run_append_singleton (traffic : Traffic) (steps : List Step) (step : Step) :
    traffic.run gateway (steps ++ [step]) = (traffic.run gateway steps).perform gateway step := by
  rw [run, List.foldl_append]
  rfl

/-- However the moves of the callers follow one another, every caller sees of its call, and
writes, what it does when the others make no moves. -/
theorem calls_do_not_notice_one_another (shared : Shared) (steps : List Step) :
    let whole := (idle shared).run gateway steps
    let alone : Nat → Traffic := fun caller =>
      (idle shared).run gateway (steps.filter fun step => step.caller = caller)
    (∀ caller, whole.view? caller = (alone caller).view? caller) ∧
      ∃ signed : List (Nat × Entry),
        whole.shared.journal = shared.journal ++ signed.map Prod.snd ∧
          ∀ caller, (alone caller).shared.journal = shared.journal ++
            (signed.filter fun entry => entry.1 = caller).map Prod.snd := by
  intro whole alone
  suffices interleaving : IsInterleaving shared.journal whole alone from
    ⟨interleaving.view, interleaving.journal⟩
  induction steps using List.reverseRecOn with
  | nil =>
    exact ⟨fun _ => rfl, [], (List.append_nil _).symm, fun _ => (List.append_nil _).symm⟩
  | append_singleton steps step ih =>
    have sound (steps : List Step) := isSound_run gateway (isSound_idle shared) steps
    have next := ih.perform gateway (sound _) (fun _ => sound _) step
    -- Of the runs of single callers only that of the step's own caller goes on.
    have apart : alone = Function.update
        (fun caller => (idle shared).run gateway (steps.filter fun step => step.caller = caller))
        step.caller (((idle shared).run gateway
          (steps.filter fun other => other.caller = step.caller)).perform gateway step) := by
      funext caller
      by_cases own : caller = step.caller
      · subst own
        rw [Function.update_self, ← run_append_singleton]
        simp [alone]
      · rw [Function.update_of_ne own]
        simp [alone, Ne.symm own]
    rw [← run_append_singleton] at next
    exact apart ▸ next

/-- The second call comes with the extensions of the first one, and is marked alone. -/
example :
    let gateway : Gateway := ⟨.standard, .standard, .silent⟩
    let supply : Supply := ⟨fun _ => ⟨⟨0, 0⟩, 0⟩, 0, fun _ => 0, 0⟩
    let request : Request := ⟨"/svc.Pkg/Method", "", .empty⟩
    let traffic := (idle ⟨[], [], [], supply⟩).run gateway
      [⟨0, .start ⟨request, .empty⟩, supply⟩,
        ⟨1, .start ⟨request, ⟨some ⟨0⟩, some ⟨0⟩, none⟩⟩, supply⟩,
        ⟨1, .passGuard, supply⟩]
    (traffic.view? 0).map View.marked? = some (some false) ∧
      (traffic.view? 1).map View.marked? = some (some true) := ⟨rfl, rfl⟩

end Traffic

end CallJournal
