import CallJournal.Proofs.OutcomeRecord

/-! A call has room for one sentinel, so a guard marks that of the last gateway in front of it. -/

namespace CallJournal

/-- A service that leaves a mark alone that is there, if it serves a call among some. -/
def Spares (sentinel : Sentinel) (among : Call → Prop) (service : Service) : Prop :=
  ∀ (call : Call) (shared : Shared), among call → sentinel.index < shared.marks.length →
    (service call shared).2.isMarked sentinel = shared.isMarked sentinel

/-- Calls that carry no sentinel, or another one. -/
def Call.Lacks (sentinel : Sentinel) (call : Call) : Prop :=
  call.extensions.sentinel? ≠ some sentinel

theorem Act.lacks_perform (act : Act) {call : Call} {sentinel : Sentinel} (shared : Shared)
    (lacks : call.Lacks sentinel) : (act.perform call shared).2.1.Lacks sentinel := by
  cases act with
  | dropExtensions => exact nofun
  | _ => exact lacks

/-- A plan spares what the service spares that it forwards to, as long as acts leave its call among
those for which the service does. -/
theorem Plan.spares_run {inner : Service} {sentinel : Sentinel} {among : Call → Prop}
    (steady : IsSteady inner) (spares : Spares sentinel among inner)
    (stays : ∀ (act : Act) (call : Call) (shared : Shared),
      among call → among (act.perform call shared).2.1)
    (plan : Plan) : Spares sentinel among (plan.run inner) := by
  intro call shared member known
  induction plan generalizing call shared with
  | answer outcome => rfl
  | forward next ih =>
    have later := ih (inner call shared).1 call (inner call shared).2 member
      (Nat.lt_of_lt_of_le known (steady call shared).marks)
    exact later.trans (spares call shared member known)
  | first act next ih =>
    have later := ih (act.perform call shared).1 (act.perform call shared).2.1
      (act.perform call shared).2.2 (stays act call shared member) (by rwa [act.marks_perform])
    exact later.trans (by rw [Shared.isMarked, Shared.isMarked, act.marks_perform])

/-- Behind a gateway a call carries the gateway's sentinel, which is new. -/
theorem Gateway.spares_wrap (gateway : Gateway) {inner : Service} {sentinel : Sentinel}
    (spares : Spares sentinel (Call.Lacks sentinel) inner) :
    Spares sentinel (fun _ => True) (gateway.wrap inner) := by
  intro call shared _ known
  have lacks : (gateway.start call shared).2.1.Lacks sentinel := by
    intro carried
    have new : sentinel = shared.nextSentinel :=
      (Option.some.inj carried).symm.trans (gateway.sentinel_start call shared)
    exact absurd (new ▸ known) (Nat.lt_irrefl _)
  have later := Nat.lt_of_lt_of_le known (gateway.grows_start call shared).marks
  calc (gateway.wrap inner call shared).2.isMarked sentinel
      = (inner (gateway.start call shared).2.1 (gateway.start call shared).2.2).2.isMarked
          sentinel := by
        simp [Gateway.wrap, Shared.isMarked]
    _ = (gateway.start call shared).2.2.isMarked sentinel := spares _ _ lacks later
    _ = shared.isMarked sentinel := gateway.isMarked_start_other call shared known

/-- Whatever links a chain has, it marks no other calls than those that it serves. -/
theorem spares_serve {terminal : Service} (transport : IsTransport terminal) (sentinel : Sentinel)
    (chain : List Link) : Spares sentinel (Call.Lacks sentinel) (serve chain terminal) := by
  induction chain with
  | nil => exact fun call shared _ _ => transport.isMarked call shared sentinel
  | cons link rest ih =>
    cases link with
    | gateway front => exact fun call shared _ => front.spares_wrap ih call shared trivial
    | transportGuard =>
      intro call shared lacks known
      have kept : (shared.markCarried call.extensions).isMarked sentinel =
          shared.isMarked sentinel := by
        rw [Bool.eq_iff_iff, shared.isMarked_markCarried_iff call.extensions known,
          or_iff_left lacks]
      have later := Nat.lt_of_lt_of_le known (shared.grows_markCarried call.extensions).marks
      rw [serve, List.foldr_cons, Link.wrap, guardTransport_eq]
      exact (ih call _ lacks later).trans kept
    | interceptor decide =>
      exact fun call => (decide call.request).spares_run (isSteady_serve rest transport.steady) ih
        (fun act _ shared => act.lacks_perform shared) call

/-- A chain with a gateway spares older marks, unless a guard stands in front of the gateway. -/
theorem spares_serve_of_gateway {terminal : Service} (transport : IsTransport terminal)
    (sentinel : Sentinel) {between : List Link} (unguarded : .transportGuard ∉ between)
    {below : Gateway} (member : .gateway below ∈ between) (behind : List Link) :
    Spares sentinel (fun _ => True) (serve (between ++ behind) terminal) := by
  induction between with
  | nil => cases member
  | cons link rest ih =>
    have later := fun guard => unguarded (List.mem_cons_of_mem link guard)
    cases link with
    | gateway front => exact front.spares_wrap (spares_serve transport sentinel (rest ++ behind))
    | transportGuard => exact absurd List.mem_cons_self unguarded
    | interceptor decide =>
      have inner := ih later ((List.mem_cons.mp member).resolve_left Link.noConfusion)
      exact fun call => (decide call.request).spares_run
        (isSteady_serve (rest ++ behind) transport.steady) inner (fun _ _ _ _ => trivial) call

/-- Links that stand between a gateway and the guard at the end of its chain: further gateways, and
interceptors that leave a call the sentinel it has. -/
def Link.LeadsOn : Link → Prop
  | gateway _ => True
  | transportGuard => False
  | interceptor decide => ∀ request, (decide request).KeepsSentinel

namespace Gateway

variable (gateway : Gateway) (call : Call) (shared : Shared)

/-- On its way the logger of a call may have got more fields, but no other filter or sink. -/
theorem journal_finish_of_grown {after : Shared}
    (grown : (gateway.start call shared).2.2.Grows after)
    (outcome : Outcome) (unmarked : after.isMarked (gateway.start call shared).1.sentinel = false) :
    let started := gateway.start call shared
    let level := gateway.config.levelOf outcome.code
    let passes := (started.2.2.loggerOf started.2.1.extensions).passes level
    (passes = true → ∃ fields, (gateway.finish started.1 outcome after).journal = after.journal ++
      [gateway.logger.sink.entry ⟨level, outcomeMessage outcome.code, fields⟩]) ∧
      (passes = false → (gateway.finish started.1 outcome after).journal = after.journal) := by
  intro started level passes
  have known := gateway.cell_start_lt call shared
  have held : started.2.2.logger started.1.cell = started.2.2.loggerOf started.2.1.extensions := rfl
  have sink : (after.logger started.1.cell).sink = gateway.logger.sink := by
    rw [grown.sink _ known, held, gateway.loggerOf_start]
    rfl
  have filter : (after.logger started.1.cell).passes level = passes := by
    rw [Logger.passes, grown.filter _ known, held]
    rfl
  rw [gateway.journal_finish after outcome unmarked, sink, filter]
  constructor
  · intro lets
    exact ⟨_, by rw [if_pos lets]⟩
  · intro holds
    rw [holds, if_neg Bool.false_ne_true, List.append_nil]

/-- A call that has reached the guard at the end of a chain is recorded by a gateway exactly when
another gateway stands in between and the logger lets the level pass. -/
theorem records_reached_call_iff_gateway_between {terminal : Service}
    (transport : IsTransport terminal) {between : List Link}
    (leads : ∀ link ∈ between, link.LeadsOn)
    (reached : ReachesGuard terminal (between ++ [.transportGuard])
      (gateway.start call shared).2.1 (gateway.start call shared).2.2) :
    let chain := between ++ [.transportGuard]
    let started := gateway.start call shared
    let answered := serve chain terminal started.2.1 started.2.2
    let ended := serve (.gateway gateway :: chain) terminal call shared
    let level := gateway.config.levelOf ended.1.code
    let isDue := (∃ below, .gateway below ∈ between) ∧
      (started.2.2.loggerOf started.2.1.extensions).passes level = true
    ended.1 = answered.1 ∧
      (isDue → ∃ fields, ended.2.journal = answered.2.journal ++
        [gateway.logger.sink.entry ⟨level, outcomeMessage ended.1.code, fields⟩]) ∧
      (¬ isDue → ended.2.journal = answered.2.journal) := by
  intro chain started answered ended level isDue
  have grown : started.2.2.Grows answered.2 := isSteady_serve chain transport.steady _ _
  have known := gateway.sentinel_start_lt call shared
  by_cases stacked : ∃ below, .gateway below ∈ between
  · obtain ⟨below, member⟩ := stacked
    have unguarded : .transportGuard ∉ between := fun guard => leads _ guard
    have spared := spares_serve_of_gateway transport started.1.sentinel unguarded member
      [.transportGuard] started.2.1 started.2.2 trivial known
    obtain ⟨told, silent⟩ := gateway.journal_finish_of_grown call shared grown answered.1
      (spared.trans (gateway.isMarked_start call shared))
    refine ⟨rfl, fun due => told due.2, fun notDue => silent ?_⟩
    exact Bool.eq_false_iff.mpr fun passes => notDue ⟨⟨below, member⟩, passes⟩
  · -- Without a gateway in between the call keeps its sentinel up to the guard.
    have keeps : ∀ link ∈ chain, link.KeepsSentinel := by
      intro link member
      rcases List.mem_append.mp member with inner | last
      · cases link with
        | gateway below => exact absurd ⟨below, inner⟩ stacked
        | transportGuard => trivial
        | interceptor decide => exact leads _ inner
      · rw [List.mem_singleton.mp last]
        trivial
    have marked := (marks_serve transport keeps started.2.1 started.2.2 started.1.sentinel rfl
      known).mpr (.inr reached)
    have quiet := gateway.finish_of_marked answered.2 answered.1 marked
    exact ⟨rfl, fun due => absurd due.1 stacked, fun _ => congrArg Shared.journal quiet⟩

/-- A call that reaches the guard is recorded by a gateway above another one, and not by one that
only has an interceptor below it. -/
theorem records_reached_call_above_gateway :
    let gateway : Gateway := ⟨⟨.upTo .info, .empty, .records⟩, .standard, .silent⟩
    let terminal : Service := transport fun _ => .ok "body"
    let adding : Link := .interceptor (.doing (.addFields (.ofList [("user", .string "u-1")])) none)
    let call : Call := ⟨⟨"/svc.Pkg/Method", "", .empty⟩, .empty⟩
    let shared : Shared := .start (fun _ => ⟨⟨0, 0⟩, 0⟩) fun _ => 0
    let started := gateway.start call shared
    let stacked : List Link := [adding, .gateway gateway, .transportGuard]
    let plain : List Link := [adding, .transportGuard]
    IsTransport terminal ∧ (∀ link ∈ [adding, .gateway gateway], link.LeadsOn) ∧
      ReachesGuard terminal stacked started.2.1 started.2.2 ∧
      ReachesGuard terminal plain started.2.1 started.2.2 ∧
      (∃ fields, (serve (.gateway gateway :: stacked) terminal call shared).2.journal =
        (serve stacked terminal started.2.1 started.2.2).2.journal ++
          [.record ⟨.info, "finished client unary call with code OK", fields⟩]) ∧
      (serve (.gateway gateway :: plain) terminal call shared).2.journal =
        (serve plain terminal started.2.1 started.2.2).2.journal := by
  intro gateway terminal adding call shared started stacked plain
  have transport : IsTransport terminal := isTransport_transport _
  have leads : ∀ link ∈ [adding, .gateway gateway], link.LeadsOn := by
    intro link member
    simp only [List.mem_cons, List.not_mem_nil, or_false] at member
    rcases member with rfl | rfl
    · exact fun request => ⟨rfl, fun _ _ => trivial⟩
    · trivial
  have reachesStacked : ReachesGuard terminal stacked started.2.1 started.2.2 :=
    ⟨_, List.mem_cons_self, trivial⟩
  have reachesPlain : ReachesGuard terminal plain started.2.1 started.2.2 :=
    ⟨_, List.mem_cons_self, trivial⟩
  refine ⟨transport, leads, reachesStacked, reachesPlain, ?_, ?_⟩
  · obtain ⟨_, told, _⟩ := gateway.records_reached_call_iff_gateway_between call shared transport
      leads reachesStacked
    have answered : (serve (.gateway gateway :: stacked) terminal call shared).1 = .ok "body" := rfl
    rw [gateway.loggerOf_start] at told
    obtain ⟨fields, written⟩ := told ⟨⟨gateway, List.mem_cons_of_mem _ List.mem_cons_self⟩, rfl⟩
    exact ⟨fields, written⟩
  · have single : ∀ link ∈ [adding], link.LeadsOn := fun link member =>
      leads link (List.mem_cons.mpr (.inl (List.mem_singleton.mp member)))
    obtain ⟨_, _, silent⟩ := gateway.records_reached_call_iff_gateway_between call shared transport
      single reachesPlain
    apply silent
    rintro ⟨⟨below, member⟩, _⟩
    exact Link.noConfusion (List.mem_singleton.mp member)

/-- Of two gateways over a guard the outer one records a call that reaches the server. -/
theorem outer_gateway_records_reached_call :
    let gateway : Gateway := ⟨⟨.upTo .info, .empty, .records⟩, .standard, .silent⟩
    let terminal : Service := transport fun _ => .ok "body"
    let call : Call := ⟨⟨"/svc.Pkg/Method", "", .empty⟩, .empty⟩
    let shared : Shared := .start (fun _ => ⟨⟨0, 0⟩, 0⟩) fun _ => 0
    let started := gateway.start call shared
    let chain : List Link := [.gateway gateway, .transportGuard]
    ReachesGuard terminal chain started.2.1 started.2.2 ∧
      ∃ entry ∈ (serve (.gateway gateway :: chain) terminal call shared).2.journal,
        entry.TellsOutcome := by
  intro gateway terminal call shared started chain
  have transport : IsTransport terminal := isTransport_transport _
  have grown := isSteady_serve chain transport.steady started.2.1 started.2.2
  have spared : (serve chain terminal started.2.1 started.2.2).2.isMarked started.1.sentinel =
      started.2.2.isMarked started.1.sentinel :=
    gateway.spares_wrap (spares_serve transport started.1.sentinel [.transportGuard]) started.2.1
      started.2.2 trivial (gateway.sentinel_start_lt call shared)
  obtain ⟨told, _⟩ := gateway.journal_finish_of_grown call shared grown (.ok "body")
    (spared.trans (gateway.isMarked_start call shared))
  rw [gateway.loggerOf_start] at told
  obtain ⟨fields, written⟩ := told rfl
  refine ⟨trivial, .record ⟨.info, outcomeMessage .ok, fields⟩, ?_, .records, .info, .ok, fields,
    rfl⟩
  exact written ▸ List.mem_append_right _ List.mem_cons_self

end Gateway

end CallJournal
