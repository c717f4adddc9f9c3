import CallJournal.Chain
import CallJournal.Proofs.SentId

namespace CallJournal

/-- A layer that invokes any service behind it once, with `sent` and in the state `before`, and
comes back with its outcome. -/
def HandsOn (layer : Service → Service) (call : Call) (shared : Shared) (sent : Call)
    (before : Shared) : Prop :=
  ∃ after : Outcome → Shared → Shared, ∀ inner : Service,
    layer inner call shared =
      ((inner sent before).1, after (inner sent before).1 (inner sent before).2)

/-- A call that differs from another one in nothing but the request ID in its metadata, its logger
and its sentinel. -/
structure Call.Keeps (sent call : Call) : Prop where
  method : sent.request.method = call.request.method
  body : sent.request.body = call.request.body
  metadata : ∀ key, key ≠ RequestId.header →
    sent.request.metadata.values key = call.request.metadata.values key
  extensions : sent.extensions = { call.extensions with
    logger? := sent.extensions.logger?
    sentinel? := sent.extensions.sentinel? }

theorem Call.Keeps.refl (call : Call) : call.Keeps call := ⟨rfl, rfl, fun _ _ => rfl, rfl⟩

theorem Call.Keeps.trans {last middle call : Call} (later : last.Keeps middle)
    (earlier : middle.Keeps call) : last.Keeps call where
  method := later.method.trans earlier.method
  body := later.body.trans earlier.body
  metadata key differs := (later.metadata key differs).trans (earlier.metadata key differs)
  extensions := by rw [later.extensions, earlier.extensions]

theorem HandsOn.comp {outer inner : Service → Service} {call sent last : Call}
    {shared before final : Shared} (first : HandsOn outer call shared sent before)
    (second : HandsOn inner sent before last final) :
    HandsOn (outer ∘ inner) call shared last final := by
  obtain ⟨after, passes⟩ := first
  obtain ⟨afterwards, passesOn⟩ := second
  refine ⟨fun outcome shared => after outcome (afterwards outcome shared), ?_⟩
  intro service
  rw [Function.comp_apply, passes, passesOn]

namespace Gateway

variable (gateway : Gateway) (call : Call) (shared : Shared)

/-- The metadata goes on as it came unless an ID that can be sent is put into it. -/
theorem metadata_start_of_unidentified (unidentified : gateway.config.requestIdDisabled = true ∨
    (chosenId call shared).isSettable = false) :
    (gateway.start call shared).2.1.request.metadata = call.request.metadata := by
  cases disabled : gateway.config.requestIdDisabled with
  | true =>
    have untouched : (gateway.draft call shared).metadata = call.request.metadata := by
      rw [metadata_draft, identify, if_pos disabled]
    exact untouched
  | false =>
    rcases unidentified with impossible | unsettable
    · exact absurd (disabled.symm.trans impossible) (by decide)
    · exact metadata_draft_of_unsettable disabled unsettable

/-- Whatever the gateway finds out about a call, it touches no metadata but the request ID. -/
theorem values_start_other {key : String} (differs : key ≠ RequestId.header) :
    (gateway.start call shared).2.1.request.metadata.values key =
      call.request.metadata.values key := by
  by_cases unidentified : gateway.config.requestIdDisabled = true ∨
      (chosenId call shared).isSettable = false
  · rw [gateway.metadata_start_of_unidentified call shared unidentified]
  · obtain ⟨enabled, settable⟩ := not_or.mp unidentified
    have replaced := metadata_draft_of_settable (Bool.eq_false_iff.mpr enabled)
      (Bool.not_eq_false _ ▸ settable)
    exact (congrArg (Metadata.values · key) replaced).trans
      (Metadata.values_replace_other _ _ differs)

theorem keeps_start : (gateway.start call shared).2.1.Keeps call where
  method := rfl
  body := rfl
  metadata _ differs := gateway.values_start_other call shared differs
  extensions := rfl

theorem handsOn_wrap : HandsOn gateway.wrap call shared (gateway.start call shared).2.1
    (gateway.start call shared).2.2 :=
  ⟨gateway.finish (gateway.start call shared).1, fun _ => rfl⟩

end Gateway

theorem handsOn_guardTransport (call : Call) (shared : Shared) :
    HandsOn guardTransport call shared call (shared.markCarried call.extensions) :=
  ⟨fun _ shared => shared, fun inner => guardTransport_eq inner call shared⟩

/-- Links that are there for the logging alone. -/
def Link.IsLogging : Link → Prop
  | gateway _ | transportGuard => True
  | interceptor _ => False

/-- A stack of gateways and guards hands one call on to what is behind it, as it came; induction on
the stack, one layer handing on to the next. -/
theorem handsOn_serve {chain : List Link} (logging : ∀ link ∈ chain, link.IsLogging) (call : Call)
    (shared : Shared) :
    ∃ sent before, HandsOn (serve chain) call shared sent before ∧ sent.Keeps call := by
  induction chain generalizing call shared with
  | nil => exact ⟨call, shared, ⟨fun _ shared => shared, fun _ => rfl⟩, .refl call⟩
  | cons link rest ih =>
    have later := ih fun other member => logging other (List.mem_cons_of_mem link member)
    have here := logging link List.mem_cons_self
    cases link with
    | gateway front =>
      obtain ⟨sent, before, passes, keeps⟩ :=
        later (front.start call shared).2.1 (front.start call shared).2.2
      exact ⟨sent, before, (front.handsOn_wrap call shared).comp passes,
        keeps.trans (front.keeps_start call shared)⟩
    | transportGuard =>
      obtain ⟨sent, before, passes, keeps⟩ := later call (shared.markCarried call.extensions)
      exact ⟨sent, before, (handsOn_guardTransport call shared).comp passes, keeps⟩
    | interceptor decide => exact here.elim

/-- A gateway hands on one call, which differs from the one that it got in the request ID, the
logger and the sentinel alone; a guard hands it on as it is. Both come back with the outcome
behind them. -/
theorem logging_is_transparent (gateway : Gateway) (call : Call) (shared : Shared) :
    (∃ sent before, HandsOn gateway.wrap call shared sent before ∧ sent.Keeps call ∧
      (gateway.config.requestIdDisabled = true ∨
          (Gateway.chosenId call shared).isSettable = false →
        sent.request.metadata = call.request.metadata)) ∧
      ∃ before : Shared, (∀ inner, guardTransport inner call shared = inner call before) ∧
        before = { shared with marks := before.marks } ∧
        ∀ sentinel : Sentinel, sentinel.index < shared.marks.length →
          (before.isMarked sentinel = true ↔
            shared.isMarked sentinel = true ∨ call.extensions.sentinel? = some sentinel) := by
  constructor
  · exact ⟨_, _, gateway.handsOn_wrap call shared, gateway.keeps_start call shared,
      gateway.metadata_start_of_unidentified call shared⟩
  · refine ⟨shared.markCarried call.extensions, ?_, ?_, ?_⟩
    · exact fun inner => guardTransport_eq inner call shared
    · exact shared.markCarried_eq call.extensions
    · exact fun _ known => shared.isMarked_markCarried_iff call.extensions known

end CallJournal
