import CallJournal.Proofs.SentId
import CallJournal.Proofs.UsableId

namespace CallJournal

/-- A call that a gateway with request IDs sends, and a server that receives it, each with what is
shared in its own process. -/
structure Hop where
  gateway : Gateway
  enabled : gateway.config.requestIdDisabled = false
  call : Call
  departure : Shared
  /-- What the received call carries besides its request. -/
  extensions : Extensions
  arrival : Shared

namespace Hop

variable (hop : Hop)

/-- The request ID that the gateway decides on. -/
def chosenId : RequestId := Gateway.chosenId hop.call hop.departure

def sent : Call := (hop.gateway.start hop.call hop.departure).2.1

def departed : Shared := (hop.gateway.start hop.call hop.departure).2.2

def received : Call := (receive ⟨hop.sent.request, hop.extensions⟩ hop.arrival).1

def arrived : Shared := (receive ⟨hop.sent.request, hop.extensions⟩ hop.arrival).2

/-- The gateway's log, the metadata on the way, and the server all have the same ID. -/
structure Shows (id : RequestId) : Prop where
  logged : (hop.departed.loggerOf hop.sent.extensions).fields.get? RequestId.field =
    some (.string id.text)
  sent : hop.sent.request.metadata.values RequestId.header = [octetsOf id.text]
  stored : hop.received.extensions.requestId? = some id

/-- The next call is made with the request IDs of the received metadata, or with the ID that the
server stored. -/
inductive Follows (previous next : Hop) : Prop where
  | metadata
      (same : next.call.request.metadata.values RequestId.header =
        previous.received.request.metadata.values RequestId.header)
      (bare : next.call.extensions.ownId? = none)
  | extension
      (same : next.call.extensions.requestId? = previous.received.extensions.requestId?)

/-- A hop and those after it, each of which follows the one before it. -/
inductive Run : Hop → List Hop → Prop where
  | last (hop : Hop) : Run hop []
  | step {hop next : Hop} {rest : List Hop} (follows : Follows hop next) (later : Run next rest) :
      Run hop (next :: rest)

end Hop

/-- A server that finds a readable ID in the metadata keeps the request as it is. -/
theorem receive_of_values {request : Request} (extensions : Extensions) (shared : Shared)
    {id : RequestId} (values : request.metadata.values RequestId.header = [octetsOf id.text])
    (readable : id.isReadable = true) (filled : id.isEmpty = false) :
    receive ⟨request, extensions⟩ shared =
      (⟨request, { extensions with requestId? := some id }⟩, shared.emit (assignedId id)) := by
  have first := List.head?_eq_some_iff.mpr ⟨[], values⟩
  exact receive_of_found (Metadata.ofMetadata?_eq_some_iff.mpr ⟨first, readable, filled⟩) shared

/-- A gateway carries on a readable ID in the metadata of a call that has no ID of its own. -/
theorem Gateway.carriedId?_of_values {call : Call} {id : RequestId}
    (values : call.request.metadata.values RequestId.header = [octetsOf id.text])
    (readable : id.isReadable = true) (filled : id.isEmpty = false)
    (foreign : call.extensions.ownId? = none) : carriedId? call = some id := by
  have folded : Text.lowered RequestId.header = RequestId.header := by decide
  have text := Metadata.text?_of_values RequestId.textKey?_header values readable
  apply (carriedId?_eq_some_iff_of_foreign foreign).mpr
  refine ⟨?_, filled⟩
  rw [Metadata.forwarded?, folded, text, Option.some_or]

theorem Gateway.drawn_start_of_carried (gateway : Gateway) {call : Call} (shared : Shared)
    {id : RequestId} (carried : carriedId? call = some id) :
    (gateway.start call shared).2.2.supply.drawn = shared.supply.drawn := by
  rw [drawn_start, carried, Option.isSome_some, Bool.or_true]
  rfl

namespace Hop

/-- One hop: an ID that can be read where it arrives is seen everywhere. -/
theorem shows_chosenId (hop : Hop) (readable : hop.chosenId.isReadable = true) :
    hop.Shows hop.chosenId := by
  have filled : hop.chosenId.isEmpty = false := Gateway.isEmpty_chosenId ..
  have settable := RequestId.isSettable_of_isReadable readable
  have sent : hop.sent.request.metadata.values RequestId.header = [octetsOf hop.chosenId.text] := by
    have replaced := Gateway.metadata_draft_of_settable hop.enabled settable
    exact (congrArg (Metadata.values · RequestId.header) replaced).trans
      (Metadata.values_replace_same ..)
  refine ⟨Gateway.get?_requestId_start _ _ hop.enabled, sent, ?_⟩
  rw [received, receive_of_values _ _ sent readable filled]

/-- From one hop to the next the ID is carried, by whichever of the two ways is taken. -/
theorem Follows.carriedId? {previous next : Hop} (follows : Follows previous next)
    {id : RequestId} (shows : previous.Shows id) (readable : id.isReadable = true)
    (filled : id.isEmpty = false) : Gateway.carriedId? next.call = some id := by
  cases follows with
  | metadata same bare =>
    have kept : previous.received.request = previous.sent.request := by
      rw [received, receive_of_values _ _ shows.sent readable filled]
    have values := same.trans (kept ▸ shows.sent)
    exact Gateway.carriedId?_of_values values readable filled bare
  | extension same =>
    have own : next.call.extensions.ownId? = some id := by
      rw [Extensions.ownId?, same, shows.stored, Option.filter_some, filled]
      rfl
    exact Gateway.carriedId?_of_own own

/-- Along a run every later call carries the ID of the first one. -/
theorem Run.carriedId? {first : Hop} {rest : List Hop} (run : Run first rest)
    (readable : first.chosenId.isReadable = true) :
    ∀ hop ∈ rest, Gateway.carriedId? hop.call = some first.chosenId := by
  induction run with
  | last =>
    intro hop member
    cases member
  | @step first next rest follows later ih =>
    have shown := first.shows_chosenId readable
    have carried := follows.carriedId? shown readable (Gateway.isEmpty_chosenId ..)
    have same : next.chosenId = first.chosenId := Gateway.chosenId_of_carried _ carried
    intro hop member
    rcases List.mem_cons.mp member with rfl | member
    · exact carried
    · exact same ▸ ih (same ▸ readable) hop member

/-- Over any number of hops the log, the metadata and the servers have the ID of the first call,
and nobody takes a fresh one after it. -/
theorem shows_first_id {first : Hop} {rest : List Hop} (run : Run first rest) :
    (first.call.extensions.ownId? = none → first.chosenId.isReadable = true) ∧
      (first.chosenId.isReadable = true →
        (∀ hop ∈ first :: rest,
          hop.Shows first.chosenId ∧ hop.arrived.supply = hop.arrival.supply) ∧
        ∀ hop ∈ rest, hop.departed.supply.drawn = hop.departure.supply.drawn) := by
  refine ⟨Gateway.isReadable_chosenId first.departure, ?_⟩
  intro readable
  have carried := run.carriedId? readable
  have same : ∀ hop ∈ first :: rest, hop.chosenId = first.chosenId := by
    intro hop member
    rcases List.mem_cons.mp member with rfl | later
    · rfl
    · exact Gateway.chosenId_of_carried hop.departure (carried hop later)
  constructor
  · intro hop member
    have chosen := same hop member
    have shown : hop.Shows first.chosenId := chosen ▸ hop.shows_chosenId (chosen ▸ readable)
    refine ⟨shown, ?_⟩
    rw [arrived, receive_of_values _ _ shown.sent readable (Gateway.isEmpty_chosenId ..)]
    rfl
  · intro hop later
    exact hop.gateway.drawn_start_of_carried hop.departure (carried hop later)

/-- A fresh ID goes on in the metadata first, and then as the ID that a server stored. -/
theorem shows_fresh_id_twice :
    let gateway : Gateway := ⟨.standard, .standard, .silent⟩
    let shared : Shared := .start (fun _ => ⟨⟨0, 0⟩, 0⟩) (fun _ => 0)
    let bare : Request := ⟨"/pkg.Service/Method", "", .empty⟩
    let first : Hop := ⟨gateway, rfl, ⟨bare, .empty⟩, shared, .empty, shared⟩
    let second : Hop := ⟨gateway, rfl, ⟨first.received.request, .empty⟩, shared, .empty, shared⟩
    let third : Hop :=
      ⟨gateway, rfl, ⟨bare, ⟨none, none, second.received.extensions.requestId?⟩⟩, shared, .empty,
        shared⟩
    Run first [second, third] ∧ first.chosenId = .ofSeed 0 ∧
      (∀ hop ∈ [first, second, third], hop.Shows (.ofSeed 0)) ∧
      third.departed.supply.drawn = 0 := by
  intro gateway shared bare first second third
  have forwarded : second.call.request = first.received.request := rfl
  have kept : third.call.extensions = ⟨none, none, second.received.extensions.requestId?⟩ := rfl
  have bySecond : Follows first second := .metadata (by rw [forwarded]) rfl
  have byThird : Follows second third := .extension (by rw [kept])
  have run : Run first [second, third] := .step bySecond (.step byThird (.last third))
  have carried : Gateway.carriedId? first.call = none := by decide
  have fresh : first.chosenId = .ofSeed 0 :=
    Gateway.chosenId_of_not_carried first.departure carried
  obtain ⟨foreign, survives⟩ := shows_first_id run
  obtain ⟨shown, quiet⟩ := survives (foreign rfl)
  refine ⟨run, fresh, fun hop member => fresh ▸ (shown hop member).1, ?_⟩
  exact quiet third (List.mem_cons_of_mem _ List.mem_cons_self)

end Hop

end CallJournal
