import CallJournal.Shared

namespace CallJournal

def assignedId (id : RequestId) : Event :=
  .ofMessage .trace "gateway_log::request_id" "assigned request id"
    [("request_id", .shown id.text)]

/-- Receives a call: its request ID is the one in its metadata, or a fresh one that is put there. -/
def receive (call : Call) (shared : Shared) : Call × Shared :=
  match RequestId.ofMetadata? call.request.metadata with
  | some id =>
    ({ call with extensions := { call.extensions with requestId? := some id } },
      shared.emit (assignedId id))
  | none =>
    let id := shared.freshId
    let metadata := call.request.metadata.replace RequestId.header (octetsOf id.text)
    ({ request := { call.request with metadata }
       extensions := { call.extensions with requestId? := some id } },
      shared.draw.emit (assignedId id))

/-- The refusal of a call whose fresh ID cannot be sent. -/
def unsendableId : Status := ⟨.internal, "failed to encode request id"⟩

/-- Receives a call, unless it needs a fresh ID and that cannot be a metadata value. -/
def accept (call : Call) (shared : Shared) : Except Status (Call × Shared) :=
  match RequestId.ofMetadata? call.request.metadata with
  | some _ => .ok (receive call shared)
  | none =>
    if shared.freshId.isSettable then .ok (receive call shared) else .error unsendableId

theorem receive_of_found {call : Call} {id : RequestId}
    (found : RequestId.ofMetadata? call.request.metadata = some id) (shared : Shared) :
    receive call shared =
      (⟨call.request, { call.extensions with requestId? := some id }⟩,
        shared.emit (assignedId id)) := by
  simp only [receive, found]

theorem receive_of_not_found {call : Call}
    (missing : RequestId.ofMetadata? call.request.metadata = none) (shared : Shared) :
    receive call shared =
      (⟨{ call.request with
          metadata := call.request.metadata.replace RequestId.header
            (octetsOf shared.freshId.text) },
        { call.extensions with requestId? := some shared.freshId }⟩,
        shared.draw.emit (assignedId shared.freshId)) := by
  simp only [receive, missing]

/-- No call is refused. -/
theorem accept_eq_ok (call : Call) (shared : Shared) :
    accept call shared = .ok (receive call shared) := by
  have settable : shared.freshId.isSettable = true :=
    RequestId.isSettable_of_isReadable (RequestId.isReadable_ofSeed shared.seed)
  unfold accept
  split
  · rfl
  · rw [if_pos settable]

end CallJournal
