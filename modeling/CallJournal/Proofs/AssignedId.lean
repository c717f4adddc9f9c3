import CallJournal.Proofs.UsableId

namespace CallJournal

/-- A call that has got its ID: the ID is stored with it, and is the first that its metadata has. -/
structure Call.IsAssigned (call : Call) (id : RequestId) : Prop where
  stored : call.extensions.requestId? = some id
  first : call.request.metadata.idValues.head? = some (octetsOf id.text)
  readable : id.isReadable = true
  filled : id.isEmpty = false

/-- What becomes of a call that is received. Only a header whose first value cannot be used is
replaced, and nothing else changes. -/
structure Call.Received (call received : Call) (id : RequestId) : Prop
    extends received.IsAssigned id where
  others : ∀ key, key ≠ RequestId.header →
    received.request.metadata.values key = call.request.metadata.values key
  kept : call.request.metadata.LeadsWithId → received.request.metadata = call.request.metadata
  replaced : ¬ call.request.metadata.LeadsWithId →
    received.request.metadata.idValues = [octetsOf id.text]
  request : received.request = { call.request with metadata := received.request.metadata }
  extensions : received.extensions = { call.extensions with requestId? := some id }

/-- A call that has got its ID is received as it is. -/
theorem Call.IsAssigned.receive_eq {call : Call} {id : RequestId} (assigned : call.IsAssigned id)
    (shared : Shared) : receive call shared = (call, shared.emit (assignedId id)) := by
  have found := Metadata.ofMetadata?_eq_some_iff.mpr
    ⟨assigned.first, assigned.readable, assigned.filled⟩
  rw [receive_of_found found, ← assigned.stored]

theorem received_of_found {call : Call} {id : RequestId}
    (found : RequestId.ofMetadata? call.request.metadata = some id) (shared : Shared) :
    call.Received (receive call shared).1 id := by
  have leads := Metadata.exists_ofMetadata?_iff.mp ⟨id, found⟩
  obtain ⟨first, readable, filled⟩ := Metadata.ofMetadata?_eq_some_iff.mp found
  rw [receive_of_found found]
  exact {
    stored := rfl
    first, readable, filled
    others := fun _ _ => rfl
    kept := fun _ => rfl
    replaced := fun unled => absurd leads unled
    request := rfl
    extensions := rfl }

theorem received_of_not_found {call : Call}
    (missing : RequestId.ofMetadata? call.request.metadata = none) (shared : Shared) :
    call.Received (receive call shared).1 shared.freshId := by
  have unled := Metadata.ofMetadata?_eq_none_iff.mp missing
  have values := call.request.metadata.values_replace_same RequestId.header
    (octetsOf shared.freshId.text)
  rw [receive_of_not_found missing]
  exact {
    stored := rfl
    first := List.head?_eq_some_iff.mpr ⟨[], values⟩
    readable := RequestId.isReadable_ofSeed shared.seed
    filled := RequestId.isEmpty_ofSeed shared.seed
    others := fun key differs => call.request.metadata.values_replace_other _ differs
    kept := fun leads => absurd leads unled
    replaced := fun _ => values
    request := rfl
    extensions := rfl }

/-- No call is refused. It keeps the first ID of its metadata, if that can be used, and has one
fresh ID otherwise; receiving it once more changes nothing. -/
theorem accept_assigns_one_id (call : Call) (shared : Shared) :
    ∃ received after id, accept call shared = .ok (received, after) ∧ call.Received received id ∧
      ∀ later, ∃ final, accept received later = .ok (received, final) := by
  obtain ⟨id, done⟩ : ∃ id, call.Received (receive call shared).1 id := by
    cases found : RequestId.ofMetadata? call.request.metadata with
    | some id => exact ⟨id, received_of_found found shared⟩
    | none => exact ⟨shared.freshId, received_of_not_found found shared⟩
  refine ⟨_, _, id, accept_eq_ok call shared, done, ?_⟩
  intro later
  have again := done.toIsAssigned.receive_eq later
  exact ⟨_, (accept_eq_ok _ later).trans (congrArg Except.ok again)⟩

end CallJournal
