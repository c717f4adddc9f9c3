import CallJournal.Gateway

namespace CallJournal.Gateway

variable (gateway : Gateway) (call : Call) (shared : Shared)

def chosenId : RequestId := (chooseId call shared).1

@[simp]
theorem chooseId_tick : (chooseId call shared.tick).1 = chosenId call shared := by
  unfold chosenId chooseId
  split <;> rfl

theorem chosenId_of_carried {call : Call} {id : RequestId} (carried : carriedId? call = some id) :
    chosenId call shared = id := by
  simp only [chosenId, chooseId, carried]

theorem chosenId_of_not_carried {call : Call} (bare : carriedId? call = none) :
    chosenId call shared = shared.freshId := by
  simp only [chosenId, chooseId, bare]

theorem carriedId?_of_own {call : Call} {id : RequestId}
    (own : call.extensions.ownId? = some id) : carriedId? call = some id := by
  rw [carriedId?, own, Option.some_or]

/-- An ID that is not the call's own comes from a header that could be read. -/
theorem carriedId?_eq_some_iff_of_foreign {call : Call} {id : RequestId}
    (foreign : call.extensions.ownId? = none) : carriedId? call = some id ↔
      call.request.metadata.forwarded? RequestId.header = some id.text ∧ id.isEmpty = false := by
  rw [carriedId?, foreign, Option.none_or, Option.bind_eq_some_iff]
  constructor
  · rintro ⟨text, read, held⟩
    obtain ⟨rfl, filled⟩ := RequestId.ofText?_eq_some_iff.mp held
    exact ⟨read, filled⟩
  · rintro ⟨read, filled⟩
    exact ⟨id.text, read, RequestId.ofText?_eq_some_iff.mpr ⟨rfl, filled⟩⟩

theorem isEmpty_of_carried {call : Call} {id : RequestId} (carried : carriedId? call = some id) :
    id.isEmpty = false := by
  cases own : call.extensions.ownId? with
  | none => exact ((carriedId?_eq_some_iff_of_foreign own).mp carried).2
  | some kept =>
    have same : kept = id := Option.some.inj ((carriedId?_of_own own).symm.trans carried)
    obtain ⟨-, filled⟩ := Option.filter_eq_some_iff.mp own
    rw [← same]
    simpa using filled

theorem isEmpty_chosenId : (chosenId call shared).isEmpty = false := by
  cases carried : carriedId? call with
  | none =>
    rw [chosenId_of_not_carried shared carried]
    exact RequestId.isEmpty_ofSeed shared.seed
  | some id =>
    rw [chosenId_of_carried shared carried]
    exact isEmpty_of_carried carried

/-- Only an ID of the call's own can be one that does not survive being sent. -/
theorem isReadable_chosenId {call : Call} (foreign : call.extensions.ownId? = none) :
    (chosenId call shared).isReadable = true := by
  cases carried : carriedId? call with
  | none =>
    rw [chosenId_of_not_carried shared carried]
    exact RequestId.isReadable_ofSeed shared.seed
  | some id =>
    rw [chosenId_of_carried shared carried]
    exact Metadata.readable_of_forwarded?
      ((carriedId?_eq_some_iff_of_foreign foreign).mp carried).1

/-- Only the part of a draft in which the call is identified touches the metadata. -/
theorem metadata_draft : (gateway.draft call shared).metadata =
    (gateway.identify call (call.request.knownFields shared.reading.time) shared.tick).metadata :=
  metadata_account ..

theorem metadata_draft_of_settable {gateway : Gateway} {call : Call} {shared : Shared}
    (enabled : gateway.config.requestIdDisabled = false)
    (settable : (chosenId call shared).isSettable = true) :
    (gateway.draft call shared).metadata = call.request.metadata.replace RequestId.header
      (octetsOf (chosenId call shared).text) := by
  rw [metadata_draft]
  simp only [identify, enabled, Bool.false_eq_true, if_false, chooseId_tick, Shared.setMetadata,
    Metadata.set_of_settable _ RequestId.textKey?_header settable]

theorem metadata_draft_of_unsettable {gateway : Gateway} {call : Call} {shared : Shared}
    (enabled : gateway.config.requestIdDisabled = false)
    (unsettable : (chosenId call shared).isSettable = false) :
    (gateway.draft call shared).metadata = call.request.metadata := by
  rw [metadata_draft]
  simp only [identify, enabled, Bool.false_eq_true, if_false, chooseId_tick, Shared.setMetadata,
    Metadata.set_of_unsettable _ RequestId.textKey?_header unsettable]

theorem get?_flag_other (draft : Draft) {name : String} (differs : name ≠ FieldName.logFlag) :
    (gateway.flag draft).fields.get? name = draft.fields.get? name :=
  Fields.get?_insert?_other _ _ differs

theorem get?_account_other (now : Int) (draft : Draft) {name : String}
    (differs : name ≠ Token.accountField) :
    (gateway.account now draft).fields.get? name = draft.fields.get? name := by
  unfold account
  split
  · split <;> rw [Fields.get?_insert, if_neg differs]
  · rfl

/-- Whatever else is written down about a call, its request ID is the one that was decided on. -/
theorem get?_requestId_draft {gateway : Gateway}
    (enabled : gateway.config.requestIdDisabled = false) :
    (gateway.draft call shared).fields.get? RequestId.field =
      some (.string (chosenId call shared).text) := by
  rw [draft, get?_account_other _ _ _ (by decide), get?_flag_other _ _ (by decide)]
  simp only [identify, enabled, Bool.false_eq_true, if_false, chooseId_tick, Fields.get?_insert,
    if_true]
  rfl

theorem get?_requestId_start {gateway : Gateway}
    (enabled : gateway.config.requestIdDisabled = false) :
    ((gateway.start call shared).2.2.loggerOf
        (gateway.start call shared).2.1.extensions).fields.get? RequestId.field =
      some (.string (chosenId call shared).text) := by
  rw [loggerOf_start, loggerFor, Logger.withFields, Fields.get?_merge,
    get?_requestId_draft call shared enabled, Option.some_or]

theorem drawn_chooseId : (chooseId call shared).2.supply.drawn =
    shared.supply.drawn + if (carriedId? call).isSome then 0 else 1 := by
  cases carried : carriedId? call <;> simp only [chooseId, carried] <;> rfl

/-- A gateway draws a fresh ID for a call that brings none, and for no other call. -/
theorem drawn_start : (gateway.start call shared).2.2.supply.drawn = shared.supply.drawn +
    if gateway.config.requestIdDisabled || (carriedId? call).isSome then 0 else 1 := by
  have identified (fields : Fields) :
      (gateway.identify call fields shared.tick).shared.supply.drawn = shared.supply.drawn +
        if gateway.config.requestIdDisabled || (carriedId? call).isSome then 0 else 1 := by
    unfold identify
    split
    · rename_i disabled
      rw [disabled, Bool.true_or]
      rfl
    · rename_i enabled
      rw [Bool.eq_false_iff.mpr enabled, Bool.false_or, Shared.supply_setMetadata, drawn_chooseId]
      rfl
  have drafted : (gateway.start call shared).2.2.supply =
      (gateway.draft call shared).shared.supply := rfl
  rw [drafted, draft, supply_account]
  exact identified _

/-- The one value that goes on under the header is what the call's logger has as request ID. -/
def SendsLogged : Prop :=
  ∃ text, ((gateway.start call shared).2.2.loggerOf
      (gateway.start call shared).2.1.extensions).fields.get? RequestId.field =
        some (.string text) ∧
    (gateway.start call shared).2.1.request.metadata.values RequestId.header = [octetsOf text]

variable {gateway call shared}

theorem sendsLogged_iff (enabled : gateway.config.requestIdDisabled = false) :
    gateway.SendsLogged call shared ↔ (gateway.draft call shared).metadata.values RequestId.header =
      [octetsOf (chosenId call shared).text] := by
  have logged := get?_requestId_start call shared enabled
  constructor
  · rintro ⟨text, written, sent⟩
    have same : chosenId call shared = ⟨text⟩ := by
      have texts := Option.some.inj (logged.symm.trans written)
      injection texts with texts
      exact congrArg RequestId.mk texts
    rw [same]
    exact sent
  · intro sent
    exact ⟨_, logged, sent⟩

theorem sendsLogged_of_settable (enabled : gateway.config.requestIdDisabled = false)
    (settable : (chosenId call shared).isSettable = true) : gateway.SendsLogged call shared := by
  rw [sendsLogged_iff enabled, metadata_draft_of_settable enabled settable]
  exact Metadata.values_replace_same ..

/-- A gateway sends the ID that it logs exactly if the call's own ID, if it has one, can be sent. -/
theorem sendsLogged_iff_own_settable (enabled : gateway.config.requestIdDisabled = false)
    (sendable : ∀ value ∈ call.request.metadata.values RequestId.header,
      value.all Metadata.isSettable = true) :
    gateway.SendsLogged call shared ↔
      ∀ id, call.extensions.ownId? = some id → id.isSettable = true := by
  constructor
  · intro sends id own
    have chosen : chosenId call shared = id := chosenId_of_carried shared (carriedId?_of_own own)
    by_cases settable : id.isSettable = true
    · exact settable
    · have unsettable : (chosenId call shared).isSettable = false :=
        chosen ▸ Bool.eq_false_iff.mpr settable
      have kept := metadata_draft_of_unsettable enabled unsettable
      have sent := (sendsLogged_iff enabled).mp sends
      rw [kept, chosen] at sent
      exact sendable (octetsOf id.text) (sent ▸ List.mem_singleton_self _)
  · intro own
    apply sendsLogged_of_settable enabled
    cases found : call.extensions.ownId? with
    | none => exact RequestId.isSettable_of_isReadable (isReadable_chosenId shared found)
    | some id =>
      rw [chosenId_of_carried shared (carriedId?_of_own found)]
      exact own id found

/-- A call that was forwarded with two values sends the first of them, which it also logs. -/
theorem sendsLogged_of_repeated_header :
    let gateway : Gateway := ⟨.standard, .standard, .silent⟩
    let metadata : Metadata :=
      ⟨[(RequestId.header, octetsOf "first"), (RequestId.header, octetsOf "second")]⟩
    let call : Call := ⟨⟨"/pkg.Service/Method", "", metadata⟩, .empty⟩
    let shared : Shared := .start (fun _ => ⟨⟨0, 0⟩, 0⟩) (fun _ => 0)
    gateway.config.requestIdDisabled = false ∧
      (∀ value ∈ metadata.values RequestId.header, value.all Metadata.isSettable = true) ∧
      (∀ id, call.extensions.ownId? = some id → id.isSettable = true) ∧
      gateway.SendsLogged call shared := by
  intro gateway metadata call shared
  have sendable : ∀ value ∈ metadata.values RequestId.header,
      value.all Metadata.isSettable = true := by decide
  have bare : ∀ id, call.extensions.ownId? = some id → id.isSettable = true := by
    intro id own
    cases own
  exact ⟨rfl, sendable, bare, (sendsLogged_iff_own_settable rfl sendable).mpr bare⟩

/-- An ID with a line break is logged, but what goes on under the header is what was there. -/
theorem not_sendsLogged_of_line_break :
    let gateway : Gateway := ⟨.standard, .standard, .silent⟩
    let metadata : Metadata := ⟨[(RequestId.header, octetsOf "kept")]⟩
    let own : RequestId := ⟨"line\nbreak"⟩
    let call : Call := ⟨⟨"/pkg.Service/Method", "", metadata⟩, ⟨none, none, some own⟩⟩
    let shared : Shared := .start (fun _ => ⟨⟨0, 0⟩, 0⟩) (fun _ => 0)
    gateway.config.requestIdDisabled = false ∧
      (∀ value ∈ metadata.values RequestId.header, value.all Metadata.isSettable = true) ∧
      ¬ gateway.SendsLogged call shared ∧
      (gateway.start call shared).2.1.request.metadata = metadata := by
  intro gateway metadata own call shared
  have carried : call.extensions.ownId? = some own := rfl
  have chosen : chosenId call shared = own :=
    chosenId_of_carried shared (carriedId?_of_own carried)
  have unsettable : (chosenId call shared).isSettable = false := by
    rw [chosen]
    decide
  have kept : (gateway.draft call shared).metadata = metadata :=
    metadata_draft_of_unsettable rfl unsettable
  have differs : metadata.values RequestId.header ≠ [octetsOf own.text] := by decide
  refine ⟨rfl, by decide, ?_, kept⟩
  intro sends
  have sent := (sendsLogged_iff rfl).mp sends
  rw [kept, chosen] at sent
  exact differs sent

end CallJournal.Gateway
