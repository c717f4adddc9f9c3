import CallJournal.Proofs.SentId
import CallJournal.Proofs.UsableId

namespace CallJournal

/-- The ID that the values of a key lead with, if it can be used. -/
def Metadata.leadingId? (metadata : Metadata) (key : String) : Option RequestId :=
  (metadata.first? key).bind RequestId.ofOctets?

def RequestId.markedHeader : String := Metadata.forwardedMark ++ RequestId.header

theorem Metadata.leadingId?_eq_bind (metadata : Metadata) (key : String) :
    metadata.leadingId? key = (metadata.text? key).bind RequestId.ofText? := by
  rw [text?, Option.bind_assoc]
  rfl

theorem RequestId.ofText?_eq_none_iff {text : String} : ofText? text = none ↔ text = "" := by
  simp [ofText?]

namespace Gateway

section

variable {call : Call}

/-- The request ID that a call brings: the first that can be used of its own, the plain and the
marked one. -/
def broughtId? (call : Call) : Option RequestId :=
  call.extensions.ownId?.or
    ((call.request.metadata.leadingId? RequestId.header).or
      (call.request.metadata.leadingId? RequestId.markedHeader))

/-- The call has no ID of its own, and an empty plain value stands before a marked ID. -/
structure HidesMarkedId (call : Call) : Prop where
  foreign : call.extensions.ownId? = none
  empty : call.request.metadata.first? RequestId.header = some []
  marked : ∃ id, call.request.metadata.leadingId? RequestId.markedHeader = some id

theorem carriedId?_eq (call : Call) :
    carriedId? call = call.extensions.ownId?.or
      (((call.request.metadata.text? RequestId.header).or
        (call.request.metadata.text? RequestId.markedHeader)).bind RequestId.ofText?) := by
  have folded : Text.lowered RequestId.header = RequestId.header := by decide
  rw [carriedId?, Metadata.forwarded?, folded]
  rfl

theorem text?_of_empty {metadata : Metadata} {key : String}
    (empty : metadata.first? key = some []) : metadata.text? key = some "" := by
  have nothing : octetsOf "" = [] := by decide
  apply Metadata.text?_eq_some_iff.mpr
  rw [nothing]
  exact ⟨empty, rfl⟩

theorem first?_of_text?_empty {metadata : Metadata} {key : String}
    (text : metadata.text? key = some "") : metadata.first? key = some [] := by
  have nothing : octetsOf "" = [] := by decide
  exact nothing ▸ (Metadata.text?_eq_some_iff.mp text).1

theorem carriedId?_of_hidden (hidden : HidesMarkedId call) : carriedId? call = none := by
  rw [carriedId?_eq, hidden.foreign, text?_of_empty hidden.empty, Option.none_or, Option.some_or,
    Option.bind_some]
  exact RequestId.ofText?_eq_none_iff.mpr rfl

theorem broughtId?_of_hidden (hidden : HidesMarkedId call) :
    ∃ id, broughtId? call = some id := by
  obtain ⟨id, marked⟩ := hidden.marked
  refine ⟨id, ?_⟩
  rw [broughtId?, hidden.foreign, marked, Metadata.leadingId?_eq_bind, text?_of_empty hidden.empty,
    Option.bind_some, RequestId.ofText?_eq_none_iff.mpr rfl, Option.none_or, Option.none_or]

/-- The sources of an ID are asked one after the other, unless the plain header is empty. -/
theorem carriedId?_eq_broughtId? (exposed : ¬ HidesMarkedId call) :
    carriedId? call = broughtId? call := by
  rw [carriedId?_eq, broughtId?]
  cases own : call.extensions.ownId? with
  | some id => rw [Option.some_or, Option.some_or]
  | none =>
    rw [Option.none_or, Option.none_or, Metadata.leadingId?_eq_bind _ RequestId.header]
    cases plain : call.request.metadata.text? RequestId.header with
    | none =>
      rw [Option.none_or, Option.bind_none, Option.none_or, Metadata.leadingId?_eq_bind]
    | some text =>
      rw [Option.some_or, Option.bind_some]
      cases held : RequestId.ofText? text with
      | some id => rw [Option.some_or]
      | none =>
        -- The plain value is empty, so that there is no marked ID that it could hide.
        obtain rfl := RequestId.ofText?_eq_none_iff.mp held
        have empty := first?_of_text?_empty plain
        rw [Option.none_or]
        cases marked : call.request.metadata.leadingId? RequestId.markedHeader with
        | none => rfl
        | some id => exact absurd ⟨own, empty, id, marked⟩ exposed

end

variable (gateway : Gateway) (call : Call) (shared : Shared)

/-- The gateway takes an ID for a call, and draws that many fresh ones for it. -/
structure Takes (id : RequestId) (fresh : Nat) : Prop where
  logged : ((gateway.start call shared).2.2.loggerOf
    (gateway.start call shared).2.1.extensions).fields.get? RequestId.field =
      some (.string id.text)
  drawn : (gateway.start call shared).2.2.supply.drawn = shared.supply.drawn + fresh

/-- The gateway takes the ID that a call brings, and draws a fresh one only if it brings none. -/
def TakesBroughtId : Prop :=
  match broughtId? call with
  | some id => gateway.Takes call shared id 0
  | none => gateway.Takes call shared shared.freshId 1

variable {gateway call}

theorem takes_of_carried (enabled : gateway.config.requestIdDisabled = false) {id : RequestId}
    (carried : carriedId? call = some id) : gateway.Takes call shared id 0 where
  logged := by rw [get?_requestId_start call shared enabled, chosenId_of_carried shared carried]
  drawn := by
    rw [drawn_start, carried, Option.isSome_some, Bool.or_true]
    rfl

theorem takes_of_not_carried (enabled : gateway.config.requestIdDisabled = false)
    (bare : carriedId? call = none) : gateway.Takes call shared shared.freshId 1 where
  logged := by rw [get?_requestId_start call shared enabled, chosenId_of_not_carried shared bare]
  drawn := by
    rw [drawn_start, enabled, bare]
    rfl

/-- A gateway throws no ID away that a call brings, exactly if the call hides no marked ID behind an
empty plain value. Such a call gets a fresh ID. -/
theorem takesBroughtId_iff_not_hidden (enabled : gateway.config.requestIdDisabled = false) :
    (gateway.TakesBroughtId call shared ↔ ¬ HidesMarkedId call) ∧
      (HidesMarkedId call → gateway.Takes call shared shared.freshId 1) := by
  have afresh : HidesMarkedId call → gateway.Takes call shared shared.freshId 1 :=
    fun hidden => takes_of_not_carried shared enabled (carriedId?_of_hidden hidden)
  refine ⟨⟨?_, ?_⟩, afresh⟩
  · intro takes hidden
    obtain ⟨id, brought⟩ := broughtId?_of_hidden hidden
    rw [TakesBroughtId, brought] at takes
    exact Nat.succ_ne_self _ ((afresh hidden).drawn.symm.trans takes.drawn)
  · intro exposed
    have same := carriedId?_eq_broughtId? exposed
    rw [TakesBroughtId]
    cases brought : broughtId? call with
    | some id => exact takes_of_carried shared enabled (same.trans brought)
    | none => exact takes_of_not_carried shared enabled (same.trans brought)

/-- A plain value that cannot be read hides nothing: the marked ID behind it is taken. -/
theorem takesBroughtId_behind_unreadable :
    let gateway : Gateway := ⟨.standard, .standard, .silent⟩
    let metadata : Metadata :=
      ⟨[(RequestId.header, [0xff]), (RequestId.markedHeader, octetsOf "gw-1")]⟩
    let call : Call := ⟨⟨"/pkg.Service/Method", "", metadata⟩, ⟨none, none, some ⟨""⟩⟩⟩
    let shared : Shared := .start (fun _ => ⟨⟨0, 0⟩, 0⟩) (fun _ => 0)
    gateway.config.requestIdDisabled = false ∧ gateway.Takes call shared ⟨"gw-1"⟩ 0 := by
  intro gateway metadata call shared
  have enabled : gateway.config.requestIdDisabled = false := rfl
  have exposed : ¬ HidesMarkedId call := by
    intro hidden
    have first : call.request.metadata.first? RequestId.header = some [0xff] := by decide
    have same := first.symm.trans hidden.empty
    cases same
  have brought : broughtId? call = some ⟨"gw-1"⟩ := by decide
  have takes := (takesBroughtId_iff_not_hidden shared enabled).1.mpr exposed
  rw [TakesBroughtId, brought] at takes
  exact ⟨enabled, takes⟩

/-- A marked ID behind an empty plain value is thrown away. -/
theorem not_takesBroughtId_behind_empty :
    let gateway : Gateway := ⟨.standard, .standard, .silent⟩
    let metadata : Metadata :=
      ⟨[(RequestId.header, []), (RequestId.markedHeader, octetsOf "gw-1")]⟩
    let call : Call := ⟨⟨"/pkg.Service/Method", "", metadata⟩, .empty⟩
    let shared : Shared := .start (fun _ => ⟨⟨0, 0⟩, 0⟩) (fun _ => 0)
    gateway.config.requestIdDisabled = false ∧ broughtId? call = some ⟨"gw-1"⟩ ∧
      gateway.Takes call shared shared.freshId 1 ∧ ¬ gateway.TakesBroughtId call shared := by
  intro gateway metadata call shared
  have enabled : gateway.config.requestIdDisabled = false := rfl
  have bare : carriedId? call = none := by decide
  have brought : broughtId? call = some ⟨"gw-1"⟩ := by decide
  have afresh := takes_of_not_carried shared enabled bare
  refine ⟨enabled, brought, afresh, ?_⟩
  intro takes
  rw [TakesBroughtId, brought] at takes
  exact Nat.succ_ne_self _ (afresh.drawn.symm.trans takes.drawn)

end Gateway

end CallJournal
