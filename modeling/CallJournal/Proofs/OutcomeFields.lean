import CallJournal.Proofs.Additions
import CallJournal.Proofs.Deadline
import CallJournal.Proofs.OutcomeRecord
import CallJournal.Proofs.SentId

/-! Of several fields with one name the latest stands, and how the call ended comes last. -/

namespace CallJournal.Gateway

variable (gateway : Gateway) (call : Call) (shared : Shared)

/-- What every call says of itself: five fields, and its deadline if it carries a timeout. -/
def requestFacts (request : Request) (begun : Instant) : List (String × Json) :=
  let path := MethodPath.split request.method
  let deadline? := request.timeout?.bind begun.plus?
  [(FieldName.system, Json.string "grpc"), (FieldName.kind, .string "gateway"),
    (FieldName.service, .string path.service), (FieldName.method, .string path.method),
    (FieldName.startTime, .string begun.text)] ++
  (deadline?.map fun deadline => (FieldName.deadline, Json.string deadline.text)).toList

def idFacts : List (String × Json) :=
  if gateway.config.requestIdDisabled then []
  else [(RequestId.field, .string (chosenId call shared).text)]

def flagFacts (metadata : Metadata) : List (String × Json) :=
  if gateway.config.dynamicLevel then
    ((metadata.forwarded? gateway.config.flagKey).map fun value =>
      (FieldName.logFlag, Json.string value)).toList
  else []

/-- The account that is written down for a call with some metadata. -/
def accountText (metadata : Metadata) (now : Int) : String :=
  match Token.accountId gateway.libraries metadata gateway.config.keyfunc? now with
  | .ok account => account
  | .error _ => undefinedValue

def accountFacts (metadata : Metadata) (now : Int) : List (String × Json) :=
  if gateway.config.accountIdEnabled then
    [(Token.accountField, .string (gateway.accountText metadata now))]
  else []

/-- What the logger of a call gets from the call itself. Headers and the token are looked up in the
metadata that goes on. -/
def facts : List (String × Json) :=
  let begun := shared.reading.time
  let sent := (gateway.start call shared).2.1.request.metadata
  requestFacts call.request begun ++ gateway.idFacts call shared ++ gateway.flagFacts sent ++
    gateway.accountFacts sent begun.seconds

theorem knownFields_eq (request : Request) (begun : Instant) :
    request.knownFields begun = .ofList (requestFacts request begun) := by
  rw [Request.knownFields, callFields, request.deadline?_eq, Fields.insert?_eq_insertAll,
    requestFacts, Fields.ofList_append, Option.map_map]
  rfl

theorem fields_identify (fields : Fields) : (gateway.identify call fields shared).fields =
    fields.insertAll (gateway.idFacts call shared) := by
  unfold identify idFacts
  split <;> rfl

theorem fields_flag (draft : Draft) : (gateway.flag draft).fields =
    draft.fields.insertAll (gateway.flagFacts draft.metadata) := by
  simp only [flag, flagOf, flagFacts, Fields.insert?_eq_insertAll]
  split
  · rw [Option.map_map]
    rfl
  · rfl

theorem fields_account (now : Int) (draft : Draft) : (gateway.account now draft).fields =
    draft.fields.insertAll (gateway.accountFacts draft.metadata now) := by
  unfold account accountFacts accountText
  split
  · cases Token.accountId gateway.libraries draft.metadata gateway.config.keyfunc? now <;> rfl
  · rfl

/-- The draft of a call's logger holds the facts of the call and nothing else. -/
theorem fields_draft :
    (gateway.draft call shared).fields = .ofList (gateway.facts call shared) := by
  have sent : (gateway.start call shared).2.1.request.metadata =
      (gateway.identify call (call.request.knownFields shared.reading.time) shared.tick).metadata :=
    gateway.metadata_draft call shared
  have named : gateway.idFacts call shared.tick = gateway.idFacts call shared := by
    simp only [idFacts, chosenId, chooseId_tick]
  simp only [facts, Fields.ofList_append, sent]
  rw [draft, fields_account, fields_flag, fields_identify, named, knownFields_eq]
  rfl

theorem loggerFor_draft : gateway.loggerFor (gateway.draft call shared) =
    ⟨gateway.filterOf (gateway.draft call shared).metadata,
      gateway.logger.fields.merge (.ofList (gateway.facts call shared)), gateway.logger.sink⟩ := by
  rw [← fields_draft]
  rfl

/-- None of the other facts can be mistaken for the deadline. -/
theorem exists_deadline_mem_facts_iff :
    (∃ value, (FieldName.deadline, value) ∈ gateway.facts call shared) ↔
      ∃ deadline, call.request.timeout?.bind shared.reading.time.plus? = some deadline := by
  have identified (value : Json) : (FieldName.deadline, value) ∉ gateway.idFacts call shared := by
    unfold idFacts
    split <;> simp [FieldName.deadline, RequestId.field]
  have flagged (metadata : Metadata) (value : Json) :
      (FieldName.deadline, value) ∉ gateway.flagFacts metadata := by
    unfold flagFacts
    split <;> simp [FieldName.deadline, FieldName.logFlag]
  have accounted (metadata : Metadata) (now : Int) (value : Json) :
      (FieldName.deadline, value) ∉ gateway.accountFacts metadata now := by
    unfold accountFacts
    split <;> simp [FieldName.deadline, Token.accountField]
  simp only [facts, List.mem_append, identified, flagged, accounted, or_false]
  constructor
  · rintro ⟨value, member⟩
    simp only [requestFacts, List.mem_append, Option.mem_toList] at member
    rcases member with basic | timed
    · simp [FieldName.deadline, FieldName.system, FieldName.kind, FieldName.service,
        FieldName.method, FieldName.startTime] at basic
    · obtain ⟨deadline, found, _⟩ := Option.map_eq_some_iff.mp timed
      exact ⟨deadline, found⟩
  · rintro ⟨deadline, found⟩
    refine ⟨.string deadline.text, List.mem_append_right _ ?_⟩
    rw [found]
    exact List.mem_singleton_self _

theorem code_of_failure? (outcome : Outcome) :
    ((failure? outcome).map Status.code).getD .ok = outcome.code := by
  cases outcome <;> rfl

/-- The record of an unmarked call has, the later over the earlier, the fields of the gateway's
logger, the facts of the call, what was added on its way, and the outcome. -/
theorem records_merged_fields {terminal : Service} (steady : IsSteady terminal)
    {last : LoggerCell → Call → Shared → List Fields}
    (adds : ∀ cell, Adds cell (last cell) terminal)
    (chain : List Link)
    (unmarked : (serve chain terminal (gateway.start call shared).2.1
      (gateway.start call shared).2.2).2.isMarked (gateway.start call shared).1.sentinel = false) :
    let started := gateway.start call shared
    let answered := serve chain terminal started.2.1 started.2.2
    let ended := serve (.gateway gateway :: chain) terminal call shared
    let level := gateway.config.levelOf ended.1.code
    let message := "finished client unary call with code " ++ ended.1.code.name
    let elapsed : Duration := ⟨answered.2.reading.ticks - shared.reading.ticks⟩
    let added := additions terminal last started.1.cell chain started.2.1 started.2.2
    let fields := Fields.mergeAll ([gateway.logger.fields, .ofList (gateway.facts call shared)] ++
      added ++ [outcomeFields elapsed (failure? ended.1)])
    ended.1 = answered.1 ∧
      ended.2.journal = answered.2.journal ++
        (if (gateway.filterOf started.2.1.request.metadata).passes level then
          [gateway.logger.sink.entry ⟨level, message, fields⟩] else []) ∧
      fields.get? FieldName.code = some (.string ended.1.code.name) ∧
      fields.get? FieldName.duration = some (.ofDouble elapsed.milliseconds) ∧
      (∀ status, ended.1 = .error status →
        fields.get? FieldName.error = some (.string status.text)) ∧
      (shared.reading.time.LeavesRoom →
        ((∃ value, (FieldName.deadline, value) ∈ gateway.facts call shared) ↔
          ∃ timeout, call.request.timeout? = some timeout)) := by
  intro started answered ended level message elapsed added fields
  have held : answered.2.logger started.1.cell =
      (gateway.loggerFor (gateway.draft call shared)).withAll added := by
    have grown := adds_serve steady (adds started.1.cell) chain started.2.1 started.2.2
      (gateway.cell_start_lt call shared)
    exact grown.trans (congrArg (Logger.withAll · added) (gateway.loggerOf_start call shared))
  have merged : fields = (added.foldl Fields.merge (gateway.logger.fields.merge
      (.ofList (gateway.facts call shared)))).merge (outcomeFields elapsed (failure? ended.1)) := by
    simp only [fields, Fields.mergeAll_append_singleton, Fields.mergeAll, List.foldl_append,
      List.foldl_cons, List.foldl_nil, Fields.empty_merge]
  -- The outcome is merged last, so nothing takes the place of what it says.
  have outcome : ∀ name value, (outcomeFields elapsed (failure? ended.1)).get? name = some value →
      fields.get? name = some value := by
    intro name value found
    rw [merged, Fields.get?_merge, found, Option.some_or]
  refine ⟨rfl, ?_, ?_, ?_, ?_, ?_⟩
  · have written := gateway.journal_finish answered.2 answered.1 unmarked
    rw [held, Logger.withAll_eq, loggerFor_draft] at written
    rw [merged]
    exact written
  · exact outcome _ _ (code_of_failure? ended.1 ▸ get?_code_outcomeFields elapsed _)
  · exact outcome _ _ (get?_duration_outcomeFields elapsed _)
  · intro status failed
    exact outcome _ _ (failed ▸ get?_error_outcomeFields elapsed status)
  · intro room
    rw [exists_deadline_mem_facts_iff, Request.exists_deadline_iff room]

/-- The failure and what was added stand, although the gateway's logger and an interceptor have
fields of the same names. -/
theorem records_failure_over_added_code :
    let base : Logger := ⟨.upTo .warn, Fields.ofList [(FieldName.code, .string "base")], .records⟩
    let gateway : Gateway := ⟨base, .standard, .silent⟩
    let first : Fields := .ofList [(FieldName.code, .string "first"), ("user", .string "first")]
    let second : Fields := .ofList [("user", .string "second")]
    let adding : Interceptor := fun _ => .first (.addFields first) fun _ =>
      .forward fun outcome => .first (.addFields second) fun _ => .answer outcome
    let terminal : Service := transport fun _ => .error ⟨.unavailable, "down"⟩
    let call : Call := ⟨⟨"/svc.Pkg/Method", "", .empty⟩, .empty⟩
    let shared : Shared := .start (fun _ => ⟨⟨0, 0⟩, 0⟩) (fun _ => 0)
    let started := gateway.start call shared
    let answered := serve [.interceptor adding] terminal started.2.1 started.2.2
    IsSteady terminal ∧ (∀ cell, Adds cell (fun _ _ => []) terminal) ∧
      answered.2.isMarked started.1.sentinel = false ∧
      ∃ fields : Fields,
        (serve [.gateway gateway, .interceptor adding] terminal call shared).2.journal =
          answered.2.journal ++
            [.record ⟨.warn, "finished client unary call with code Unavailable", fields⟩] ∧
        fields.get? FieldName.code = some (.string "Unavailable") ∧
        fields.get? FieldName.error =
          some (.string "rpc error: code = Unavailable desc = down") ∧
        fields.get? "user" = some (.string "second") := by
  intro base gateway first second adding terminal call shared started answered
  have steady : IsSteady terminal := isSteady_transport _
  have adds : ∀ cell, Adds cell (fun _ _ => []) terminal := fun cell => adds_transport cell _
  have marks : answered.2.marks = started.2.2.marks := by
    simp [answered, serve, Link.wrap, adding, Plan.run, terminal, transport, Shared.see,
      Shared.enter]
  have unmarked : answered.2.isMarked started.1.sentinel = false := by
    rw [Shared.isMarked, marks]
    exact gateway.isMarked_start call shared
  have added : additions terminal (fun _ _ _ => []) started.1.cell [.interceptor adding]
      started.2.1 started.2.2 = [first, second] := by
    simp [additions, Plan.additions, adding, Act.additions, Act.perform, started, start,
      Extensions.attach, Extensions.guard]
  obtain ⟨-, written, code, -, failure, -⟩ :=
    gateway.records_merged_fields call shared steady adds [.interceptor adding] unmarked
  refine ⟨steady, adds, unmarked, _, written, code, failure _ rfl, ?_⟩
  rw [Fields.get?_mergeAll, added]
  simp [outcomeFields, Fields.get?_insert?_other, Fields.get?_insert, Fields.ofList, second,
    FieldName.code, FieldName.duration, FieldName.error, Json.arranged]

end CallJournal.Gateway
