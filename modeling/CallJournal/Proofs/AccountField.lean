import CallJournal.Proofs.OutcomeFields
import CallJournal.Proofs.OverlookedField
import CallJournal.Proofs.Transparency

/-! Two gateways that differ in the account lookup part in one field and perhaps one record. -/

namespace CallJournal.Gateway

variable (gateway : Gateway)

/-- The gateway with the look-up of accounts turned on or off. -/
def withAccounts (enabled : Bool) : Gateway :=
  { gateway with config := { gateway.config with accountIdEnabled := enabled } }

/-- What is written while an account is looked up. -/
def accountEntries (metadata : Metadata) (now : Int) : List Entry :=
  match Token.accountId gateway.libraries metadata gateway.config.keyfunc? now with
  | .ok _ => []
  | .error cause =>
    if gateway.logger.passes .info then
      [gateway.logger.sink.entry ⟨.info, cause.message, gateway.logger.fields⟩]
    else []

theorem account_of_disabled (disabled : gateway.config.accountIdEnabled = false) (now : Int)
    (draft : Draft) : gateway.account now draft = draft := by
  rw [account, disabled]
  rfl

theorem fields_account_of_enabled (enabled : gateway.config.accountIdEnabled = true) (now : Int)
    (draft : Draft) : (gateway.account now draft).fields =
      draft.fields.insert Token.accountField
        (.string (gateway.accountText draft.metadata now)) := by
  rw [fields_account, accountFacts, if_pos enabled]
  rfl

theorem shared_account_of_enabled (enabled : gateway.config.accountIdEnabled = true) (now : Int)
    (draft : Draft) : (gateway.account now draft).shared =
      match Token.accountId gateway.libraries draft.metadata gateway.config.keyfunc? now with
      | .ok _ => draft.shared
      | .error cause => draft.shared.log gateway.logger .info cause.message := by
  rw [account, if_pos enabled]
  cases Token.accountId gateway.libraries draft.metadata gateway.config.keyfunc? now <;> rfl

theorem journal_account_of_enabled (enabled : gateway.config.accountIdEnabled = true) (now : Int)
    (draft : Draft) : (gateway.account now draft).shared.journal =
      draft.shared.journal ++ gateway.accountEntries draft.metadata now := by
  rw [gateway.shared_account_of_enabled enabled, accountEntries]
  cases Token.accountId gateway.libraries draft.metadata gateway.config.keyfunc? now with
  | ok account => exact (List.append_nil _).symm
  | error cause =>
    by_cases passes : gateway.logger.passes .info = true
    · simp [Shared.journal_log, Logger.record?, passes]
    · simp [Shared.journal_log, Logger.record?, passes]

variable (call : Call) (shared : Shared)

/-- What is found out about a call apart from its account. -/
def outline : Draft :=
  gateway.flag (gateway.identify call (call.request.knownFields shared.reading.time) shared.tick)

theorem draft_eq_account_outline : gateway.draft call shared =
    gateway.account shared.reading.time.seconds (gateway.outline call shared) := rfl

theorem outline_withAccounts (enabled : Bool) :
    (gateway.withAccounts enabled).outline call shared = gateway.outline call shared := by
  unfold outline flag identify
  rfl

theorem draft_disabled :
    (gateway.withAccounts false).draft call shared = gateway.outline call shared := by
  rw [draft_eq_account_outline, outline_withAccounts]
  exact account_of_disabled _ rfl _ _

theorem draft_enabled : (gateway.withAccounts true).draft call shared =
    (gateway.withAccounts true).account shared.reading.time.seconds
      (gateway.outline call shared) := by
  rw [draft_eq_account_outline, outline_withAccounts]

theorem ticket_enabled : ((gateway.withAccounts true).start call shared).1 =
    ((gateway.withAccounts false).start call shared).1 := by
  rw [ticket_start, ticket_start]

theorem sent_enabled : ((gateway.withAccounts true).start call shared).2.1 =
    ((gateway.withAccounts false).start call shared).2.1 := by
  rw [sent_start, sent_start, draft_enabled, draft_disabled, metadata_account]

theorem metadata_sent_disabled :
    ((gateway.withAccounts false).start call shared).2.1.request.metadata =
      (gateway.outline call shared).metadata := by
  rw [sent_start, draft_disabled]

theorem filterOf_withAccounts (enabled : Bool) (metadata : Metadata) :
    (gateway.withAccounts enabled).filterOf metadata = gateway.filterOf metadata := by
  simp only [filterOf, withAccounts]
  congr

theorem loggerFor_withAccounts (enabled : Bool) (draft : Draft) :
    (gateway.withAccounts enabled).loggerFor draft = gateway.loggerFor draft := by
  rw [loggerFor, loggerFor, filterOf_withAccounts]
  rfl

theorem loggerFor_of_insert {draft other : Draft} {name : String} {value : Json}
    (metadata : draft.metadata = other.metadata)
    (fields : draft.fields = other.fields.insert name value) :
    gateway.loggerFor draft = (gateway.loggerFor other).withField name value := by
  rw [loggerFor, loggerFor, metadata, fields, Logger.withFields, Fields.merge_insert]
  rfl

/-- The loggers of the call differ in its account, and not in their filters. -/
theorem logger_enabled :
    let sent := ((gateway.withAccounts false).start call shared).2.1
    (gateway.withAccounts true).loggerFor ((gateway.withAccounts true).draft call shared) =
      ((gateway.withAccounts false).loggerFor
        ((gateway.withAccounts false).draft call shared)).withField Token.accountField (.string
          (gateway.accountText sent.request.metadata shared.reading.time.seconds)) := by
  intro sent
  have fields := (gateway.withAccounts true).fields_account_of_enabled rfl
    shared.reading.time.seconds (gateway.outline call shared)
  have metadata := (gateway.withAccounts true).metadata_account shared.reading.time.seconds
    (gateway.outline call shared)
  rw [loggerFor_withAccounts, loggerFor_withAccounts, draft_enabled, draft_disabled,
    gateway.loggerFor_of_insert metadata fields, metadata_sent_disabled]
  rfl

theorem journal_enabled :
    let sent := ((gateway.withAccounts false).start call shared).2.1
    ((gateway.withAccounts true).start call shared).2.2.journal =
      ((gateway.withAccounts false).start call shared).2.2.journal ++
        gateway.accountEntries sent.request.metadata shared.reading.time.seconds := by
  intro sent
  change ((gateway.withAccounts true).draft call shared).shared.journal =
    ((gateway.withAccounts false).draft call shared).shared.journal ++ _
  rw [draft_enabled, draft_disabled, journal_account_of_enabled _ rfl, metadata_sent_disabled]
  rfl

/-- From where the call goes on, both runs are the same but for the account. -/
theorem alike_enabled :
    Shared.Alike Token.accountField ((gateway.withAccounts true).start call shared).2.2.journal
      ((gateway.withAccounts false).start call shared).2.2.journal
      ((gateway.withAccounts true).start call shared).2.2
      ((gateway.withAccounts false).start call shared).2.2 where
  loggers := by
    have kept : List.Forall₂ (Logger.Alike Token.accountField) shared.loggers shared.loggers :=
      List.forall₂_same.mpr fun logger _ => .refl logger
    rw [loggers_start, loggers_start, logger_enabled]
    exact List.rel_append kept (.cons (Logger.alike_withField _ _) .nil)
  marks := by rw [marks_start, marks_start]
  supply := by
    change ((gateway.withAccounts true).draft call shared).shared.supply =
      ((gateway.withAccounts false).draft call shared).shared.supply
    rw [draft_enabled, draft_disabled, supply_account]
  journal := ⟨[], [], (List.append_nil _).symm, (List.append_nil _).symm, .nil⟩

theorem finish_enabled (ticket : Ticket) (outcome : Outcome) :
    (gateway.withAccounts true).finish ticket outcome shared =
      (gateway.withAccounts false).finish ticket outcome shared := by
  simp only [finish, withAccounts]

/-- With accounts a service is invoked with the call of the other run, and what comes after it is
what comes after it there. -/
theorem wrap_enabled (inner : Service) :
    (gateway.withAccounts true).wrap inner call shared =
      let other := (gateway.withAccounts false).start call shared
      let served := inner other.2.1 ((gateway.withAccounts true).start call shared).2.2
      (served.1, (gateway.withAccounts false).finish other.1 served.1 served.2) := by
  simp only [wrap, ticket_enabled, sent_enabled, finish_enabled]

/-- With the look-up of accounts and without it, a chain that does not go by the account gets the
same call and has the same outcome; the logger differs in that field, and a failed look-up is
recorded once. -/
theorem account_lookup_disturbs_no_call {chain : List Link} {inner : Service}
    (blind : ∀ link ∈ chain, link.Overlooks Token.accountField)
    (overlooks : Overlooks Token.accountField inner) :
    let sent := ((gateway.withAccounts false).start call shared).2.1
    let lookup := Token.accountId gateway.libraries sent.request.metadata gateway.config.keyfunc?
      shared.reading.time.seconds
    let before := ((gateway.withAccounts true).start call shared).2.2
    let plain := ((gateway.withAccounts false).start call shared).2.2
    let found := (gateway.withAccounts true).wrap (serve chain inner) call shared
    let usual := (gateway.withAccounts false).wrap (serve chain inner) call shared
    HandsOn (gateway.withAccounts true).wrap call shared sent before ∧
    HandsOn (gateway.withAccounts false).wrap call shared sent plain ∧
    before.loggerOf sent.extensions = (plain.loggerOf sent.extensions).withField "account_id"
      (.string (match lookup with
        | .ok account => account
        | .error _ => "undefined")) ∧
    before.journal = plain.journal ++
      (match lookup with
        | .ok _ => []
        | .error cause =>
          if gateway.logger.passes .info then
            [gateway.logger.sink.entry ⟨.info, cause.message, gateway.logger.fields⟩]
          else []) ∧
    found.1 = usual.1 ∧
    Shared.Alike "account_id" before.journal plain.journal found.2 usual.2 := by
  intro sent lookup before plain found usual
  have same := gateway.sent_enabled call shared
  refine ⟨?_, gateway.withAccounts false |>.handsOn_wrap call shared, ?_, ?_, ?_⟩
  · have handed := (gateway.withAccounts true).handsOn_wrap call shared
    rwa [same] at handed
  · have carried := (gateway.withAccounts true).loggerOf_start call shared
    rw [same, logger_enabled, ← (gateway.withAccounts false).loggerOf_start call shared] at carried
    exact carried
  · exact gateway.journal_enabled call shared
  · obtain ⟨outcome, served⟩ := overlooks_serve blind overlooks sent before.journal plain.journal
      before plain (gateway.alike_enabled call shared)
    -- Both runs hold the same ticket, so their endings differ in what is shared only.
    let ticket := ((gateway.withAccounts false).start call shared).1
    have finished := (gateway.withAccounts false).alike_finish ticket
      (serve chain inner sent plain).1 served
    have wrapped : found = ((serve chain inner sent before).1,
        (gateway.withAccounts false).finish ticket (serve chain inner sent before).1
          (serve chain inner sent before).2) :=
      gateway.wrap_enabled call shared (serve chain inner)
    rw [wrapped, outcome]
    exact ⟨rfl, finished⟩

/-- A call whose token has an empty header is told of once more, in the words of the JSON reader. -/
theorem account_lookup_adds_one_record_for_empty_header :
    let reason := "missing field `alg` at line 1 column 2"
    let gateway : Gateway :=
      ⟨⟨.upTo .info, .empty, .records⟩, Config.standard.disableRequestId,
        ⟨fun _ _ => reason, fun _ _ _ _ => false⟩⟩
    let enriching : Interceptor := fun _ =>
      .first .readLogger fun logger =>
        .first (.attach (logger.withFields (.ofList [("seen", .bool true)]))) fun _ =>
          .first (.log .warn "passing") fun _ => Interceptor.pass none
    let chain : List Link := [.interceptor enriching, .transportGuard]
    let inner : Service := transport fun _ => .ok "body"
    let call : Call :=
      ⟨⟨"/svc.Pkg/Method", "", ⟨[("authorization", octetsOf "Bearer e30.e30.")]⟩⟩, .empty⟩
    let shared : Shared := .start (fun _ => ⟨⟨0, 0⟩, 0⟩) fun _ => 0
    let before := ((gateway.withAccounts true).start call shared).2.2
    let found := (gateway.withAccounts true).wrap (serve chain inner) call shared
    let usual := (gateway.withAccounts false).wrap (serve chain inner) call shared
    before.journal = [.record ⟨.info, "invalid token: JSON error: " ++ reason, .empty⟩] ∧
    found.1 = usual.1 ∧ Shared.Alike "account_id" before.journal [] found.2 usual.2 := by
  intro reason gateway enriching chain inner call shared before found usual
  have blind : ∀ link ∈ chain, link.Overlooks Token.accountField := by
    intro link member
    simp only [chain, List.mem_cons, List.not_mem_nil, or_false] at member
    rcases member with rfl | rfl
    · have afterwards : Plan.IsBlind
          (.first (.log .warn "passing") fun _ => Interceptor.pass none) :=
        .first Act.noConfusion fun _ => .forward fun _ => .answer _
      intro request
      refine .first .readLogger fun logger other same => ?_
      exact .attach (same.withFields (.refl _)) afterwards.alike
    · trivial
  obtain ⟨-, -, -, written, outcome, alike⟩ := gateway.account_lookup_disturbs_no_call call shared
    blind (overlooks_transport _)
  have refused : Token.accountId gateway.libraries
      ((gateway.withAccounts false).start call shared).2.1.request.metadata gateway.config.keyfunc?
      shared.reading.time.seconds = .error (.token (.json reason)) := by
    decide +kernel
  rw [refused] at written
  exact ⟨written, outcome, alike⟩

end CallJournal.Gateway
