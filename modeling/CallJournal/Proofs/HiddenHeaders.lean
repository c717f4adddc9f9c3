import CallJournal.Chain
import CallJournal.Proofs.ForwardedHeader

/-! Calls that differ in some headers only. A chain ignores headers that none of its links looks
at. -/

namespace CallJournal

/-- What is left of some metadata once some keys are hidden. -/
def Metadata.without (metadata : Metadata) (hidden : List String) : Metadata :=
  ⟨metadata.entries.filter fun entry => entry.1 ∉ hidden⟩

def Request.without (request : Request) (hidden : List String) : Request :=
  { request with metadata := request.metadata.without hidden }

def Call.without (call : Call) (hidden : List String) : Call :=
  { call with request := call.request.without hidden }

theorem Call.without_eq_iff {hidden : List String} {call other : Call} :
    call.without hidden = other.without hidden ↔
      (call.request.method = other.request.method ∧ call.request.body = other.request.body ∧
        call.request.metadata.without hidden = other.request.metadata.without hidden) ∧
      call.extensions = other.extensions := by
  simp only [without, Request.without, mk.injEq, Request.mk.injEq]

/-- Headers are hidden in what was seen of requests; nothing else in a journal shows them. -/
def Entry.without (entry : Entry) (hidden : List String) : Entry :=
  match entry with
  | .sighting seen => .sighting { seen with request := seen.request.without hidden }
  | entry => entry

def Shared.without (shared : Shared) (hidden : List String) : Shared :=
  { shared with journal := shared.journal.map fun entry => entry.without hidden }

variable {hidden : List String}

namespace Metadata

theorem values_without (metadata : Metadata) {key : String} (visible : key ∉ hidden) :
    (metadata.without hidden).values key = metadata.values key := by
  simp only [without, values, List.filterMap_filter]
  congr 1
  funext entry
  by_cases same : entry.1 = key
  · simp [same, visible]
  · simp [same]

theorem text?_without (metadata : Metadata) {key : String} (visible : Text.lowered key ∉ hidden) :
    (metadata.without hidden).text? key = metadata.text? key := by
  apply Option.ext
  intro text
  rw [text?_eq_some_iff_leadsWith, text?_eq_some_iff_leadsWith]
  constructor
  · rintro ⟨valid, first, readable⟩
    exact ⟨valid, values_without metadata visible ▸ first, readable⟩
  · rintro ⟨valid, first, readable⟩
    exact ⟨valid, (values_without metadata visible).symm ▸ first, readable⟩

/-- The stored keys under which a header is looked for that may have been forwarded. -/
def forms (key : String) : List String := [Text.lowered key, forwardedMark ++ Text.lowered key]

theorem forwarded?_without (metadata : Metadata) {key : String}
    (visible : ∀ form ∈ forms key, form ∉ hidden) :
    (metadata.without hidden).forwarded? key = metadata.forwarded? key := by
  have mark : Text.lowered forwardedMark = forwardedMark := by decide
  have plain : Text.lowered (Text.lowered key) ∉ hidden := by
    rw [Text.lowered_lowered]
    exact visible _ (by simp [forms])
  have marked : Text.lowered (forwardedMark ++ Text.lowered key) ∉ hidden := by
    rw [Text.lowered_append, mark, Text.lowered_lowered]
    exact visible _ (by simp [forms])
  rw [forwarded?, forwarded?, text?_without metadata plain, text?_without metadata marked]

/-- What is set is visible or hidden, whatever was there. -/
theorem replace_without (metadata : Metadata) (key : String) (value : Octets) :
    ((metadata.without hidden).replace key value).without hidden =
      (metadata.replace key value).without hidden := by
  simp only [without, replace, List.filter_append, List.filter_filter, mk.injEq,
    List.append_left_inj]
  congr 1
  funext entry
  by_cases visible : entry.1 ∈ hidden <;> simp [visible]

theorem without_without (metadata : Metadata) :
    (metadata.without hidden).without hidden = metadata.without hidden := by
  simp [without, List.filter_filter]

theorem set_without (metadata : Metadata) (hidden : List String) (key value : String) :
    (∃ refusal, metadata.set key value = .error refusal ∧
      (metadata.without hidden).set key value = .error refusal) ∨
    ∃ changed left, metadata.set key value = .ok changed ∧
      (metadata.without hidden).set key value = .ok left ∧
      left.without hidden = changed.without hidden := by
  unfold set
  split
  · exact .inl ⟨_, rfl, rfl⟩
  · split
    · exact .inr ⟨_, _, rfl, rfl, metadata.replace_without _ _⟩
    · exact .inl ⟨_, rfl, rfl⟩

end Metadata

namespace Shared

variable (shared : Shared)

theorem without_enter (entry : Entry) : (shared.enter entry).without hidden =
    (shared.without hidden).enter (entry.without hidden) := by
  simp [without, enter]

theorem without_log (logger : Logger) (level : Level) (message : String) :
    (shared.log logger level message).without hidden =
      (shared.without hidden).log logger level message := by
  have written (sink : Sink) (record : Record) :
      (sink.entry record).without hidden = sink.entry record := by
    cases sink <;> rfl
  unfold log
  split
  · rw [write, write, without_enter, written]
  · rfl

theorem setMetadata_without (hidden : List String) (metadata : Metadata) (key value : String) :
    ((shared.without hidden).setMetadata (metadata.without hidden) key value).1.without hidden =
        (shared.setMetadata metadata key value).1.without hidden ∧
      ((shared.without hidden).setMetadata (metadata.without hidden) key value).2 =
        (shared.setMetadata metadata key value).2.without hidden := by
  rcases metadata.set_without hidden key value with
    ⟨refusal, refused, again⟩ | ⟨changed, left, done, did, same⟩
  · rw [setMetadata, setMetadata, refused, again]
    exact ⟨metadata.without_without, (shared.without_enter (.event refusal.event)).symm⟩
  · rw [setMetadata, setMetadata, done, did]
    exact ⟨same, rfl⟩

theorem without_addFieldsOf (extensions : Extensions) (fields : Fields) :
    (shared.addFieldsOf extensions fields).without hidden =
      (shared.without hidden).addFieldsOf extensions fields := by
  unfold addFieldsOf
  split <;> rfl

theorem without_markCarried (extensions : Extensions) :
    (shared.markCarried extensions).without hidden =
      (shared.without hidden).markCarried extensions := by
  unfold markCarried
  split <;> rfl

theorem without_see (place : Place) (call : Call) : (shared.see place call).without hidden =
    (shared.without hidden).see place (call.without hidden) := by
  rw [see, without_enter]
  rfl

end Shared

/-- A service that comes back with the same outcome from runs that differ in the hidden headers
alone, and lets them differ in nothing else. -/
def Ignores (hidden : List String) (service : Service) : Prop :=
  ∀ (call other : Call) (first second : Shared), call.without hidden = other.without hidden →
    first.without hidden = second.without hidden →
    (service call first).1 = (service other second).1 ∧
      (service call first).2.without hidden = (service other second).2.without hidden

section Plans

/-- Plans that do the same in two runs. Only an edit may meet other metadata, and then changes
nothing else that is visible. -/
inductive Plan.SameBut (hidden : List String) : Plan → Plan → Prop where
  | answer (outcome : Outcome) : SameBut hidden (.answer outcome) (.answer outcome)
  | forward {next other : Outcome → Plan}
      (each : ∀ outcome, SameBut hidden (next outcome) (other outcome)) :
      SameBut hidden (.forward next) (.forward other)
  | first {act : Act} (fixed : ∀ change, act ≠ .edit change) {next other : act.Reply → Plan}
      (each : ∀ reply, SameBut hidden (next reply) (other reply)) :
      SameBut hidden (.first act next) (.first act other)
  | edit {change replacement : Metadata → Metadata}
      (same : ∀ metadata others, metadata.without hidden = others.without hidden →
        (change metadata).without hidden = (replacement others).without hidden)
      {next other : Unit → Plan} (rest : SameBut hidden (next ()) (other ())) :
      SameBut hidden (.first (.edit change) next) (.first (.edit replacement) other)

theorem Act.perform_without {act : Act} (fixed : ∀ change, act ≠ .edit change)
    (hidden : List String) (call : Call) (shared : Shared) :
    (act.perform (call.without hidden) (shared.without hidden)).1 = (act.perform call shared).1 ∧
      (act.perform (call.without hidden) (shared.without hidden)).2.1.without hidden =
        (act.perform call shared).2.1.without hidden ∧
      (act.perform (call.without hidden) (shared.without hidden)).2.2 =
        (act.perform call shared).2.2.without hidden := by
  have twice : (call.without hidden).without hidden = call.without hidden := by
    simp only [Call.without, Request.without, Metadata.without_without]
  cases act with
  | addFields fields => exact ⟨rfl, twice, (shared.without_addFieldsOf _ fields).symm⟩
  | readLogger => exact ⟨rfl, twice, rfl⟩
  | consult => exact ⟨rfl, twice, rfl⟩
  | log level message => exact ⟨rfl, twice, (shared.without_log _ level message).symm⟩
  | attach logger =>
    refine ⟨rfl, ?_, rfl⟩
    exact congrArg (fun call : Call =>
      { call with extensions := call.extensions.attach shared.nextCell }) twice
  | set key value =>
    obtain ⟨metadata, kept⟩ := shared.setMetadata_without hidden
      call.request.metadata key value
    refine ⟨rfl, ?_, kept⟩
    exact congrArg (fun metadata : Metadata =>
      { call with request := { call.request with metadata } }) metadata
  | edit change => exact absurd rfl (fixed change)
  | dropExtensions =>
    refine ⟨rfl, ?_, rfl⟩
    exact congrArg (fun call : Call => { call with extensions := .empty }) twice
  | look => exact ⟨rfl, twice, (shared.without_see _ call).symm⟩
  | tell found => exact ⟨rfl, twice, (shared.without_enter (.addition found)).symm⟩

/-- Plans that do the same end alike, as long as the service behind them ignores the headers. -/
theorem Plan.SameBut.run {plan other : Plan} (plans : plan.SameBut hidden other) {inner : Service}
    (ignores : Ignores hidden inner) : ∀ (call sent : Call) (first second : Shared),
    call.without hidden = sent.without hidden → first.without hidden = second.without hidden →
    (plan.run inner call first).1 = (other.run inner sent second).1 ∧
      (plan.run inner call first).2.without hidden =
        (other.run inner sent second).2.without hidden := by
  -- On the pair of plans, for whatever call and shared state they have led to.
  induction plans with
  | answer outcome => exact fun _ _ _ _ _ same => ⟨rfl, same⟩
  | forward each ih =>
    intro call sent first second calls same
    obtain ⟨outcome, served⟩ := ignores call sent first second calls same
    rw [Plan.run, Plan.run, outcome]
    exact ih _ call sent _ _ calls served
  | first fixed each ih =>
    intro call sent first second calls same
    obtain ⟨reply, went, done⟩ := Act.perform_without fixed hidden call first
    obtain ⟨answer, goes, did⟩ := Act.perform_without fixed hidden sent second
    rw [calls, same] at reply went done
    rw [Plan.run, Plan.run, ← reply, answer]
    exact ih _ _ _ _ _ (went.symm.trans goes) (done.symm.trans did)
  | edit changes rest ih =>
    intro call sent first second calls same
    obtain ⟨⟨method, body, metadata⟩, extensions⟩ := Call.without_eq_iff.mp calls
    have edited := changes call.request.metadata sent.request.metadata metadata
    exact ih _ _ first second (Call.without_eq_iff.mpr ⟨⟨method, body, edited⟩, extensions⟩) same

end Plans

namespace Request

theorem knownFields_without (request : Request) (visible : timeoutHeader ∉ hidden)
    (start : Instant) :
    (request.without hidden).knownFields start = request.knownFields start := by
  have folded : Text.lowered timeoutHeader = timeoutHeader := by decide
  have timeout : (request.without hidden).timeout? = request.timeout? := by
    rw [timeout?, without, Metadata.text?_without _ (folded.symm ▸ visible)]
    rfl
  rw [knownFields, deadline?, timeout]
  rfl

end Request

theorem Token.accountId_without (metadata : Metadata) (visible : authorizationHeader ∉ hidden)
    (libraries : Libraries) (keyfunc? : Option Keyfunc) (now : Int) :
    accountId libraries (metadata.without hidden) keyfunc? now =
      accountId libraries metadata keyfunc? now := by
  have folded : Text.lowered authorizationHeader = authorizationHeader := by decide
  have token : ofMetadata (metadata.without hidden) = ofMetadata metadata := by
    rw [ofMetadata, ofMetadata, metadata.text?_without (folded.symm ▸ visible)]
  rw [accountId, accountId, field, field, token]

namespace Gateway

/-- The stored keys of the two headers that are looked at for the logger's sake. -/
def levelHeaders (gateway : Gateway) : List String :=
  Metadata.forms gateway.config.flagKey ++ Metadata.forms gateway.config.levelKey

/-- The stored keys of the headers that a gateway looks at. -/
def headers (gateway : Gateway) : List String :=
  [timeoutHeader, Token.authorizationHeader] ++ Metadata.forms RequestId.header ++
    if gateway.config.dynamicLevel then gateway.levelHeaders else []

variable {gateway : Gateway} (unread : ∀ header ∈ gateway.headers, header ∉ hidden)

include unread

theorem carriedId?_without (call : Call) : carriedId? (call.without hidden) = carriedId? call := by
  have visible : ∀ form ∈ Metadata.forms RequestId.header, form ∉ hidden := fun form member =>
    unread form (List.mem_append_left _ (List.mem_append_right _ member))
  rw [carriedId?, Call.without, Request.without, Metadata.forwarded?_without _ visible]
  rfl

/-- Where the flag and level headers are obeyed they are not hidden. -/
theorem forwarded?_without_of_obeyed (obeyed : gateway.config.dynamicLevel = true)
    (metadata : Metadata) {key : String} (looked : Metadata.forms key ⊆ gateway.levelHeaders) :
    (metadata.without hidden).forwarded? key = metadata.forwarded? key := by
  apply metadata.forwarded?_without
  intro form member
  apply unread form
  rw [headers, if_pos obeyed]
  exact List.mem_append_right _ (looked member)

theorem filterOf_without (metadata : Metadata) :
    gateway.filterOf (metadata.without hidden) = gateway.filterOf metadata := by
  unfold filterOf
  split
  · rename_i obeyed
    rw [forwarded?_without_of_obeyed unread obeyed _ (List.subset_append_right _ _)]
  · rfl

theorem flagOf_without (metadata : Metadata) :
    gateway.flagOf (metadata.without hidden) = gateway.flagOf metadata := by
  unfold flagOf
  split
  · rename_i obeyed
    rw [forwarded?_without_of_obeyed unread obeyed _ (List.subset_append_left _ _)]
  · rfl

/-- Drafts of two calls that differ in hidden headers only. -/
structure Draft.SameBut (hidden : List String) (draft other : Draft) : Prop where
  metadata : draft.metadata.without hidden = other.metadata.without hidden
  fields : draft.fields = other.fields
  shared : draft.shared.without hidden = other.shared.without hidden

variable {call other : Call} {first second : Shared}

theorem sameBut_chooseId (calls : call.without hidden = other.without hidden)
    (same : first.without hidden = second.without hidden) :
    (chooseId call first).1 = (chooseId other second).1 ∧
      (chooseId call first).2.without hidden = (chooseId other second).2.without hidden := by
  have brought : carriedId? call = carriedId? other := by
    rw [← carriedId?_without unread call, calls, carriedId?_without unread]
  -- What is drawn is read off parts of the shared state that hide nothing.
  have seed : first.seed = second.seed := (congrArg Shared.seed same :)
  have drawn : first.draw.without hidden = second.draw.without hidden :=
    (congrArg Shared.draw same :)
  unfold chooseId
  rw [brought]
  cases carriedId? other with
  | some id => exact ⟨rfl, same⟩
  | none => exact ⟨congrArg RequestId.ofSeed seed, drawn⟩

theorem sameBut_identify (calls : call.without hidden = other.without hidden)
    (same : first.without hidden = second.without hidden) (fields : Fields) :
    (gateway.identify call fields first).SameBut hidden
      (gateway.identify other fields second) := by
  have metadata := (Call.without_eq_iff.mp calls).1.2.2
  unfold identify
  split
  · exact ⟨metadata, rfl, same⟩
  · obtain ⟨id, left⟩ := sameBut_chooseId unread calls same
    obtain ⟨set, kept⟩ := (chooseId call first).2.setMetadata_without hidden
      call.request.metadata RequestId.header (chooseId call first).1.text
    obtain ⟨put, stayed⟩ := (chooseId other second).2.setMetadata_without hidden
      other.request.metadata RequestId.header (chooseId other second).1.text
    rw [id, metadata, left] at set kept
    simp only [id]
    exact ⟨set.symm.trans put, rfl, kept.symm.trans stayed⟩

theorem sameBut_flag {draft other : Draft} (same : draft.SameBut hidden other) :
    (gateway.flag draft).SameBut hidden (gateway.flag other) := by
  obtain ⟨metadata, fields, shared⟩ := same
  refine ⟨metadata, ?_, shared⟩
  have flags : gateway.flagOf draft.metadata = gateway.flagOf other.metadata := by
    rw [← flagOf_without unread, metadata, flagOf_without unread]
  rw [flag, flag, flags, fields]

theorem sameBut_account (now : Int) {draft other : Draft} (same : draft.SameBut hidden other) :
    (gateway.account now draft).SameBut hidden (gateway.account now other) := by
  obtain ⟨metadata, fields, shared⟩ := same
  have visible : Token.authorizationHeader ∉ hidden := unread _ (by simp [headers])
  have accounts : Token.accountId gateway.libraries draft.metadata gateway.config.keyfunc? now =
      Token.accountId gateway.libraries other.metadata gateway.config.keyfunc? now := by
    rw [← Token.accountId_without _ visible, metadata, Token.accountId_without _ visible]
  unfold account
  rw [accounts, fields]
  split
  · cases Token.accountId gateway.libraries other.metadata gateway.config.keyfunc? now with
    | ok account => exact ⟨metadata, rfl, shared⟩
    | error cause =>
      refine ⟨metadata, rfl, ?_⟩
      rw [Shared.without_log, Shared.without_log, shared]
  · exact ⟨metadata, fields, shared⟩

theorem sameBut_draft (calls : call.without hidden = other.without hidden)
    (same : first.without hidden = second.without hidden) :
    (gateway.draft call first).SameBut hidden (gateway.draft other second) := by
  have visible : timeoutHeader ∉ hidden := unread _ (by simp [headers])
  have reading : first.reading = second.reading := (congrArg Shared.reading same :)
  have ticked : first.tick.without hidden = second.tick.without hidden :=
    (congrArg Shared.tick same :)
  have known : call.request.knownFields second.reading.time =
      other.request.knownFields second.reading.time := by
    have requests : call.request.without hidden = other.request.without hidden :=
      congrArg Call.request calls
    rw [← Request.knownFields_without _ visible, requests, Request.knownFields_without _ visible]
  rw [draft, draft, reading, known]
  exact sameBut_account unread _ (sameBut_flag unread (sameBut_identify unread calls ticked _))

theorem loggerFor_of_sameBut {draft other : Draft} (same : draft.SameBut hidden other) :
    gateway.loggerFor draft = gateway.loggerFor other := by
  have filters : gateway.filterOf draft.metadata = gateway.filterOf other.metadata := by
    rw [← filterOf_without unread, same.metadata, filterOf_without unread]
  rw [loggerFor, loggerFor, filters, same.fields]

theorem sameBut_start (calls : call.without hidden = other.without hidden)
    (same : first.without hidden = second.without hidden) :
    (gateway.start call first).1 = (gateway.start other second).1 ∧
      (gateway.start call first).2.1.without hidden =
        (gateway.start other second).2.1.without hidden ∧
      (gateway.start call first).2.2.without hidden =
        (gateway.start other second).2.2.without hidden := by
  have drafts := sameBut_draft unread calls same
  have logger := loggerFor_of_sameBut unread drafts
  obtain ⟨⟨method, body, -⟩, extensions⟩ := Call.without_eq_iff.mp calls
  have reading : first.reading = second.reading := (congrArg Shared.reading same :)
  have cell : first.nextCell = second.nextCell := (congrArg Shared.nextCell same :)
  have sentinel : first.nextSentinel = second.nextSentinel :=
    (congrArg Shared.nextSentinel same :)
  refine ⟨?_, ?_, ?_⟩
  · rw [ticket_start, ticket_start, cell, sentinel, reading]
  · rw [sent_start, sent_start, cell, sentinel, extensions, Call.without_eq_iff]
    exact ⟨⟨method, body, drafts.metadata⟩, rfl⟩
  · have attached := congrArg (fun shared : Shared =>
      (shared.addCell (gateway.loggerFor (gateway.draft other second))).addSentinel) drafts.shared
    rw [start, start, logger]
    exact attached

omit unread in
theorem without_finish (ticket : Ticket) (outcome : Outcome) (shared : Shared) :
    (gateway.finish ticket outcome shared).without hidden =
      gateway.finish ticket outcome (shared.without hidden) := by
  unfold finish
  split
  · rename_i marked
    exact (if_pos marked).symm
  · rename_i unmarked
    exact (Shared.without_log shared.tick _ _ _).trans (if_neg unmarked).symm

theorem ignores_wrap {inner : Service} (ignores : Ignores hidden inner) :
    Ignores hidden (gateway.wrap inner) := by
  intro call other first second calls same
  obtain ⟨ticket, sent, started⟩ := sameBut_start unread calls same
  obtain ⟨outcome, served⟩ := ignores _ _ _ _ sent started
  rw [wrap, wrap, ticket, outcome]
  exact ⟨rfl, by rw [without_finish, without_finish, served]⟩

end Gateway

theorem ignores_guardTransport {inner : Service} (ignores : Ignores hidden inner) :
    Ignores hidden (guardTransport inner) := by
  intro call other first second calls same
  have extensions := (Call.without_eq_iff.mp calls).2
  rw [guardTransport_eq, guardTransport_eq, extensions]
  apply ignores _ _ _ _ calls
  rw [Shared.without_markCarried, Shared.without_markCarried, same]

theorem ignores_transport {respond : Request → Outcome}
    (blind : ∀ request other : Request, request.without hidden = other.without hidden →
      respond request = respond other) : Ignores hidden (transport respond) := by
  intro call other first second calls same
  refine ⟨blind _ _ (congrArg Call.request calls), ?_⟩
  rw [transport, transport, Shared.without_see, Shared.without_see, calls, same]

/-- A gateway ignores headers that are none of its own, a guard all, and an interceptor those that
its plans do not go by. -/
def Link.Ignores (hidden : List String) : Link → Prop
  | gateway front => ∀ header ∈ front.headers, header ∉ hidden
  | transportGuard => True
  | interceptor decide => ∀ request other : Request,
      request.without hidden = other.without hidden →
      (decide request).SameBut hidden (decide other)

theorem Link.ignores_wrap {link : Link} (blind : link.Ignores hidden) {inner : Service}
    (ignores : CallJournal.Ignores hidden inner) :
    CallJournal.Ignores hidden (link.wrap inner) := by
  cases link with
  | gateway front => exact Gateway.ignores_wrap blind ignores
  | transportGuard => exact ignores_guardTransport ignores
  | interceptor decide =>
    intro call other first second calls same
    exact (blind _ _ (congrArg Call.request calls)).run ignores call other first second calls same

/-- A chain ignores what its links and the service behind it ignore; induction on the chain. -/
theorem ignores_serve {chain : List Link} (blind : ∀ link ∈ chain, link.Ignores hidden)
    {inner : Service} (ignores : Ignores hidden inner) : Ignores hidden (serve chain inner) := by
  induction chain with
  | nil => exact ignores
  | cons link rest ih =>
    have behind := ih fun other member => blind other (List.mem_cons_of_mem link member)
    exact Link.ignores_wrap (blind link List.mem_cons_self) behind

end CallJournal
