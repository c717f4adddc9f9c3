import CallJournal.Proofs.HiddenHeaders
import CallJournal.Proofs.Transparency
import Mathlib.Tactic.SplitIfs

/-! What the level header does where it is obeyed, and that nobody looks at it where it is not. -/

namespace CallJournal

namespace Filter

/-- The names under which a filter can be asked for. -/
def names : Filter → List String
  | off => ["off"]
  | upTo .error => ["panic", "fatal", "error"]
  | upTo .warn => ["warn", "warning"]
  | upTo .info => ["info"]
  | upTo .debug => ["debug"]
  | upTo .trace => ["trace"]

/-- Neither blanks around a name nor its letter case matter. -/
def IsNamed (filter : Filter) (text : String) : Prop :=
  Text.lowered (Text.trim text) ∈ filter.names

instance (filter : Filter) (text : String) : Decidable (filter.IsNamed text) :=
  inferInstanceAs (Decidable (_ ∈ _))

theorem ofFoldedName?_eq_some_iff {name : String} {filter : Filter} :
    ofFoldedName? name = some filter ↔ name ∈ filter.names := by
  constructor
  · intro found
    unfold ofFoldedName? at found
    split_ifs at found <;> cases found <;> simp_all [names]
  · intro listed
    rcases filter with _ | level
    · obtain rfl := List.mem_singleton.mp listed
      rfl
    · cases level <;> simp only [names, List.mem_cons, List.not_mem_nil, or_false] at listed <;>
        rcases listed with rfl | rfl | rfl <;> rfl

theorem ofName_eq_ok_iff_isNamed {text : String} {filter : Filter} :
    ofName text = .ok filter ↔ filter.IsNamed text :=
  ofName_eq_ok_iff.trans ofFoldedName?_eq_some_iff

end Filter

namespace Gateway

variable (gateway : Gateway) (call : Call) (shared : Shared)

theorem filterOf_of_named (obeyed : gateway.config.dynamicLevel = true) {metadata : Metadata}
    {text : String} (carried : metadata.Carries gateway.config.levelKey text) {filter : Filter}
    (named : filter.IsNamed text) : gateway.filterOf metadata = filter := by
  rw [filterOf, if_pos obeyed, Metadata.forwarded?_eq_some_iff.mpr carried]
  simp only [Filter.ofName_eq_ok_iff_isNamed.mpr named]

theorem filterOf_of_unnamed (obeyed : gateway.config.dynamicLevel = true) {metadata : Metadata}
    (unnamed : ∀ (text : String) (filter : Filter),
      metadata.Carries gateway.config.levelKey text → ¬ filter.IsNamed text) :
    gateway.filterOf metadata = gateway.logger.filter := by
  rw [filterOf, if_pos obeyed]
  split
  · rename_i text found
    split
    · rename_i filter known
      exact absurd (Filter.ofName_eq_ok_iff_isNamed.mp known)
        (unnamed text filter (Metadata.forwarded?_eq_some_iff.mp found))
    · rfl
  · rfl

theorem filter_start : ((gateway.start call shared).2.2.loggerOf
    (gateway.start call shared).2.1.extensions).filter =
      gateway.filterOf (gateway.start call shared).2.1.request.metadata := by
  rw [loggerOf_start]
  rfl

/-- A gateway that obeys no level header looks at four stored keys. -/
theorem headers_of_disobeyed (disobeyed : gateway.config.dynamicLevel = false) :
    gateway.headers =
      ["grpc-timeout", "authorization", "x-request-id", "grpcgateway-x-request-id"] := by
  have forms : Metadata.forms RequestId.header = ["x-request-id", "grpcgateway-x-request-id"] := by
    decide
  rw [headers, disobeyed, forms]
  rfl

/-- Where the level header is obeyed it names the filter of the call's logger. Where it is not, it
and the flag header make no difference, as long as nobody behind the gateway looks at them. -/
theorem level_header_acts_as_configured :
    let sent := (gateway.start call shared).2.1
    let before := (gateway.start call shared).2.2
    let logger := before.loggerOf sent.extensions
    HandsOn gateway.wrap call shared sent before ∧
    (gateway.config.dynamicLevel = true →
      (∀ (text : String) (filter : Filter),
        sent.request.metadata.Carries gateway.config.levelKey text → filter.IsNamed text →
        logger.filter = filter) ∧
      ((∀ (text : String) (filter : Filter),
        sent.request.metadata.Carries gateway.config.levelKey text → ¬ filter.IsNamed text) →
        logger.filter = gateway.logger.filter)) ∧
    (gateway.config.dynamicLevel = false →
      logger.filter = gateway.logger.filter ∧
      ∀ (other : Call) (chain : List Link) (inner : Service),
        (∀ header ∈ gateway.levelHeaders, header ∉
          ["grpc-timeout", "authorization", "x-request-id", "grpcgateway-x-request-id"]) →
        call.without gateway.levelHeaders = other.without gateway.levelHeaders →
        (∀ link ∈ chain, link.Ignores gateway.levelHeaders) →
        Ignores gateway.levelHeaders inner →
        let found := gateway.wrap (serve chain inner) call shared
        let usual := gateway.wrap (serve chain inner) other shared
        (gateway.start other shared).2.2.loggerOf (gateway.start other shared).2.1.extensions =
          logger ∧
        found.1 = usual.1 ∧
        found.2.without gateway.levelHeaders = usual.2.without gateway.levelHeaders) := by
  intro sent before logger
  refine ⟨gateway.handsOn_wrap call shared, ?_, ?_⟩
  · intro obeyed
    constructor
    · intro text filter carried named
      rw [gateway.filter_start, gateway.filterOf_of_named obeyed carried named]
    · intro unnamed
      rw [gateway.filter_start, gateway.filterOf_of_unnamed obeyed unnamed]
  · intro disobeyed
    refine ⟨?_, ?_⟩
    · rw [gateway.filter_start, gateway.filterOf_of_disobeyed disobeyed]
    · intro other chain inner free calls blind ignores
      -- The gateway still looks at four keys, and none of these is hidden.
      have unread : ∀ header ∈ gateway.headers, header ∉ gateway.levelHeaders := by
        intro header looked hidden
        exact free header hidden (gateway.headers_of_disobeyed disobeyed ▸ looked)
      have drafts := sameBut_draft unread calls (rfl : shared.without _ = shared.without _)
      refine ⟨?_, ?_⟩
      · rw [gateway.loggerOf_start, ← loggerFor_of_sameBut unread drafts]
        exact (gateway.loggerOf_start call shared).symm
      · exact ignores_wrap unread (ignores_serve blind ignores) call other shared shared calls rfl

/-- The marked level header counts where the plain one has no readable value. -/
theorem level_header_behind_unreadable_value :
    let config := (Config.standard.withFlagKey "Log-Level").withLevelKey "Log-Level"
    let obeying : Gateway :=
      ⟨⟨.upTo .info, .empty, .records⟩, (config.withDynamicLevel true).disableRequestId, .silent⟩
    let deaf : Gateway := ⟨⟨.upTo .info, .empty, .records⟩, config, .silent⟩
    let call : Call := ⟨⟨"/svc.Pkg/Method", "",
      ⟨[("log-level", [0xff]), ("grpcgateway-log-level", octetsOf " Warning")]⟩⟩, .empty⟩
    let other : Call := ⟨⟨"/svc.Pkg/Method", "", ⟨[("log-level", octetsOf "trace")]⟩⟩, .empty⟩
    let shared : Shared := .start (fun _ => ⟨⟨0, 0⟩, 0⟩) fun _ => 0
    let chain : List Link := [.interceptor (Interceptor.doing (.log .debug "passing") none)]
    let inner : Service := transport fun _ => .ok "body"
    ((obeying.start call shared).2.2.loggerOf (obeying.start call shared).2.1.extensions).filter =
        .upTo .warn ∧
      (deaf.wrap (serve chain inner) call shared).1 =
        (deaf.wrap (serve chain inner) other shared).1 ∧
      (deaf.wrap (serve chain inner) call shared).2.without deaf.levelHeaders =
        (deaf.wrap (serve chain inner) other shared).2.without deaf.levelHeaders := by
  intro config obeying deaf call other shared chain inner
  have kept : (obeying.start call shared).2.1.request.metadata = call.request.metadata :=
    obeying.metadata_start_of_unidentified call shared (.inl rfl)
  have carried : call.request.metadata.Carries "Log-Level" " Warning" :=
    Metadata.forwarded?_eq_some_iff.mp (by decide +kernel)
  have blind : ∀ link ∈ chain, link.Ignores deaf.levelHeaders := by
    intro link member
    obtain rfl := List.mem_singleton.mp member
    intro _ _ _
    exact .first (fun _ => Act.noConfusion) fun _ => .forward fun _ => .answer _
  obtain ⟨-, obeyed, -⟩ := obeying.level_header_acts_as_configured call shared
  obtain ⟨-, -, disobeyed⟩ := deaf.level_header_acts_as_configured call shared
  obtain ⟨-, outcome, left⟩ := (disobeyed rfl).2 other chain inner (by decide) (by decide) blind
    (ignores_transport fun _ _ _ => rfl)
  refine ⟨(obeyed rfl).1 " Warning" (.upTo .warn) ?_ (by decide), outcome, left⟩
  exact kept ▸ carried

end Gateway

end CallJournal
