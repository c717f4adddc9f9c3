import CallJournal.Gateway

/-! Chains of links in front of a transport: gateways, guards, and interceptors that follow a plan
of what they do. -/

namespace CallJournal

/-- What an interceptor does with a call, or asks for, on its way. -/
inductive Act where
  /-- Adds fields to the call's logger and learns whether it had one. -/
  | addFields (fields : Fields)
  | readLogger
  /-- Asks what lies outside of the call: chance, the time, what earlier calls have left behind. -/
  | consult
  /-- Logs through the call's logger. -/
  | log (level : Level) (message : String)
  | attach (logger : Logger)
  | set (key value : String)
  | edit (change : Metadata → Metadata)
  | dropExtensions
  /-- Writes down how the call looks. -/
  | look
  /-- Writes down whether an addition found a logger. -/
  | tell (found : Bool)

namespace Act

/-- What is learnt by an act. -/
def Reply : Act → Type
  | addFields _ => Bool
  | readLogger => Logger
  | consult => Nat
  | _ => Unit

def perform : (act : Act) → Call → Shared → act.Reply × Call × Shared
  | addFields fields, call, shared =>
    (call.extensions.logger?.isSome, call, shared.addFieldsOf call.extensions fields)
  | readLogger, call, shared => (shared.loggerOf call.extensions, call, shared)
  | consult, call, shared => (shared.seed, call, shared.draw)
  | log level message, call, shared =>
    ((), call, shared.log (shared.loggerOf call.extensions) level message)
  | attach logger, call, shared =>
    ((), { call with extensions := call.extensions.attach shared.nextCell },
      shared.addCell logger)
  | set key value, call, shared =>
    let sent := shared.setMetadata call.request.metadata key value
    ((), { call with request := { call.request with metadata := sent.1 } }, sent.2)
  | edit change, call, shared =>
    ((), { call with
      request := { call.request with metadata := change call.request.metadata } }, shared)
  | dropExtensions, call, shared => ((), { call with extensions := .empty }, shared)
  | look, call, shared => ((), call, shared.see .interceptor call)
  | tell found, call, shared => ((), call, shared.enter (.addition found))

end Act

/-- What an interceptor does with a call, step by step. -/
inductive Plan where
  | answer (outcome : Outcome)
  /-- Forwards the call and goes on with what it came back with. -/
  | forward (next : Outcome → Plan)
  /-- Does something and goes on with what is learnt by it. -/
  | first (act : Act) (next : act.Reply → Plan)

/-- Follows a plan; calls are forwarded to `inner`. -/
def Plan.run (inner : Service) : Plan → Service
  | answer outcome, _, shared => (outcome, shared)
  | forward next, call, shared =>
    let served := inner call shared
    (next served.1).run inner call served.2
  | first act next, call, shared =>
    let done := act.perform call shared
    (next done.1).run inner done.2.1 done.2.2

/-- An interceptor looks at the request when it decides; what else it goes by, its plan asks for. -/
abbrev Interceptor := Request → Plan

inductive Link where
  | gateway (front : Gateway)
  | transportGuard
  | interceptor (decide : Interceptor)

def Link.wrap : Link → Service → Service
  | .gateway front, inner => front.wrap inner
  | .transportGuard, inner => guardTransport inner
  | .interceptor decide, inner => fun call => (decide call.request).run inner call

/-- A transport that writes down what reaches it and answers by the request. -/
def transport (respond : Request → Outcome) : Service := fun call shared =>
  (respond call.request, shared.see .transport call)

/-- A chain in front of a service; its first link is the outermost one. -/
def serve (chain : List Link) (inner : Service) : Service := chain.foldr Link.wrap inner

namespace Interceptor

/-- Forwards the call once; a replacement takes the place of what it came back with. -/
def pass (replacement? : Option Outcome) : Plan :=
  .forward fun outcome => .answer (replacement?.getD outcome)

def reject (status : Status) : Interceptor := fun _ => .answer (.error status)

def rejectUnless (key : String) (status : Status) (replacement? : Option Outcome) : Interceptor :=
  fun request =>
    if request.metadata.has key then pass replacement? else .answer (.error status)

/-- Does something with every call before it forwards it. -/
def doing (act : Act) (replacement? : Option Outcome) : Interceptor :=
  fun _ => .first act fun _ => pass replacement?

/-- Adds fields and writes down whether there was a logger for them. -/
def addingFields (fields : Fields) (replacement? : Option Outcome) : Interceptor :=
  fun _ => .first (.addFields fields) fun found => .first (.tell found) fun _ => pass replacement?

end Interceptor

end CallJournal
