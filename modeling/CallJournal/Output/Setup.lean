import CallJournal.Output.Directive
import CallJournal.Output.JsonLine
import CallJournal.Output.TextLine

namespace CallJournal.Output

inductive Style where
  | json
  | plain
  deriving DecidableEq, Repr

/-- Where events go once an output is installed. -/
structure Channel where
  directives : List Directive
  style : Style
  deriving DecidableEq, Repr

/-- An environment: the values of the variables that are set. -/
abbrev Environment := String → Option String

def Channel.render (channel : Channel) (stamp : String) (event : Event) : String :=
  if Directive.allows channel.directives event then
    match channel.style with
    | .json => jsonText stamp event
    | .plain => plainText stamp event
  else ""

/-- Everything about calls is written: their loggers have already chosen. -/
def callDirective : Directive := .ofTarget Event.callTarget

/-- Without usable directives in the environment: those that can be read, or information, and
everything about calls. -/
def fallbackDirectives (readable : List Directive) : List Directive :=
  (if readable.isEmpty then [.ofFilter (.upTo .info)] else readable) ++ [callDirective]

/-- The directives that an environment asks for; nothing if reading them stops the program. -/
def directivesOf? (environment : Environment) : Option (List Directive) :=
  match environment "RUST_LOG" with
  | none => some (fallbackDirectives [])
  | some text =>
    let results := Directive.readAll text
    let readable := results.filterMap Except.toOption
    let stops : Except DirectiveFault Directive → Bool
      | .error .brokenCut => true
      | _ => false
    if results.any stops then none
    else if results.all Except.isOk then some readable
    else some (fallbackDirectives readable)

def styleOf (environment : Environment) : Style :=
  match environment "LOG_FORMAT" with
  | some format => if Text.sameFolded format "json" then .json else .plain
  | none => .plain

/-- The name of the program when the environment does not give one. -/
def defaultService : String := "gateway-log"

def installed (environment : Environment) : Event :=
  .ofMessage .info "gateway_log::setup" "logging initialised"
    [("service", .shown ((environment "SERVICE_NAME").getD defaultService))]

/-- Why no output is installed. -/
inductive SetupFault where
  | alreadyInstalled
  /-- The program is stopped by directives that cannot be cut apart. -/
  | stopped
  deriving DecidableEq, Repr

/-- What a failure says; a program that is stopped says nothing. -/
def SetupFault.message? : SetupFault → Option String
  | .alreadyInstalled => some "a global default trace dispatcher has already been set"
  | .stopped => none

/-- Installs an output where none is installed yet. The directives are read in any case. -/
def setup (current? : Option Channel) (environment : Environment) :
    Except SetupFault (Channel × Event) :=
  match directivesOf? environment, current? with
  | none, _ => .error .stopped
  | some _, some _ => .error .alreadyInstalled
  | some directives, none => .ok (⟨directives, styleOf environment⟩, installed environment)

end CallJournal.Output
