import CallJournal.Event
import CallJournal.Status
import CallJournal.Token.Extraction

namespace CallJournal

structure Config where
  /-- Request IDs are neither read nor chosen nor sent. -/
  requestIdDisabled : Bool
  /-- The flag header is copied and the level header obeyed. -/
  dynamicLevel : Bool
  /-- The account that a call is made for is looked up. -/
  accountIdEnabled : Bool
  /-- Verifies the token of the account; without it the token is taken as it is. -/
  keyfunc? : Option Keyfunc
  /-- The level of the record that tells how a call ended. -/
  levelOf : StatusCode → Level
  flagKey : String
  levelKey : String

namespace Config

def defaultFlagKey : String := "log-trace-key"

def defaultLevelKey : String := "log-trace-level"

def standard : Config where
  requestIdDisabled := false
  dynamicLevel := false
  accountIdEnabled := false
  keyfunc? := none
  levelOf := StatusCode.usualLevel
  flagKey := defaultFlagKey
  levelKey := defaultLevelKey

def disableRequestId (config : Config) : Config := { config with requestIdDisabled := true }

def withDynamicLevel (config : Config) (enable : Bool) : Config :=
  { config with dynamicLevel := enable }

def withAccountId (config : Config) (keyfunc : Keyfunc) : Config :=
  { config with accountIdEnabled := true, keyfunc? := some keyfunc }

/-- Looks up accounts in tokens as they are. -/
def withUnverifiedAccountId (config : Config) : Config :=
  { config with accountIdEnabled := true, keyfunc? := none }

def withLevels (config : Config) (levelOf : StatusCode → Level) : Config :=
  { config with levelOf }

def withFlagKey (config : Config) (flagKey : String) : Config := { config with flagKey }

def withLevelKey (config : Config) (levelKey : String) : Config := { config with levelKey }

/-- The first letters of the levels of all status codes. -/
def levelLetters (config : Config) : String :=
  String.ofList (StatusCode.all.map fun code => ((config.levelOf code).name.toList.headD ' '))

/-- A configuration as it is shown to whoever looks for mistakes. -/
def describe (config : Config) : String :=
  "GatewayLogConfig \x7b disable_request_id: " ++ toString config.requestIdDisabled ++
    ", dynamic_log_level: " ++ toString config.dynamicLevel ++
    ", with_account_id: " ++ toString config.accountIdEnabled ++
    ", account_id_keyfunc: " ++ toString config.keyfunc?.isSome ++
    ", log_flag_key: " ++ Text.quoted config.flagKey ++
    ", log_level_key: " ++ Text.quoted config.levelKey ++ ", .. \x7d"

/-- What a boolean setting says: the setting itself, or the folded text that is neither. -/
def readFlag (text : String) : Except String Bool :=
  let folded := Text.lowered (Text.trim text)
  if folded = "1" ∨ folded = "true" ∨ folded = "yes" ∨ folded = "on" then .ok true
  else if folded = "0" ∨ folded = "false" ∨ folded = "no" ∨ folded = "off" then .ok false
  else .error folded

def ignoredFlag (folded : String) : Event :=
  .ofMessage .warn "gateway_log::config" "ignoring unrecognised boolean setting"
    [("value", .shown folded)]

/-- A setting from the environment, with the warnings about it. -/
def flag? (environment : String → Option String) (name : String) : Option Bool × List Event :=
  match environment name with
  | none => (none, [])
  | some text =>
    match readFlag text with
    | .ok value => (some value, [])
    | .error folded => (none, [ignoredFlag folded])

/-- The standard configuration as the environment adjusts it, with the warnings about that. -/
def ofEnvironment (environment : String → Option String) : Config × List Event :=
  let disabled := flag? environment "GATEWAY_LOG_DISABLE_REQUEST_ID"
  let dynamic := flag? environment "GATEWAY_LOG_DYNAMIC_LEVEL"
  let account := flag? environment "GATEWAY_LOG_ACCOUNT_ID"
  ({ standard with
      requestIdDisabled := disabled.1.getD false
      dynamicLevel := dynamic.1.getD false
      accountIdEnabled := account.1.getD false },
    disabled.2 ++ dynamic.2 ++ account.2)

end Config

end CallJournal
