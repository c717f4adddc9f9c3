import CallJournal.Level

namespace CallJournal

inductive StatusCode where
  | ok
  | cancelled
  | unknown
  | invalidArgument
  | deadlineExceeded
  | notFound
  | alreadyExists
  | permissionDenied
  | resourceExhausted
  | failedPrecondition
  | aborted
  | outOfRange
  | unimplemented
  | internal
  | unavailable
  | dataLoss
  | unauthenticated
  deriving DecidableEq, Repr

namespace StatusCode

def all : List StatusCode :=
  [ok, cancelled, unknown, invalidArgument, deadlineExceeded, notFound, alreadyExists,
    permissionDenied, resourceExhausted, failedPrecondition, aborted, outOfRange, unimplemented,
    internal, unavailable, dataLoss, unauthenticated]

def number (code : StatusCode) : Nat := all.idxOf code

/-- The code of a number; a number that no code has stands for `unknown`. -/
def ofNumber (number : Int) : StatusCode :=
  if number < 0 then unknown else all.getD number.toNat unknown

def name : StatusCode → String
  | ok => "OK"
  | cancelled => "Canceled"
  | unknown => "Unknown"
  | invalidArgument => "InvalidArgument"
  | deadlineExceeded => "DeadlineExceeded"
  | notFound => "NotFound"
  | alreadyExists => "AlreadyExists"
  | permissionDenied => "PermissionDenied"
  | resourceExhausted => "ResourceExhausted"
  | failedPrecondition => "FailedPrecondition"
  | aborted => "Aborted"
  | outOfRange => "OutOfRange"
  | unimplemented => "Unimplemented"
  | internal => "Internal"
  | unavailable => "Unavailable"
  | dataLoss => "DataLoss"
  | unauthenticated => "Unauthenticated"

/-- What a caller has to expect is information, load and policy are warnings, and faults are
errors. -/
def usualLevel : StatusCode → Level
  | ok | cancelled | invalidArgument | notFound | alreadyExists | unauthenticated => .info
  | deadlineExceeded | permissionDenied | resourceExhausted | failedPrecondition | aborted
  | outOfRange | unavailable => .warn
  | unknown | unimplemented | internal | dataLoss => .error

end StatusCode

/-- A call's refusal or failure. -/
structure Status where
  code : StatusCode
  message : String
  deriving DecidableEq, Repr

def Status.text (status : Status) : String :=
  "rpc error: code = " ++ status.code.name ++ " desc = " ++ status.message

/-- What a call comes back with: a reply, or the status it failed with. -/
abbrev Outcome := Except Status String

def Outcome.code : Outcome → StatusCode
  | .ok _ => .ok
  | .error status => status.code

end CallJournal
