import CallJournal.Text.Quoted
import CallJournal.Token.Base64Url

namespace CallJournal

/-- What is wrong with a token itself. -/
inductive TokenFault where
  /-- It has no three parts. -/
  | shape
  | base64 (cause : Token.Base64Error)
  /-- A part does not hold the JSON that belongs there, for a reason that the reader gives. -/
  | json (reason : String)
  | algorithm
  | signature
  | expired
  /-- Something else that a key resolver may find wrong, in the words for it. -/
  | unresolved (wording : String)
  deriving DecidableEq, Repr

def TokenFault.message : TokenFault → String
  | shape => "InvalidToken"
  | base64 cause => "Base64 error: " ++ cause.message
  | json reason => "JSON error: " ++ reason
  | algorithm => "InvalidAlgorithm"
  | signature => "InvalidSignature"
  | expired => "ExpiredSignature"
  | unresolved wording => wording

/-- Why a call has no value for a claim. -/
inductive AuthError where
  | missingToken
  | unsupportedScheme (scheme : String)
  | token (fault : TokenFault)
  | missingClaim (field : String)
  | keyResolution (reason : String)
  deriving DecidableEq, Repr

def AuthError.message : AuthError → String
  | missingToken => "request unauthenticated with bearer"
  | unsupportedScheme scheme => "unsupported authorization scheme " ++ Text.quoted scheme
  | token fault => "invalid token: " ++ fault.message
  | missingClaim field => "unable to get field " ++ field ++ " from token"
  | keyResolution reason => "unable to resolve verification key: " ++ reason

end CallJournal
