import CallJournal.Token.Error
import CallJournal.Token.Header

namespace CallJournal

namespace Token

/-- What signatures are verified with: a shared secret, or a public key as it is encoded. -/
inductive Key where
  | secret (octets : Octets)
  | rsa (octets : Octets)
  | rsaComponents (modulus exponent : Octets)
  | elliptic (octets : Octets)
  | edwards (octets : Octets)
  deriving DecidableEq

def Key.family : Key → Family
  | secret _ => .hmac
  | rsa _ | rsaComponents _ _ => .rsa
  | elliptic _ => .elliptic
  | edwards _ => .edwards

def Key.secret? : Key → Option Octets
  | secret octets => some octets
  | _ => none

/-- What is read from JSON while a token is decoded. -/
inductive Target where
  | header
  | claims
  /-- The claims that have a meaning of their own. -/
  | registered
  deriving DecidableEq

/-- What tokens leave to libraries that are not described here. -/
structure Libraries where
  /-- Why some octets are not read as what they should be. -/
  reason : Target → Octets → String
  /-- Whether a public key accepts the last octets as a signature of the first. -/
  accepts : Algorithm → Key → Octets → Octets → Bool

/-- Libraries for those who meet no fault in JSON and no public key. -/
def Libraries.silent : Libraries := ⟨fun _ _ => "", fun _ _ _ _ => false⟩

/-- What some octets are read as, or why they are not. -/
def Libraries.parse {α : Type _} (libraries : Libraries) (target : Target)
    (read : Octets → Option α) (octets : Octets) : Except TokenFault α :=
  match read octets with
  | some found => .ok found
  | none => .error (.json (libraries.reason target octets))

end Token

/-- Finds the key that a token with a given header is verified with. -/
abbrev Keyfunc := Token.Header → Except AuthError Token.Key

/-- A resolver that knows shared secrets only. -/
def Keyfunc.ofSecrets (secretOf : Token.Header → Except AuthError Octets) : Keyfunc := fun header =>
  (secretOf header).map .secret

end CallJournal
