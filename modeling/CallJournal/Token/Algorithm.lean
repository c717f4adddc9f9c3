import CallJournal.Token.Base64Url
import CallJournal.Token.Digest

namespace CallJournal.Token

/-- The kinds of keys that algorithms sign with. Only the first kind is shared with the signer. -/
inductive Family where
  | hmac
  | rsa
  | elliptic
  | edwards
  deriving DecidableEq, Repr

inductive Algorithm where
  | hs256
  | hs384
  | hs512
  | es256
  | es384
  | rs256
  | rs384
  | rs512
  | ps256
  | ps384
  | ps512
  | edDsa
  deriving DecidableEq, Repr

namespace Algorithm

def all : List Algorithm :=
  [hs256, hs384, hs512, es256, es384, rs256, rs384, rs512, ps256, ps384, ps512, edDsa]

def name : Algorithm → String
  | hs256 => "HS256"
  | hs384 => "HS384"
  | hs512 => "HS512"
  | es256 => "ES256"
  | es384 => "ES384"
  | rs256 => "RS256"
  | rs384 => "RS384"
  | rs512 => "RS512"
  | ps256 => "PS256"
  | ps384 => "PS384"
  | ps512 => "PS512"
  | edDsa => "EdDSA"

def ofName? (name : String) : Option Algorithm := all.find? fun algorithm => algorithm.name == name

def family : Algorithm → Family
  | hs256 | hs384 | hs512 => .hmac
  | es256 | es384 => .elliptic
  | rs256 | rs384 | rs512 | ps256 | ps384 | ps512 => .rsa
  | edDsa => .edwards

/-- The digest of a message under a shared secret, for the algorithms that use one. -/
def digest? (algorithm : Algorithm) (secret message : Octets) : Option Octets :=
  match algorithm with
  | hs256 => some (sha256.keyed secret message)
  | hs384 => some (sha384.keyed secret message)
  | hs512 => some (sha512.keyed secret message)
  | _ => none

/-- The signature text of a message, for the algorithms that use a shared secret. -/
def signature? (algorithm : Algorithm) (secret : Octets) (message : List Char) :
    Option (List Char) :=
  (algorithm.digest? secret (octetsOf (String.ofList message))).map Base64Url.encode

end Algorithm

end CallJournal.Token
