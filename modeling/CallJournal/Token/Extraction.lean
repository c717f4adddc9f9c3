import CallJournal.Json.Printer
import CallJournal.Text.Blank
import CallJournal.Text.Cut
import CallJournal.Token.Claims
import CallJournal.Token.Key

/-! Taking a claim from a token, which is read once for its header and once as a whole. -/

namespace CallJournal

namespace Token

def authorizationHeader : String := "authorization"

/-- The schemes under which a token is accepted, in any letter case. -/
def schemes : List String := ["bearer", "token"]

/-- The token that a call carries: what follows the scheme, without blanks around it. -/
def ofMetadata (metadata : Metadata) : Except AuthError String :=
  match (metadata.text? authorizationHeader).bind fun value =>
      Text.cutFirst ' ' value.toList with
  | none => .error .missingToken
  | some (scheme, rest) =>
    if !schemes.any fun accepted => Text.sameFolded accepted (String.ofList scheme) then
      .error (.unsupportedScheme (String.ofList scheme))
    else
      let token := Text.trim (String.ofList rest)
      if token.isEmpty then .error .missingToken else .ok token

/-- The parts of a token: it is cut at its last two dots, so that a header may hold dots. -/
structure Parts where
  header : List Char
  payload : List Char
  signature : List Char
  deriving DecidableEq

/-- What is signed: header and payload with the dot between them. -/
def Parts.message (parts : Parts) : List Char := parts.header ++ '.' :: parts.payload

def split (token : String) : Except TokenFault Parts :=
  match Text.cutLast '.' token.toList with
  | none => .error .shape
  | some (message, signature) =>
    match Text.cutLast '.' message with
    | none => .error .shape
    | some (header, payload) => .ok ⟨header, payload, signature⟩

def decodePart (part : List Char) : Except TokenFault Octets :=
  (Base64Url.decode part).mapError .base64

/-- What a token is held against: the algorithm that its key was found for, unless its signature is
not looked at. -/
structure Validation where
  algorithm : Algorithm
  isSigned : Bool

section

variable (libraries : Libraries)

def readHeader (part : List Char) : Except TokenFault Header := do
  let octets ← decodePart part
  libraries.parse .header Header.ofOctets? octets

/-- The header of a token that is not checked yet. -/
def headerOf (token : String) : Except TokenFault Header := do
  let parts ← split token
  readHeader libraries parts.header

/-- A shared secret signs the rest of the token again; a public key is shown the signature. -/
def verify (key : Key) (algorithm : Algorithm) (parts : Parts) : Except TokenFault Bool :=
  match key.secret?.bind fun secret => algorithm.signature? secret parts.message with
  | some expected => .ok (parts.signature == expected)
  | none => do
    let signature ← decodePart parts.signature
    return libraries.accepts algorithm key (octetsOf (String.ofList parts.message)) signature

def checkFamily (key : Key) (validation : Validation) : Except TokenFault Unit :=
  if validation.isSigned ∧ key.family ≠ validation.algorithm.family then .error .algorithm
  else .ok ()

def checkSignature (key : Key) (validation : Validation) (header : Header) (parts : Parts) :
    Except TokenFault Unit :=
  if !validation.isSigned then .ok ()
  else if header.algorithm ≠ validation.algorithm then .error .algorithm
  else
    match verify libraries key header.algorithm parts with
    | .error fault => .error fault
    | .ok true => .ok ()
    | .ok false => .error .signature

/-- The payload of a token that passes its checks. -/
def payloadOf (key : Key) (validation : Validation) (token : String) :
    Except TokenFault (List Char) := do
  checkFamily key validation
  let parts ← split token
  let header ← readHeader libraries parts.header
  checkSignature libraries key validation header parts
  return parts.payload

/-- The claims of a payload that has not expired. -/
def readClaims (now : Int) (part : List Char) : Except TokenFault Fields := do
  let octets ← decodePart part
  let claims ← libraries.parse .claims Claims.ofOctets? octets
  let registered ← libraries.parse .registered Registered.ofOctets? octets
  if registered.isExpired now then .error .expired else .ok claims

def decode (key : Key) (validation : Validation) (now : Int) (token : String) :
    Except TokenFault Fields := do
  let part ← payloadOf libraries key validation token
  readClaims libraries now part

/-- A claim as text: a string is its own text, null counts as no claim at all. -/
def render (claims : Fields) (field : String) : Except AuthError String :=
  match claims.get? field with
  | none | some .null => .error (.missingClaim field)
  | some (.string value) => .ok value
  | some value => .ok value.text

def faulty {α : Type _} (result : Except TokenFault α) : Except AuthError α :=
  result.mapError .token

/-- What a token with a given header is decoded with. Without a resolver any key will do, since no
signature is looked at. -/
def keyFor (keyfunc? : Option Keyfunc) (header : Header) : Except AuthError (Key × Validation) :=
  match keyfunc? with
  | some keyfunc => (keyfunc header).map fun key => (key, ⟨header.algorithm, true⟩)
  | none => .ok (.secret [], ⟨header.algorithm, false⟩)

def claim (keyfunc? : Option Keyfunc) (now : Int) (field token : String) :
    Except AuthError String := do
  let header ← faulty (headerOf libraries token)
  let (key, validation) ← keyFor keyfunc? header
  let claims ← faulty (decode libraries key validation now token)
  render claims field

/-- Takes a claim from the token that a call carries. -/
def field (metadata : Metadata) (name : String) (keyfunc? : Option Keyfunc) (now : Int) :
    Except AuthError String := do
  let token ← ofMetadata metadata
  claim libraries keyfunc? now name token

/-- The claim, and the log field, that names the account a call is made for. -/
def accountField : String := "account_id"

def accountId (metadata : Metadata) (keyfunc? : Option Keyfunc) (now : Int) :
    Except AuthError String :=
  field libraries metadata accountField keyfunc? now

end

end Token

end CallJournal
