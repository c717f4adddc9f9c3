import CallJournal.Token.Extraction

namespace CallJournal.Token

def testSecret : String := "some-secret-123"

/-- Resolves every token to the test secret. -/
def testKeyfunc : Keyfunc := fun _ => .ok (.secret (octetsOf testSecret))

/-- The claims of a test token when nothing else is asked for. -/
def standardClaims : Json := .object [(accountField, .string "TestAccount")]

def headerText (algorithm : Algorithm) : String :=
  "\x7b\"typ\":\"JWT\",\"alg\":\"" ++ algorithm.name ++ "\"\x7d"

/-- A token with the given claims, if its algorithm signs with a shared secret. -/
def sign (algorithm : Algorithm) (claims : Json) : Except TokenFault String :=
  let message := Base64Url.encode (octetsOf (headerText algorithm)) ++
    '.' :: Base64Url.encode (octetsOf claims.text)
  match algorithm.signature? (octetsOf testSecret) message with
  | none => .error .algorithm
  | some signature => .ok (String.ofList (message ++ '.' :: signature))

end CallJournal.Token
