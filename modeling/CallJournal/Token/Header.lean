import CallJournal.Token.Algorithm
import CallJournal.Token.WebKey

namespace CallJournal.Token

structure Header where
  algorithm : Algorithm
  type? : Option String
  contentType? : Option String
  keySetUrl? : Option String
  /-- A public key, as it is written. -/
  publicKey? : Option Skeleton
  keyId? : Option String
  certificateUrl? : Option String
  certificates? : Option (List String)
  certificateSha1? : Option String
  certificateSha256? : Option String

namespace Header

/-- The names that a header knows, in the order in which an array holds their values. -/
def names : List String :=
  ["typ", "alg", "cty", "jku", "jwk", "kid", "x5u", "x5c", "x5t", "x5t#S256"]

def string? : Skeleton → Option String
  | .string pieces => OctetText.text? pieces
  | _ => none

/-- A value that may be null: the outer nothing means that it is neither null nor as wanted. -/
def optional? {α : Type _} (read : Skeleton → Option α) : Skeleton → Option (Option α)
  | .null => some none
  | found => (read found).map some

def strings? : Skeleton → Option (List String)
  | .array items => items.mapM string?
  | _ => none

/-- An algorithm is given by its name, or by an object with its name and null. -/
def algorithm? : Skeleton → Option Algorithm
  | .string pieces => (OctetText.text? pieces).bind Algorithm.ofName?
  | .object [(key, .null)] => (OctetText.text? key).bind Algorithm.ofName?
  | _ => none

/-- A public key is one level below the header. -/
def webKey? (found : Skeleton) : Option Skeleton :=
  if found.depth < Skeleton.maxDepth ∧ WebKey.isKey found = true then some found else none

/-- The value of a known name; one that is absent counts as null. -/
def find (name : String) (members : List (String × Skeleton)) : Skeleton :=
  (members.lookup name).getD .null

/-- A header from its members; no known name occurs twice, and the algorithm is not missing. -/
def ofMembers? (members : List (String × Skeleton)) : Option Header := do
  if names.all fun name => (members.filter fun member => member.1 == name).length ≤ 1 then
    let algorithm ← algorithm? (find "alg" members)
    let type? ← optional? string? (find "typ" members)
    let contentType? ← optional? string? (find "cty" members)
    let keySetUrl? ← optional? string? (find "jku" members)
    let publicKey? ← optional? webKey? (find "jwk" members)
    let keyId? ← optional? string? (find "kid" members)
    let certificateUrl? ← optional? string? (find "x5u" members)
    let certificates? ← optional? strings? (find "x5c" members)
    let certificateSha1? ← optional? string? (find "x5t" members)
    let certificateSha256? ← optional? string? (find "x5t#S256" members)
    return { algorithm, type?, contentType?, keySetUrl?, publicKey?, keyId?, certificateUrl?
             certificates?, certificateSha1?, certificateSha256? }
  else none

/-- A header is an object, or an array with a value for each known name. -/
def ofSkeleton? : Skeleton → Option Header
  | .object members => (OctetText.named? members).bind ofMembers?
  | .array items => if items.length = names.length then ofMembers? (names.zip items) else none
  | _ => none

def ofOctets? (octets : Octets) : Option Header :=
  (OctetText.read? octets).bind ofSkeleton?

end Header

end CallJournal.Token
