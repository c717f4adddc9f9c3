import CallJournal.Token.OctetText

namespace CallJournal.Token.WebKey

/-- What a member's value has to be. -/
abbrev Shape := Skeleton → Bool

def isText : Shape
  | .string _ => true
  | _ => false

def isTexts : Shape
  | .array items => items.all isText
  | _ => false

def isNull : Shape
  | .null => true
  | _ => false

def isVoid : Shape
  | .null | .object [] => true
  | _ => false

def isNameIn (names : List String) (pieces : List Piece) : Bool :=
  (OctetText.text? pieces).any names.contains

/-- One of some names, as a string or as an object with the name alone and nothing under it. -/
def isChoice (nothing : Shape) (names : List String) : Shape
  | .string pieces => isNameIn names pieces
  | .object [(pieces, value)] => isNameIn names pieces && nothing value
  | _ => false

def curves : List String := ["P-256", "P-384", "P-521", "Ed25519"]

def algorithms : List String :=
  ["HS256", "HS384", "HS512", "ES256", "ES384", "RS256", "RS384", "RS512", "PS256", "PS384",
    "PS512", "EdDSA", "RSA1_5", "RSA-OAEP", "RSA-OAEP-256"]

/-- What keys of every kind may say about themselves. -/
def common : List (String × Shape) :=
  [("use", isText), ("key_ops", isTexts), ("alg", isChoice isVoid algorithms), ("kid", isText),
    ("x5u", isText), ("x5c", isTexts), ("x5t", isText), ("x5t#S256", isText)]

def kind (name : String) : String × Shape := ("kty", isChoice isNull [name])

def curve : String × Shape := ("crv", isChoice isNull curves)

/-- What the kinds of keys need. -/
def kinds : List (List (String × Shape)) :=
  [[kind "EC", curve, ("x", isText), ("y", isText)], [kind "RSA", ("n", isText), ("e", isText)],
    [kind "oct", ("k", isText)], [kind "OKP", curve, ("x", isText)]]

/-- The values of a member, in the order in which they are given. -/
def values (members : List (String × Skeleton)) (name : String) : List Skeleton :=
  members.filterMap fun member => if member.1 = name then some member.2 else none

/-- Whether a member that may be missing or null is as wanted, and not repeated. -/
def allows (members : List (String × Skeleton)) (wanted : String × Shape) : Bool :=
  match values members wanted.1 with
  | [] => true
  | [value] => isNull value || wanted.2 value
  | _ => false

/-- Whether a member is there once, as wanted. -/
def provides (members : List (String × Skeleton)) (wanted : String × Shape) : Bool :=
  match values members wanted.1 with
  | [value] => wanted.2 value
  | _ => false

/-- Whether a value has the shape of a key. All of it has to have a value, also what is ignored. -/
def isKey (found : Skeleton) : Bool :=
  match found with
  | .object members =>
    (found.valueBy? OctetText.text?).isSome && (OctetText.named? members).any fun named =>
      common.all (allows named) && kinds.any fun needed => needed.all (provides named)
  | _ => false

end CallJournal.Token.WebKey
