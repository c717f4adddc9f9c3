import CallJournal.Json.Reader
import CallJournal.Metadata

namespace CallJournal.Token

namespace Claims

/-- The members of the object that a text is, in the order in which they are written and as often
as they are. -/
def written? (text : String) : Option (List (String × Json)) :=
  match Skeleton.read? text.toList with
  | some (.object members) =>
    if (Skeleton.object members).depth ≤ Skeleton.maxDepth then
      Skeleton.memberValues? Piece.text? members
    else none
  | _ => none

/-- The claims of a payload; the last of a name counts. -/
def ofOctets? (octets : Octets) : Option Fields :=
  ((textOf? octets).bind written?).map Fields.ofList

end Claims

/-- The registered claims, of which only the expiry date is looked at. -/
structure Registered where
  /-- The second after which the token is not to be used. -/
  expiry? : Option Nat

namespace Registered

def names : List String := ["exp", "nbf", "sub", "iss", "aud"]

/-- Dates may be no filled containers, and the subject no container at all. -/
def isTolerable (name : String) : Json → Bool
  | .array items => if name = "sub" then false else !(name = "exp" || name = "nbf") || items.isEmpty
  | .object members =>
    if name = "sub" then false else !(name = "exp" || name = "nbf") || members.isEmpty
  | _ => true

/-- The second that a claim names, if it is a number that can be one. -/
def second? : Json → Option Nat
  | .number (.whole ⟨value, _⟩) => if 0 ≤ value then some value.toNat else none
  | .number (.float value _) => value.toNat64?
  | _ => none

def ofMembers? (members : List (String × Json)) : Option Registered :=
  let unique := names.all fun name => (members.filter fun member => member.1 == name).length ≤ 1
  if unique && members.all fun member => isTolerable member.1 member.2 then
    some ⟨((Fields.ofList members).get? "exp").bind second?⟩
  else none

/-- The registered claims of a payload that has been read for its claims before. -/
def ofOctets? (octets : Octets) : Option Registered :=
  ((textOf? octets).bind Claims.written?).bind ofMembers?

/-- How many seconds an expired token is still accepted. -/
def leeway : Int := 60

/-- Whether the expiry date lies more than the leeway in the past. -/
def isExpired (registered : Registered) (now : Int) : Bool :=
  match registered.expiry? with
  | some second => second < now - leeway
  | none => false

end Registered

end CallJournal.Token
