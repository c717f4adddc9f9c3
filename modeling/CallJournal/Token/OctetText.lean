import CallJournal.Json.Reader
import CallJournal.Metadata

/-! JSON from octets. A string has to be UTF-8 only where somebody asks for its text. -/

namespace CallJournal.Token.OctetText

/-- Octets as characters, one each, so that the structure of a text can be read before its strings
are. -/
def chars (octets : Octets) : List Char := octets.map fun octet => Char.ofNat octet.toNat

/-- The text of a string whose characters stand for octets. -/
def text? (pieces : List Piece) : Option String :=
  (Piece.assemble? (fun char => [UInt8.ofNat char.toNat])
      (fun char => octetsOf (String.singleton char)) pieces).bind fun octets =>
    textOf? octets.flatten

/-- Members with the texts of their keys; each key has to be one. -/
def named? (members : List (List Piece × Skeleton)) : Option (List (String × Skeleton)) :=
  members.mapM fun member => (text? member.1).map fun name => (name, member.2)

def read? (octets : Octets) : Option Skeleton := Skeleton.read? (chars octets)

end CallJournal.Token.OctetText
