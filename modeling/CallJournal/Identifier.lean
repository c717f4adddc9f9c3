import CallJournal.Json.Printer
import CallJournal.Json.Reader
import CallJournal.Text.Cut
import CallJournal.Text.Quoted

/-! Resource identifiers: an application, a type and an ID, joined by slashes. Only the ID may
hold slashes. -/

namespace CallJournal

structure Identifier where
  applicationName : String
  resourceType : String
  resourceId : String
  deriving DecidableEq, Repr

/-- Why a text or three parts make no identifier. -/
inductive IdentifierError where
  | malformed (text : String)
  | invalidPart (name : String)
  deriving DecidableEq, Repr

def IdentifierError.message : IdentifierError → String
  | .malformed text =>
    "invalid resource identifier " ++ Text.quoted text ++
      ": expected <application_name>/<resource_type>/<resource_id>"
  | .invalidPart name => name ++ " must not contain '/'"

namespace Identifier

def empty : Identifier := ⟨"", "", ""⟩

def isEmpty (identifier : Identifier) : Bool :=
  identifier.applicationName.isEmpty && identifier.resourceType.isEmpty &&
    identifier.resourceId.isEmpty

/-- An identifier of three parts, if the first two hold no slash. -/
def ofParts (applicationName resourceType resourceId : String) :
    Except IdentifierError Identifier :=
  if '/' ∈ applicationName.toList then .error (.invalidPart "application_name")
  else if '/' ∈ resourceType.toList then .error (.invalidPart "resource_type")
  else .ok ⟨applicationName, resourceType, resourceId⟩

/-- The parts joined by slashes; nothing at all for the empty identifier. -/
def text (identifier : Identifier) : String :=
  if identifier.isEmpty then ""
  else identifier.applicationName ++ "/" ++ identifier.resourceType ++ "/" ++
    identifier.resourceId

/-- Reads an identifier; the first two slashes separate its parts. -/
def ofText (text : String) : Except IdentifierError Identifier :=
  if text.isEmpty then .ok empty
  else match Text.cutFirst '/' text.toList with
    | none => .error (.malformed text)
    | some (applicationName, rest) =>
      match Text.cutFirst '/' rest with
      | none => .error (.malformed text)
      | some (resourceType, resourceId) =>
        .ok ⟨String.ofList applicationName, String.ofList resourceType,
          String.ofList resourceId⟩

def jsonText (identifier : Identifier) : String := (Json.string identifier.text).text

inductive JsonError where
  | notOneString
  | noIdentifier (cause : IdentifierError)
  deriving DecidableEq, Repr

/-- Reads an identifier from a JSON text. A string at its front is converted before what follows
it is looked at. -/
def ofJsonText (text : String) : Except JsonError Identifier :=
  match Skeleton.skipSpace text.toList with
  | '"' :: rest =>
    match Skeleton.stringBody rest with
    | none => .error .notOneString
    | some (pieces, after) =>
      match Piece.text? pieces with
      | none => .error .notOneString
      | some content =>
        match ofText content with
        | .error cause => .error (.noIdentifier cause)
        | .ok identifier =>
          if (Skeleton.skipSpace after).isEmpty then .ok identifier else .error .notOneString
  | _ => .error .notOneString

end Identifier

end CallJournal
