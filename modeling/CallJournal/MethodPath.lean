import CallJournal.Text.Cut

namespace CallJournal

structure MethodPath where
  service : String
  method : String
  deriving DecidableEq, Repr

namespace MethodPath

/-- A text without one slash at its front. -/
def withoutSlash : List Char → List Char
  | '/' :: rest => rest
  | text => text

/-- Splits a path at its last slash; one slash in front of the service is dropped, and a path
without a slash is a method alone. -/
def split (path : String) : MethodPath :=
  match Text.cutLast '/' path.toList with
  | some (service, method) => ⟨String.ofList (withoutSlash service), String.ofList method⟩
  | none => ⟨"", path⟩

end MethodPath

end CallJournal
