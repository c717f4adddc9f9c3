import CallJournal.Event
import CallJournal.Output.Pattern

/-! Directives `target[span{field=pattern}]=filter` say which events are written. The most precise
one decides. -/

namespace CallJournal.Output

/-- What a directive asks of a field. -/
structure FieldTest where
  name : String
  /-- Whether there is a pattern for the field's value; only spans are tested for values. -/
  hasPattern : Bool
  deriving DecidableEq, Repr

structure Directive where
  /-- Without a target the directive concerns all events. -/
  target? : Option String
  /-- A directive for spans concerns no event outside one. -/
  forSpan : Bool
  test? : Option FieldTest
  filter : Filter
  deriving DecidableEq, Repr

/-- Why a text is no directive. -/
inductive DirectiveFault where
  | malformed
  /-- A part would begin or end within a character; whoever reads such a text is stopped. -/
  | brokenCut
  deriving DecidableEq, Repr

namespace Directive

def ofFilter (filter : Filter) : Directive := ⟨none, false, none, filter⟩

def ofTarget (target : String) : Directive := ⟨some target, false, none, .upTo .trace⟩

/-! ## Filters and fields -/

/-- Digits as a filter: the number of levels that pass. -/
def filterOfNumber? (text : String) : Option Filter :=
  let digits := match text.toList with
    | '+' :: rest => rest
    | rest => rest
  if digits.isEmpty || !digits.all Char.isDigit then none
  else Filter.all[Nat.ofDigitChars 10 digits 0]?

/-- A filter is given by a number or by a level's name in any letter case. -/
def filter? (text : String) : Option Filter :=
  (filterOfNumber? text).or (Filter.all.find? fun filter => Text.sameFolded filter.name text)

/-- What stands behind an equals sign; nothing lets everything pass. -/
def readFilter (text : List Char) : Except DirectiveFault Filter :=
  if text.isEmpty then .ok (.upTo .trace)
  else match filter? (String.ofList text) with
    | some filter => .ok filter
    | none => .error .malformed

/-- A field is given by its name, and a pattern between the first equals sign and the next. -/
def readTest (text : List Char) : Except DirectiveFault FieldTest :=
  if text.isEmpty then .error .malformed
  else match Text.cutFirst '=' text with
    | none => .ok ⟨String.ofList text, false⟩
    | some (name, rest) =>
      if Pattern.isValid (rest.takeWhile (· != '=')) then .ok ⟨String.ofList name, true⟩
      else .error .malformed

/-- A lone word is a filter, or else a target of which everything passes. -/
def ofWord (word : List Char) : Directive :=
  match filter? (String.ofList word) with
  | some filter => .ofFilter filter
  | none => .ofTarget (String.ofList word)

/-! ## Reading -/

/-- A directive may begin with a letter or a digit of any script, or with one of three marks. -/
def mayBegin (char : Char) : Bool :=
  Text.isAlphanumeric char || char == '-' || char == ':' || char == '_'

/-- Which part of a directive is being read, and at which octet it began. -/
inductive Stage where
  | start
  | word
  | span (first : Nat)
  | field (first : Nat)
  | afterField
  | afterSpan
  | filter (first : Nat)
  deriving DecidableEq, Repr

def part (given : List Char) (first last : Nat) : Except DirectiveFault (List Char) :=
  match Text.slice? given first last with
  | some part => .ok part
  | none => .error .brokenCut

/-- The stage after a character at octet `place`, and the directive as far as it is known then. -/
def advance (given : List Char) (place : Nat) (char : Char) (stage : Stage) (known : Directive) :
    Except DirectiveFault (Stage × Directive) :=
  match stage with
  | .start =>
    if char == '[' then .ok (.span (place + 1), known)
    else if mayBegin char then .ok (.word, known)
    else .error .malformed
  | .word =>
    if char == '=' || char == '[' then do
      let target ← part given 0 place
      let known := { known with target? := some (String.ofList target) }
      return (if char == '=' then .filter (place + 1) else .span (place + 1), known)
    else .ok (.word, known)
  | .span first =>
    if char == ']' then do
      let _ ← part given first place
      return (.afterSpan, { known with forSpan := true })
    else if char == '\x7b' then do
      let name ← part given first place
      return (.field (place + 1), { known with forSpan := !name.isEmpty })
    else .ok (stage, known)
  | .field first =>
    if char == '\x7d' then do
      let test ← readTest (← part given first place)
      return (.afterField, { known with test? := some test })
    else .ok (stage, known)
  | .afterField => if char == ']' then .ok (.afterSpan, known) else .error .malformed
  | .afterSpan => if char == '=' then .ok (.filter (place + 1), known) else .error .malformed
  | .filter _ => .ok (stage, known)

def finish (given : List Char) (stage : Stage) (known : Directive) :
    Except DirectiveFault Directive :=
  match stage with
  | .word => .ok (ofWord given)
  | .filter first => do
    let filter ← readFilter (← part given first (Text.octetCount given))
    return { known with filter }
  | .afterSpan => .ok known
  | _ => .error .malformed

def readFrom (given : List Char) (place : Nat) (stage : Stage) (known : Directive) :
    List Char → Except DirectiveFault Directive
  | [] => finish given stage known
  | char :: rest => do
    let (after, found) ← advance given place char stage known
    readFrom given (place + char.utf8Size) after found rest

def read (text : List Char) : Except DirectiveFault Directive :=
  readFrom text 0 .start (.ofFilter (.upTo .trace)) (Text.trimEnd (Text.trimStart text))

/-- The directives of a comma-separated text, each with what became of it; empty pieces are
skipped. -/
def readAll (text : String) : List (Except DirectiveFault Directive) :=
  ((Text.pieces ',' text.toList).filter fun piece => !piece.isEmpty).map read

/-! ## Deciding -/

/-- Whether the directive says something about an event: its target begins like the directive's,
and it has the field. -/
def concerns (directive : Directive) (event : Event) : Bool :=
  !directive.forSpan &&
    (directive.target?.all fun wanted => wanted.toList.isPrefixOf event.target.toList) &&
    directive.test?.all fun test => !test.hasPattern && event.has test.name

/-- How much of a target a directive names; no target at all is the least. -/
def precision (directive : Directive) : Nat :=
  match directive.target? with
  | none => 0
  | some target => target.utf8ByteSize + 1

/-- Whether a test is no more precise than another: any is more precise than none, and of two the
one for the greater name is. -/
def testYields : Option FieldTest → Option FieldTest → Bool
  | none, _ => true
  | some _, none => false
  | some test, some other => test.name ≤ other.name

/-- Whether a later directive about the same event decides instead of this one; the target counts
before the test. -/
def yieldsTo (directive later : Directive) : Bool :=
  directive.precision < later.precision ||
    directive.precision == later.precision && testYields directive.test? later.test?

/-- The directive that decides on an event: the most precise one, and of several the last. -/
def decisive? (directives : List Directive) (event : Event) : Option Directive :=
  (directives.filter fun directive => directive.concerns event).foldl (fun best directive =>
    match best with
    | some other => if other.yieldsTo directive then some directive else best
    | none => some directive) none

def allows (directives : List Directive) (event : Event) : Bool :=
  match decisive? directives event with
  | some directive => directive.filter.passes event.level
  | none => false

end Directive

end CallJournal.Output
