import CallJournal.Json.Skeleton
import CallJournal.Text.Alphanumeric
import CallJournal.Text.Ascii
import CallJournal.Text.Blank
import CallJournal.Text.Cut

/-! Patterns are only checked for their form: no event is ever held against one. -/

namespace CallJournal.Output.Pattern

/-- Flags that decide on the form of what follows them. -/
structure Flags where
  ignoresCase : Bool
  /-- Characters are meant and not octets. -/
  unicode : Bool
  /-- Blanks do not count, and number signs begin comments. -/
  spaced : Bool
  deriving DecidableEq, Repr

namespace Flags

def standard : Flags := ⟨false, true, false⟩

/-- Whether letters would have to be compared by tables of letter case. -/
def needsCases (flags : Flags) : Bool := flags.ignoresCase && flags.unicode

/-- Marks before a hyphen are switched on, those behind it off. -/
def change (flags : Flags) (marks : List Char) : Flags :=
  let (raised, lowered) := marks.span (· != '-')
  let state (mark : Char) (before : Bool) : Bool :=
    if raised.contains mark then true
    else if lowered.contains mark then false
    else before
  ⟨state 'i' flags.ignoresCase, state 'u' flags.unicode, state 'x' flags.spaced⟩

/-- Marks are letters that have a meaning, each given once, and at most one hyphen, not the last. -/
def areMarks (marks : List Char) : Bool :=
  marks.all ("imsUuRx-".toList.contains ·) && marks.eraseDups == marks &&
    marks.getLast? != some '-'

end Flags

/-- Skips blanks, and comments up to the end of their lines. -/
def skipSpace : Bool → List Char → List Char
  | _, [] => []
  | inComment, char :: rest =>
    if inComment then skipSpace (char != '\n') rest
    else if char == '#' then skipSpace true rest
    else if Text.isBlank char then skipSpace false rest
    else char :: rest

def Flags.skip (flags : Flags) (text : List Char) : List Char :=
  if flags.spaced then skipSpace false text else text

/-- What an escape or a plain character means. -/
inductive Atom where
  | char (code : Nat)
  /-- One of several characters. -/
  | oneOf
  /-- A place between characters. -/
  | place
  deriving DecidableEq, Repr

/-- The number that so many hexadecimal digits spell, behind the digits read already. -/
def hexNumber? (flags : Flags) (value : Nat) : Nat → List Char → Option (Nat × List Char)
  | 0, text => some (value, text)
  | _ + 1, [] => none
  | count + 1, char :: rest =>
    match Skeleton.hexValue? char with
    | some digit => hexNumber? flags (value * 16 + digit) count (flags.skip rest)
    | none => none

/-- A character given by its number; octets beyond ASCII are none. -/
def numbered? (flags : Flags) (count : Nat) (text : List Char) : Option (Atom × List Char) :=
  match hexNumber? flags 0 count (flags.skip text) with
  | some (code, rest) =>
    if code.isValidChar && (flags.unicode || code < 0x80) then some (.char code, rest) else none
  | none => none

/-- What stands behind a backslash. Marks of ASCII stand for themselves. -/
def escape? (flags : Flags) : List Char → Option (Atom × List Char)
  | [] => none
  | char :: rest =>
    match char with
    | 'x' => numbered? flags 2 rest
    | 'u' => numbered? flags 4 rest
    | 'U' => numbered? flags 8 rest
    | 'a' => some (.char 0x07, rest)
    | 'f' => some (.char 0x0c, rest)
    | 't' => some (.char 0x09, rest)
    | 'n' => some (.char 0x0a, rest)
    | 'r' => some (.char 0x0d, rest)
    | 'v' => some (.char 0x0b, rest)
    | 'A' | 'z' => some (.place, rest)
    | 'b' | 'B' | '<' | '>' => if flags.unicode then none else some (.place, rest)
    | 'd' | 's' | 'w' => if flags.unicode then none else some (.oneOf, rest)
    | _ =>
      if char.toNat < 0x80 && !char.isAlphanum then some (.char char.toNat, rest) else none

/-! ## Classes in brackets -/

def item? (flags : Flags) : List Char → Option (Atom × List Char)
  | [] => none
  | '\\' :: rest => escape? flags rest
  | char :: rest =>
    if flags.unicode || char.toNat < 0x80 then some (.char char.toNat, rest) else none

/-- What is left behind an item of a class or behind a range from a character to no lesser one. -/
def range? (flags : Flags) (text : List Char) : Option (List Char) := do
  let (first, rest) ← item? flags text
  let alone := if first = .place then none else some (flags.skip rest)
  match flags.skip rest with
  | '-' :: others =>
    match flags.skip others with
    | ']' :: _ | '-' :: _ => alone
    | others =>
      match first, ← item? flags others with
      | .char low, (.char high, behind) => if low ≤ high then some behind else none
      | _, _ => none
  | _ => alone

def classNames : List String :=
  ["alnum", "alpha", "ascii", "blank", "cntrl", "digit", "graph", "lower", "print", "punct",
    "space", "upper", "word", "xdigit"]

/-- What is left behind a class given by name, such as `[:alpha:]`; its bracket is read already. -/
def behindName? : List Char → Option (List Char)
  | ':' :: text =>
    let text := match text with
      | '^' :: rest => rest
      | rest => rest
    match Text.cutFirst ':' text with
    | some (name, ']' :: rest) =>
      if classNames.contains (String.ofList name) then some rest else none
    | _ => none
  | _ => none

/-- A class may begin with a caret, hyphens, or else a closing bracket. Of octets none may be left
out by a caret. -/
def behindOpening? (flags : Flags) (text : List Char) : Option (List Char) :=
  let dashed (text : List Char) : List Char :=
    match flags.skip text with
    | '-' :: rest => rest.dropWhile fun char => char == '-' || flags.spaced && Text.isBlank char
    | ']' :: rest => rest
    | rest => rest
  match flags.skip text with
  | '^' :: rest => if flags.unicode then some (dashed rest) else none
  | rest => some (dashed rest)

/-- What is left behind a class with `depth` more classes around it, whose beginning is read. -/
def behindClass? (flags : Flags) : Nat → Nat → List Char → Option (List Char)
  | 0, _, _ => none
  | fuel + 1, depth, text =>
    match flags.skip text with
    | [] => none
    | '[' :: rest =>
      match behindName? rest with
      | some behind => behindClass? flags fuel depth behind
      | none => (behindOpening? flags rest).bind (behindClass? flags fuel (depth + 1))
    | ']' :: rest => if depth = 0 then some rest else behindClass? flags fuel (depth - 1) rest
    | '&' :: '&' :: rest => behindClass? flags fuel depth rest
    | '-' :: '-' :: rest => behindClass? flags fuel depth rest
    | '~' :: '~' :: rest => behindClass? flags fuel depth rest
    | others => (range? flags others).bind (behindClass? flags fuel depth)

/-! ## Groups -/

/-- What an opening parenthesis begins. -/
inductive Opening where
  | group (flags : Flags)
  | named (name : List Char)
  /-- Nothing: the flags are changed up to the end of the group around. -/
  | change (flags : Flags)
  deriving DecidableEq, Repr

/-- A group's name begins with a letter or a low line. -/
def isName : List Char → Bool
  | [] => false
  | first :: rest =>
    (first == '_' || Text.isAlphanumeric first && !first.isDigit) &&
      rest.all fun char => Text.isAlphanumeric char || "_.[]".toList.contains char

def name? (text : List Char) : Option (Opening × List Char) :=
  match Text.cutFirst '>' text with
  | some (name, rest) => if isName name then some (.named name, rest) else none
  | none => none

/-- Flags, for the group that begins with them or for the rest of the group around. -/
def marks? (flags : Flags) (text : List Char) : Option (Opening × List Char) :=
  let (marks, rest) := text.span fun char => char != ':' && char != ')'
  if !Flags.areMarks marks then none
  else
    match rest with
    | ':' :: rest => some (.group (flags.change marks), rest)
    | ')' :: rest => if marks.isEmpty then none else some (.change (flags.change marks), rest)
    | _ => none

/-- What stands behind an opening parenthesis; to look ahead or behind is not possible. -/
def opening? (flags : Flags) (text : List Char) : Option (Opening × List Char) :=
  match flags.skip text with
  | '?' :: 'P' :: '<' :: rest => name? rest
  | '?' :: '<' :: rest => name? rest
  | '?' :: rest => marks? flags rest
  | rest => some (.group flags, rest)

/-! ## Expressions -/

/-- What the part of an expression that is read already says about the rest. -/
structure State where
  flags : Flags
  /-- The flags that come back with each closing parenthesis, the innermost group's first. -/
  outer : List Flags
  /-- The names of the groups so far. -/
  names : List (List Char)
  /-- Whether there is something in front that can be repeated. -/
  repeatable : Bool
  deriving DecidableEq, Repr

namespace State

def standard : State := ⟨.standard, [], [], false⟩

/-- Something to repeat has been read. -/
def readItem (state : State) : State := { state with repeatable := true }

/-- A branch begins: there is nothing to repeat. -/
def beginBranch (state : State) : State := { state with repeatable := false }

def beginGroup (state : State) (flags : Flags) : State :=
  { state with flags, outer := state.flags :: state.outer }.beginBranch

def open? (state : State) : Opening → Option State
  | .group flags => some (state.beginGroup flags)
  | .named name =>
    if state.names.contains name then none
    else some { state.beginGroup state.flags with names := name :: state.names }
  | .change flags => some { state.beginBranch with flags }

/-- The closing of a group, if there is one around. -/
def close? (state : State) : Option State :=
  match state.outer with
  | [] => none
  | flags :: outer => some { state.readItem with flags, outer }

end State

/-- The next part of an expression, of which there is some text left. -/
def step? (state : State) (text : List Char) : Option (State × List Char) :=
  let item (rest : List Char) : Option (State × List Char) := some (state.readItem, rest)
  let letter (rest : List Char) : Option (State × List Char) :=
    if state.flags.needsCases then none else item rest
  match text with
  | [] => none
  | '(' :: rest => do
    let (opening, rest) ← opening? state.flags rest
    return (← state.open? opening, rest)
  | ')' :: rest => do return (← state.close?, rest)
  | '|' :: rest => some (state.beginBranch, rest)
  | '[' :: rest => do
    letter (← behindClass? state.flags rest.length.succ 0 (← behindOpening? state.flags rest))
  | '\x7b' :: _ => none
  | '.' :: rest => if state.flags.unicode then item rest else none
  | '^' :: rest | '$' :: rest => item rest
  | '\\' :: rest => do
    match ← escape? state.flags rest with
    | (.char _, rest) => letter rest
    | (_, rest) => item rest
  | char :: rest =>
    if char == '*' || char == '+' || char == '?' then
      if state.repeatable then
        match rest with
        | '?' :: rest => item rest
        | rest => item rest
      else none
    else letter rest

/-- Whether the rest of an expression can be read; each part takes at least one character. -/
def isRest : Nat → State → List Char → Bool
  | 0, _, _ => false
  | fuel + 1, state, text =>
    match state.flags.skip text with
    | [] => state.outer.isEmpty
    | others =>
      match step? state others with
      | some (after, rest) => isRest fuel after rest
      | none => false

def isExpression (text : List Char) : Bool := isRest (text.length + 1) .standard text

/-! ## Numbers -/

def isExponent (text : List Char) : Bool :=
  let digits := match text with
    | '+' :: rest => rest
    | '-' :: rest => rest
    | rest => rest
  !digits.isEmpty && digits.all Char.isDigit

/-- A decimal number without a sign, or one of the words for what is none. -/
def isUnsigned (text : List Char) : Bool :=
  let (whole, rest) := text.span Char.isDigit
  let (fraction, rest) := match rest with
    | '.' :: rest => rest.span Char.isDigit
    | rest => ([], rest)
  let decimal := !(whole ++ fraction).isEmpty && match rest with
    | [] => true
    | 'e' :: exponent | 'E' :: exponent => isExponent exponent
    | _ => false
  decimal || ["inf", "infinity", "nan"].any (Text.sameFolded (String.ofList text))

/-- A pattern is a number or a regular expression; only numbers with a plus sign are not both. -/
def isValid (text : List Char) : Bool :=
  match text with
  | '+' :: rest => isUnsigned rest
  | _ => isExpression text

end CallJournal.Output.Pattern
