import CallJournal.Json.Fields
import CallJournal.Json.Skeleton

namespace CallJournal

namespace Piece

def isHighHalf (code : Nat) : Bool := 0xd800 ≤ code && code < 0xdc00

def isLowHalf (code : Nat) : Bool := 0xdc00 ≤ code && code < 0xe000

/-- Joins the pieces of a string. The two halves of a surrogate pair must stand side by side. -/
def assemble? {α : Type _} (plain spelled : Char → α) : List Piece → Option (List α)
  | [] => some []
  | .char value :: rest => (assemble? plain spelled rest).map (plain value :: ·)
  | .unit high :: .unit low :: rest =>
    if isHighHalf high then
      if isLowHalf low then
        (assemble? plain spelled rest).map
          (spelled (Char.ofNat (0x10000 + (high - 0xd800) * 0x400 + (low - 0xdc00))) :: ·)
      else none
    else if isLowHalf high then none
    else (assemble? plain spelled (.unit low :: rest)).map (spelled (Char.ofNat high) :: ·)
  | .unit code :: rest =>
    if isHighHalf code || isLowHalf code then none
    else (assemble? plain spelled rest).map (spelled (Char.ofNat code) :: ·)

def text? (pieces : List Piece) : Option String :=
  (assemble? id id pieces).map String.ofList

end Piece

namespace Numeral

/-- Takes digits into a significand as long as it stays below 2^64; gives the rest back. -/
def absorb (significand : Nat) : List Nat → Nat × List Nat
  | [] => (significand, [])
  | digit :: rest =>
    if significand * 10 + digit < 0x10000000000000000 then absorb (significand * 10 + digit) rest
    else (significand, digit :: rest)

/-- A float's sign is applied to its rounded magnitude. -/
def float? (negative : Bool) (magnitude : Option Real.Double) : Option Number := do
  let value ← magnitude
  let signed := if negative then value.negate else value
  if finite : signed.isFinite = true then some (.float signed finite) else none

/-- Whole numerals that fit 64 bits are kept exactly. Of all others, and negative zero, the
leading digits that fit are taken and the rest count only as places. -/
def number? (numeral : Numeral) : Option Number :=
  let (leading, left) := absorb 0 numeral.whole
  if numeral.isWhole && left.isEmpty then
    if positive : numeral.negative = false ∧ leading < 0x10000000000000000 then
      some (.whole ⟨leading, by omega⟩)
    else if fits : 0 < leading ∧ leading ≤ 0x8000000000000000 then
      some (.whole ⟨-leading, by omega⟩)
    else float? numeral.negative (some (.ofNat leading))
  else
    let (significand, dropped) := absorb leading numeral.fraction
    let places := (left.length : Int) - (numeral.fraction.length - dropped.length)
    float? numeral.negative (Real.Double.ofDecimal? significand (places + numeral.exponent))

end Numeral

namespace Skeleton

mutual

/-- The value of a skeleton whose strings are read by `read`; of members with one key the last
counts. -/
def valueBy? (read : List Piece → Option String) : Skeleton → Option Json
  | null => some .null
  | bool value => some (.bool value)
  | number numeral => numeral.number?.map .number
  | string pieces => (read pieces).map .string
  | array items => (itemValues? read items).map .array
  | object members => (memberValues? read members).map fun found => .object (ascend found)

def itemValues? (read : List Piece → Option String) : List Skeleton → Option (List Json)
  | [] => some []
  | item :: rest => do
    let first ← valueBy? read item
    let others ← itemValues? read rest
    return first :: others

def memberValues? (read : List Piece → Option String) :
    List (List Piece × Skeleton) → Option (List (String × Json))
  | [] => some []
  | (pieces, item) :: rest => do
    let key ← read pieces
    let first ← valueBy? read item
    let others ← memberValues? read rest
    return (key, first) :: others

end

mutual

theorem ordered_valueBy? {read : List Piece → Option String} : {skeleton : Skeleton} →
    {found : Json} → skeleton.valueBy? read = some found → found.Ordered
  | null, _, same => by
    cases same
    exact .null
  | bool value, _, same => by
    cases same
    exact .bool value
  | number numeral, _, same => by
    rw [valueBy?] at same
    obtain ⟨value, -, rfl⟩ := Option.map_eq_some_iff.mp same
    exact .number value
  | string pieces, _, same => by
    rw [valueBy?] at same
    obtain ⟨value, -, rfl⟩ := Option.map_eq_some_iff.mp same
    exact .string value
  | array items, _, same => by
    rw [valueBy?] at same
    obtain ⟨values, each, rfl⟩ := Option.map_eq_some_iff.mp same
    exact .array (ordered_itemValues? each)
  | object members, _, same => by
    rw [valueBy?] at same
    obtain ⟨values, each, rfl⟩ := Option.map_eq_some_iff.mp same
    exact .object (ascending_ascend values) fun member among =>
      ordered_memberValues? each member (mem_ascend among)

theorem ordered_itemValues? {read : List Piece → Option String} : {items : List Skeleton} →
    {found : List Json} → itemValues? read items = some found → ∀ item ∈ found, item.Ordered
  | [], _, same => by
    cases same
    exact fun _ among => nomatch among
  | item :: rest, _, same => by
    rw [itemValues?] at same
    obtain ⟨first, head, tail⟩ := Option.bind_eq_some_iff.mp same
    obtain ⟨others, later, whole⟩ := Option.bind_eq_some_iff.mp tail
    cases whole
    exact List.forall_mem_cons.mpr ⟨ordered_valueBy? head, ordered_itemValues? later⟩

theorem ordered_memberValues? {read : List Piece → Option String} :
    {members : List (List Piece × Skeleton)} → {found : List (String × Json)} →
    memberValues? read members = some found → ∀ member ∈ found, member.2.Ordered
  | [], _, same => by
    cases same
    exact fun _ among => nomatch among
  | (pieces, item) :: rest, _, same => by
    rw [memberValues?] at same
    obtain ⟨key, -, named⟩ := Option.bind_eq_some_iff.mp same
    obtain ⟨first, head, tail⟩ := Option.bind_eq_some_iff.mp named
    obtain ⟨others, later, whole⟩ := Option.bind_eq_some_iff.mp tail
    cases whole
    exact List.forall_mem_cons.mpr ⟨ordered_valueBy? head, ordered_memberValues? later⟩

end

/-- Deeper texts are refused. -/
def maxDepth : Nat := 127

/-- The value of a skeleton that is not nested too deeply. -/
def value? (skeleton : Skeleton) : Option Json :=
  if skeleton.depth ≤ maxDepth then skeleton.valueBy? Piece.text? else none

end Skeleton

def Json.read? (text : String) : Option Json :=
  (Skeleton.read? text.toList).bind Skeleton.value?

end CallJournal
