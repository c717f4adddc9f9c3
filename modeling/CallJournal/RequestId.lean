import CallJournal.Metadata

namespace CallJournal

structure RequestId where
  text : String
  deriving DecidableEq, Repr

namespace RequestId

def header : String := "x-request-id"

def field : String := "request_id"

def isEmpty (id : RequestId) : Bool := id.text.isEmpty

/-- Whether an ID can be sent. -/
def isSettable (id : RequestId) : Bool := (octetsOf id.text).all Metadata.isSettable

/-- Whether an ID that is sent can be read where it arrives. -/
def isReadable (id : RequestId) : Bool := (octetsOf id.text).all Metadata.isReadable

/-- A request ID that holds something. -/
def ofText? (text : String) : Option RequestId := if text.isEmpty then none else some ⟨text⟩

/-- The request ID of received metadata: the first value, unless it is unreadable or empty. -/
def ofMetadata? (metadata : Metadata) : Option RequestId :=
  (metadata.text? header).bind ofText?

/-- The hexadecimal digits of a number, from the place `high` down; the lowest place is 0. -/
def hexDigits (seed : Nat) (high count : Nat) : List Char :=
  (List.range count).map fun index => Nat.digitChar ((seed >>> (4 * (high - index))) % 16)

/-- A fresh ID from 128 random bits: a UUID of version 4, whose version and variant digits replace
the random ones. -/
def ofSeed (seed : Nat) : RequestId :=
  ⟨String.ofList <|
    hexDigits seed 31 8 ++ '-' :: hexDigits seed 23 4 ++ '-' :: '4' :: hexDigits seed 18 3 ++
      '-' :: Nat.digitChar (8 + (seed >>> 60) % 4) :: hexDigits seed 14 3 ++
      '-' :: hexDigits seed 11 12⟩

/-- The header can hold texts, and its key is stored as it is. -/
theorem textKey?_header : Metadata.textKey? header = some header := by decide

theorem isSettable_of_isReadable {id : RequestId} (readable : id.isReadable = true) :
    id.isSettable = true := by
  apply List.all_eq_true.mpr
  intro octet member
  exact Metadata.isSettable_of_isReadable (List.all_eq_true.mp readable octet member)

theorem ofText?_eq_some_iff {text : String} {id : RequestId} :
    ofText? text = some id ↔ id.text = text ∧ id.isEmpty = false := by
  unfold ofText?
  split
  · rename_i empty
    constructor
    · intro impossible
      cases impossible
    · rintro ⟨rfl, filled⟩
      exact Bool.noConfusion (empty.symm.trans filled)
  · rename_i filled
    constructor
    · rintro ⟨⟩
      exact ⟨rfl, Bool.eq_false_iff.mpr filled⟩
    · rintro ⟨rfl, -⟩
      rfl

/-- The digits of a number below sixteen are readable where they are sent. -/
private theorem readable_digitChar {number : Nat} (small : number < 16) :
    (String.utf8EncodeChar (Nat.digitChar number)).all Metadata.isReadable = true := by
  have every : ∀ number < 16,
      (String.utf8EncodeChar (Nat.digitChar number)).all Metadata.isReadable = true := by
    decide
  exact every number small

private theorem readable_hexDigits (seed high count : Nat) :
    ((hexDigits seed high count).flatMap String.utf8EncodeChar).all Metadata.isReadable = true := by
  rw [hexDigits, List.flatMap_map, List.all_flatMap, List.all_eq_true]
  intro index _
  exact readable_digitChar (Nat.mod_lt _ (by decide))

/-- A fresh ID can be sent, and be read where it arrives. -/
theorem isReadable_ofSeed (seed : Nat) : (ofSeed seed).isReadable = true := by
  have variant : 8 + (seed >>> 60) % 4 < 16 := by omega
  have hyphen : (String.utf8EncodeChar '-').all Metadata.isReadable = true := by decide
  have version : (String.utf8EncodeChar '4').all Metadata.isReadable = true := by decide
  simp only [isReadable, ofSeed, octetsOf_ofList, List.flatMap_append, List.flatMap_cons,
    List.all_append, readable_hexDigits, readable_digitChar variant, hyphen, version,
    Bool.and_self]

theorem isEmpty_ofSeed (seed : Nat) : (ofSeed seed).isEmpty = false := by
  simp [ofSeed, isEmpty]

end RequestId

end CallJournal
