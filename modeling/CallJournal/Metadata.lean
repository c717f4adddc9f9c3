import CallJournal.Text.Ascii

/-! Call metadata: octets under lower-case keys. Texts beyond ASCII can be set, but not read. -/

namespace CallJournal

/-- A metadata value. -/
abbrev Octets := List UInt8

/-- The metadata of a call, in the order in which it was added. It may have any number of keys. -/
structure Metadata where
  entries : List (String × Octets)
  deriving DecidableEq, Repr

def octetsOf (text : String) : Octets := text.toUTF8.data.toList

/-- The text that some octets encode. -/
def textOf? (octets : Octets) : Option String := String.fromUTF8? ⟨octets.toArray⟩

theorem octetsOf_ofList (chars : List Char) :
    octetsOf (String.ofList chars) = chars.flatMap String.utf8EncodeChar := by
  simp [octetsOf, List.utf8Encode]

theorem octetsOf_inj {left right : String} : octetsOf left = octetsOf right ↔ left = right := by
  constructor
  · intro same
    have encoded : left.toUTF8 = right.toUTF8 := ByteArray.ext (Array.toList_inj.mp same)
    exact String.toByteArray_inj.mp encoded
  · rintro rfl
    rfl

theorem textOf?_octetsOf (text : String) : textOf? (octetsOf text) = some text :=
  dif_pos text.isValidUTF8

namespace Metadata

def empty : Metadata := ⟨[]⟩

/-- Adds a value behind those that its key has. -/
def append (metadata : Metadata) (key : String) (value : Octets) : Metadata :=
  ⟨metadata.entries ++ [(Text.lowered key, value)]⟩

def values (metadata : Metadata) (key : String) : List Octets :=
  metadata.entries.filterMap fun entry => if entry.1 = key then some entry.2 else none

/-- Letters, digits and the marks that keys may hold. -/
def isKeyChar (char : Char) : Bool :=
  char.isAlphanum || "!#$%&'*+-.^_|~\x60".toList.contains char

/-- Keys with this ending belong to values that are no text. -/
def binaryEnding : List Char := ['-', 'b', 'i', 'n']

def maxKeyLength : Nat := 65535

/-- The stored form of a key. -/
def storedKey? (key : String) : Option String :=
  if key.toList.isEmpty || maxKeyLength < key.toList.length || !key.toList.all isKeyChar then none
  else some (Text.lowered key)

/-- The stored form of a key under which texts can be kept. -/
def textKey? (key : String) : Option String :=
  (storedKey? key).filter fun folded => !binaryEnding.isSuffixOf folded.toList

def has (metadata : Metadata) (key : String) : Bool :=
  (storedKey? key).any fun folded => !(metadata.values folded).isEmpty

/-- The first value of a key; a key that cannot hold text has none. -/
def first? (metadata : Metadata) (key : String) : Option Octets :=
  (textKey? key).bind fun folded => (metadata.values folded).head?

/-- Whether an octet is printable ASCII or a tab. -/
def isReadable (octet : UInt8) : Bool := (0x20 ≤ octet && octet ≤ 0x7e) || octet == 0x09

/-- The text of a value, if all of it is readable. -/
def readable? (value : Octets) : Option String :=
  if value.all isReadable then
    some (String.ofList (value.map fun octet => Char.ofNat octet.toNat))
  else none

/-- The first value of a key as text; an unreadable first value hides later ones. -/
def text? (metadata : Metadata) (key : String) : Option String :=
  (metadata.first? key).bind readable?

/-- What a gateway puts in front of the keys of headers it forwards. -/
def forwardedMark : String := "grpcgateway-"

/-- The text of a header that a gateway may have forwarded: the plain key wins over the marked one
whenever its first value is readable. -/
def forwarded? (metadata : Metadata) (key : String) : Option String :=
  let folded := Text.lowered key
  (metadata.text? folded).or (metadata.text? (forwardedMark ++ folded))

/-- Whether a value may hold an octet: no control character but the tab. -/
def isSettable (octet : UInt8) : Bool :=
  octet == 0x09 || (0x20 ≤ octet && octet ≤ 0x7e) || 0x80 ≤ octet

/-- Why metadata was left as it was. -/
inductive Refusal where
  | key (key : String)
  | value (value : String)
  deriving DecidableEq, Repr

/-- Replaces all values of a stored key by one. -/
def replace (metadata : Metadata) (key : String) (value : Octets) : Metadata :=
  ⟨metadata.entries.filter (fun entry => entry.1 != key) ++ [(key, value)]⟩

/-- Replaces all values of a key by a text; the key is judged before the text. -/
def set (metadata : Metadata) (key value : String) : Except Refusal Metadata :=
  match textKey? key with
  | none => .error (.key key)
  | some folded =>
    if (octetsOf value).all isSettable then .ok (metadata.replace folded (octetsOf value))
    else .error (.value value)

/-- Entries in ascending order of their keys; those of one key keep their order. -/
def sorted (metadata : Metadata) : List (String × Octets) :=
  metadata.entries.mergeSort fun left right => !decide (right.1 < left.1)

/-- A readable octet is the whole encoding of its character. -/
private theorem utf8EncodeChar_of_isReadable {octet : UInt8} (readable : isReadable octet = true) :
    String.utf8EncodeChar (Char.ofNat octet.toNat) = [octet] := by
  have ascii : octet.toNat < 128 := by
    simp only [isReadable, Bool.or_eq_true, Bool.and_eq_true, decide_eq_true_eq, beq_iff_eq,
      UInt8.le_iff_toNat_le] at readable
    rcases readable with ⟨-, below⟩ | rfl
    · exact Nat.lt_succ_of_le (Nat.le_trans below (by decide))
    · decide
  have encoded : ∀ number < 128,
      String.utf8EncodeChar (Char.ofNat number) = [UInt8.ofNat number] := by
    decide
  rw [encoded octet.toNat ascii, UInt8.ofNat_toNat]

private theorem octetsOf_map_of_readable {value : Octets} (readable : value.all isReadable = true) :
    octetsOf (String.ofList (value.map fun octet => Char.ofNat octet.toNat)) = value := by
  rw [octetsOf_ofList, List.flatMap_map]
  induction value with
  | nil => rfl
  | cons octet rest ih =>
    obtain ⟨head, tail⟩ := Bool.and_eq_true_iff.mp (List.all_cons ▸ readable)
    rw [List.flatMap_cons, utf8EncodeChar_of_isReadable head, ih tail]
    rfl

/-- Reading a value and taking the octets of a text undo each other on readable values. -/
theorem readable?_eq_some_iff {value : Octets} {text : String} :
    readable? value = some text ↔ octetsOf text = value ∧ value.all isReadable = true := by
  unfold readable?
  split
  · rename_i readable
    have encoded := octetsOf_map_of_readable readable
    constructor
    · intro read
      exact ⟨Option.some.inj read ▸ encoded, readable⟩
    · rintro ⟨same, -⟩
      exact congrArg some (octetsOf_inj.mp (encoded.trans same.symm))
  · rename_i unreadable
    simp [unreadable]

/-- A text is readable if the octets of each of its characters are. -/
theorem readable_of_chars {text : String}
    (each : ∀ char ∈ text.toList, (String.utf8EncodeChar char).all isReadable = true) :
    (octetsOf text).all isReadable = true := by
  rw [← String.ofList_toList (s := text), octetsOf_ofList, List.all_flatMap]
  exact List.all_eq_true.mpr each

theorem first?_eq_head? (metadata : Metadata) {key folded : String}
    (valid : textKey? key = some folded) :
    metadata.first? key = (metadata.values folded).head? := by
  rw [first?, valid, Option.bind_some]

theorem text?_eq_some_iff {metadata : Metadata} {key text : String} :
    metadata.text? key = some text ↔
      metadata.first? key = some (octetsOf text) ∧ (octetsOf text).all isReadable = true := by
  constructor
  · intro found
    obtain ⟨value, first, read⟩ := Option.bind_eq_some_iff.mp found
    obtain ⟨rfl, readable⟩ := readable?_eq_some_iff.mp read
    exact ⟨first, readable⟩
  · rintro ⟨first, readable⟩
    exact Option.bind_eq_some_iff.mpr ⟨_, first, readable?_eq_some_iff.mpr ⟨rfl, readable⟩⟩

theorem text?_of_values {metadata : Metadata} {key folded text : String} {others : List Octets}
    (valid : textKey? key = some folded)
    (values : metadata.values folded = octetsOf text :: others)
    (readable : (octetsOf text).all isReadable = true) : metadata.text? key = some text := by
  apply text?_eq_some_iff.mpr
  rw [first?_eq_head? _ valid, values]
  exact ⟨rfl, readable⟩

theorem readable_of_forwarded? {metadata : Metadata} {key text : String}
    (found : metadata.forwarded? key = some text) : (octetsOf text).all isReadable = true := by
  rcases Option.or_eq_some_iff.mp found with plain | ⟨-, marked⟩
  · exact (text?_eq_some_iff.mp plain).2
  · exact (text?_eq_some_iff.mp marked).2

theorem isReadable_iff {octet : UInt8} :
    isReadable octet = true ↔ octet = 0x09 ∨ 0x20 ≤ octet ∧ octet ≤ 0x7e := by
  simp [isReadable, or_comm]

theorem all_isReadable_iff {octets : Octets} : octets.all isReadable = true ↔
    ∀ octet ∈ octets, octet = 0x09 ∨ 0x20 ≤ octet ∧ octet ≤ 0x7e := by
  simp only [List.all_eq_true, isReadable_iff]

theorem isSettable_iff {octet : UInt8} :
    isSettable octet = true ↔ octet = 0x09 ∨ 0x20 ≤ octet ∧ octet ≤ 0x7e ∨ 0x80 ≤ octet := by
  simp [isSettable, or_assoc]

theorem isSettable_of_isReadable {octet : UInt8} (readable : isReadable octet = true) :
    isSettable octet = true := by
  rcases Bool.or_eq_true_iff.mp readable with printable | tab
  · simp [isSettable, Bool.and_eq_true_iff.mp printable]
  · simp [isSettable, tab]

theorem set_of_settable (metadata : Metadata) {key folded value : String}
    (valid : textKey? key = some folded) (settable : (octetsOf value).all isSettable = true) :
    metadata.set key value = .ok (metadata.replace folded (octetsOf value)) := by
  simp only [set, valid, settable, if_true]

theorem set_of_unsettable (metadata : Metadata) {key folded value : String}
    (valid : textKey? key = some folded) (unsettable : (octetsOf value).all isSettable = false) :
    metadata.set key value = .error (.value value) := by
  simp only [set, valid, unsettable, Bool.false_eq_true, if_false]

theorem values_replace_same (metadata : Metadata) (key : String) (value : Octets) :
    (metadata.replace key value).values key = [value] := by
  have gone : (metadata.entries.filter fun entry => entry.1 != key).filterMap
      (fun entry => if entry.1 = key then some entry.2 else none) = [] := by
    rw [List.filterMap_eq_nil_iff]
    intro entry member
    have differs : entry.1 ≠ key := by simpa using (List.mem_filter.mp member).2
    simp [differs]
  simp [replace, values, gone]

theorem values_replace_other (metadata : Metadata) {key other : String} (value : Octets)
    (differs : other ≠ key) : (metadata.replace key value).values other =
      metadata.values other := by
  simp only [replace, values, List.filterMap_append, List.filterMap_cons, List.filterMap_nil]
  rw [if_neg (Ne.symm differs), List.append_nil, List.filterMap_filter]
  congr 1
  funext entry
  by_cases same : entry.1 = other
  · simp [same, differs]
  · simp [same]

end Metadata

end CallJournal
