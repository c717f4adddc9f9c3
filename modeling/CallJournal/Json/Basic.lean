import CallJournal.Json.Members
import CallJournal.Real.Double

namespace CallJournal

/-- A whole number that fits 64 bits, signed or unsigned. -/
structure Whole where
  value : Int
  inRange : -0x8000000000000000 ≤ value ∧ value < 0x10000000000000000
  deriving DecidableEq

inductive Number where
  | whole (value : Whole)
  | float (value : Real.Double) (finite : value.isFinite = true)
  deriving DecidableEq

inductive Json where
  | null
  | bool (value : Bool)
  | number (value : Number)
  | string (value : String)
  | array (items : List Json)
  | object (members : List (String × Json))

namespace Json

mutual

/-- The value with the members of every object in it in ascending order. -/
def arranged : Json → Json
  | null => null
  | bool value => bool value
  | number value => number value
  | string value => string value
  | array items => array (arrangedItems items)
  | object members => object (ascend (arrangedMembers members))

def arrangedItems : List Json → List Json
  | [] => []
  | item :: rest => arranged item :: arrangedItems rest

def arrangedMembers : List (String × Json) → List (String × Json)
  | [] => []
  | (key, value) :: rest => (key, arranged value) :: arrangedMembers rest

end

/-- Every object in the value has its keys in ascending order. -/
inductive Ordered : Json → Prop where
  | null : Ordered null
  | bool (value : Bool) : Ordered (bool value)
  | number (value : Number) : Ordered (number value)
  | string (value : String) : Ordered (string value)
  | array {items : List Json} (each : ∀ item ∈ items, Ordered item) : Ordered (array items)
  | object {members : List (String × Json)} (ascending : Ascending members)
      (each : ∀ member ∈ members, Ordered member.2) : Ordered (object members)

mutual

/-- How many arrays and objects are nested in the value, itself included. -/
def depth : Json → Nat
  | array items => depthItems items + 1
  | object members => depthMembers members + 1
  | _ => 0

def depthItems : List Json → Nat
  | [] => 0
  | item :: rest => max (depth item) (depthItems rest)

def depthMembers : List (String × Json) → Nat
  | [] => 0
  | (_, value) :: rest => max (depth value) (depthMembers rest)

end

/-- A whole number that is known to fit 64 bits. -/
def ofNat (value : Nat) (small : value < 0x10000000000000000 := by decide) : Json :=
  number (.whole ⟨value, by omega⟩)

/-- A double; one that is not finite has no number in JSON and becomes null. -/
def ofDouble (value : Real.Double) : Json :=
  if finite : value.isFinite = true then number (.float value finite) else null

mutual

theorem ordered_arranged : (value : Json) → Ordered (arranged value)
  | null => by rw [arranged]; exact .null
  | bool value => by rw [arranged]; exact .bool value
  | number value => by rw [arranged]; exact .number value
  | string value => by rw [arranged]; exact .string value
  | array items => by rw [arranged]; exact .array (ordered_arrangedItems items)
  | object members => by
    rw [arranged]
    exact .object (ascending_ascend _) fun member found =>
      ordered_arrangedMembers members member (mem_ascend found)

theorem ordered_arrangedItems :
    (items : List Json) → ∀ item ∈ arrangedItems items, Ordered item
  | [] => by simp [arrangedItems]
  | first :: rest => by
    rw [arrangedItems]
    intro item found
    rcases List.mem_cons.mp found with rfl | later
    · exact ordered_arranged first
    · exact ordered_arrangedItems rest item later

theorem ordered_arrangedMembers :
    (members : List (String × Json)) → ∀ member ∈ arrangedMembers members, Ordered member.2
  | [] => by simp [arrangedMembers]
  | (key, value) :: rest => by
    rw [arrangedMembers]
    intro member found
    rcases List.mem_cons.mp found with rfl | later
    · exact ordered_arranged value
    · exact ordered_arrangedMembers rest member later

end

mutual

theorem arranged_eq_self : {value : Json} → Ordered value → arranged value = value
  | null, _ => rfl
  | bool _, _ => rfl
  | number _, _ => rfl
  | string _, _ => rfl
  | array items, ordered => by
    cases ordered with
    | array each => rw [arranged, arrangedItems_eq_self each]
  | object members, ordered => by
    cases ordered with
    | object ascending each =>
      rw [arranged, arrangedMembers_eq_self each, ascend_eq_self ascending]

theorem arrangedItems_eq_self :
    {items : List Json} → (∀ item ∈ items, Ordered item) → arrangedItems items = items
  | [], _ => rfl
  | first :: rest, each => by
    rw [arrangedItems, arranged_eq_self (each first List.mem_cons_self),
      arrangedItems_eq_self fun item found => each item (.tail _ found)]

theorem arrangedMembers_eq_self : {members : List (String × Json)} →
    (∀ member ∈ members, Ordered member.2) → arrangedMembers members = members
  | [], _ => rfl
  | (key, value) :: rest, each => by
    rw [arrangedMembers, arranged_eq_self (each (key, value) List.mem_cons_self),
      arrangedMembers_eq_self fun member found => each member (.tail _ found)]

end

end Json

end CallJournal
