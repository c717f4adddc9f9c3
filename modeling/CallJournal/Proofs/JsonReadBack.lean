import CallJournal.Proofs.JsonString
import CallJournal.Proofs.NumberText

/-! The reader takes exactly the text of a value, whatever follows it. -/

namespace CallJournal

namespace Json

mutual

/-- The structure of the text of a value. -/
def skeleton : Json → Skeleton
  | null => .null
  | bool value => .bool value
  | number value => .number value.numeral
  | string value => .string (value.toList.map pieceOf)
  | array items => .array (itemSkeletons items)
  | object members => .object (memberSkeletons members)

def itemSkeletons : List Json → List Skeleton
  | [] => []
  | item :: rest => skeleton item :: itemSkeletons rest

def memberSkeletons : List (String × Json) → List (List Piece × Skeleton)
  | [] => []
  | (key, value) :: rest => (key.toList.map pieceOf, skeleton value) :: memberSkeletons rest

end

/-- Every float in the value is read back as it is written. -/
inductive Faithful : Json → Prop where
  | null : Faithful null
  | bool (value : Bool) : Faithful (bool value)
  | whole (value : Whole) : Faithful (number (.whole value))
  | float {value : Real.Double} {finite : value.isFinite = true}
      (back : (Number.float value finite).ReadsBack) : Faithful (number (.float value finite))
  | string (value : String) : Faithful (string value)
  | array {items : List Json} (each : ∀ item ∈ items, Faithful item) : Faithful (array items)
  | object {members : List (String × Json)} (each : ∀ member ∈ members, Faithful member.2) :
      Faithful (object members)

theorem Faithful.readsBack {value : Number} (faithful : (Json.number value).Faithful) :
    value.ReadsBack := by
  cases faithful with
  | whole value => exact Number.readsBack_whole value
  | float back => exact back

theorem Faithful.item {items : List Json} (faithful : (Json.array items).Faithful) :
    ∀ item ∈ items, item.Faithful := by
  cases faithful with
  | array each => exact each

theorem Faithful.member {members : List (String × Json)}
    (faithful : (Json.object members).Faithful) : ∀ member ∈ members, member.2.Faithful := by
  cases faithful with
  | object each => exact each

attribute [simp] Faithful.null Faithful.bool Faithful.whole Faithful.string

@[simp] theorem faithful_ofNat (value : Nat) (small : value < 0x10000000000000000) :
    (ofNat value small).Faithful :=
  .whole _

@[simp] theorem faithful_array_iff {items : List Json} :
    (array items).Faithful ↔ ∀ item ∈ items, item.Faithful :=
  ⟨Faithful.item, .array⟩

@[simp] theorem faithful_object_iff {members : List (String × Json)} :
    (object members).Faithful ↔ ∀ member ∈ members, member.2.Faithful :=
  ⟨Faithful.member, .object⟩

mutual

theorem depth_skeleton : (value : Json) → value.skeleton.depth = value.depth
  | null => rfl
  | bool _ => rfl
  | number _ => rfl
  | string _ => rfl
  | array items => by rw [skeleton, Skeleton.depth, depth, depth_itemSkeletons items]
  | object members => by rw [skeleton, Skeleton.depth, depth, depth_memberSkeletons members]

theorem depth_itemSkeletons :
    (items : List Json) → Skeleton.depthItems (itemSkeletons items) = depthItems items
  | [] => rfl
  | item :: rest => by
    rw [itemSkeletons, Skeleton.depthItems, depthItems, depth_skeleton item,
      depth_itemSkeletons rest]

theorem depth_memberSkeletons : (members : List (String × Json)) →
    Skeleton.depthMembers (memberSkeletons members) = depthMembers members
  | [] => rfl
  | (_, value) :: rest => by
    rw [memberSkeletons, Skeleton.depthMembers, depthMembers, depth_skeleton value,
      depth_memberSkeletons rest]

end

mutual

theorem valueBy?_skeleton : {value : Json} → value.Faithful →
    value.skeleton.valueBy? Piece.text? = some value.arranged
  | null, _ => rfl
  | bool _, _ => rfl
  | number value, faithful => by
    rw [skeleton, Skeleton.valueBy?, Number.number?_numeral faithful.readsBack]
    rfl
  | string value, _ => by
    rw [skeleton, Skeleton.valueBy?, Piece.text?_pieceOf]
    rfl
  | array items, faithful => by
    rw [skeleton, Skeleton.valueBy?, itemValues?_itemSkeletons faithful.item]
    rfl
  | object members, faithful => by
    rw [skeleton, Skeleton.valueBy?, memberValues?_memberSkeletons faithful.member]
    rfl

theorem itemValues?_itemSkeletons : {items : List Json} → (∀ item ∈ items, item.Faithful) →
    Skeleton.itemValues? Piece.text? (itemSkeletons items) = some (arrangedItems items)
  | [], _ => rfl
  | item :: rest, each => by
    rw [itemSkeletons, Skeleton.itemValues?, valueBy?_skeleton (each item List.mem_cons_self),
      itemValues?_itemSkeletons fun other found => each other (.tail _ found)]
    rfl

theorem memberValues?_memberSkeletons : {members : List (String × Json)} →
    (∀ member ∈ members, member.2.Faithful) →
    Skeleton.memberValues? Piece.text? (memberSkeletons members) = some (arrangedMembers members)
  | [], _ => rfl
  | (key, value) :: rest, each => by
    rw [memberSkeletons, Skeleton.memberValues?, Piece.text?_pieceOf,
      valueBy?_skeleton (each (key, value) List.mem_cons_self),
      memberValues?_memberSkeletons fun other found => each other (.tail _ found)]
    rfl

end

/-- A text that a value begins: neither a space nor the end of an array comes first. -/
def Opens (text : List Char) : Prop :=
  ∃ char rest, text = char :: rest ∧ Skeleton.isSpace char = false ∧ char ≠ ']'

theorem Opens.append {text : List Char} (opens : Opens text) (rest : List Char) :
    Opens (text ++ rest) := by
  obtain ⟨char, others, rfl, visible, differs⟩ := opens
  exact ⟨char, others ++ rest, rfl, visible, differs⟩

theorem Opens.skipSpace {text : List Char} (opens : Opens text) :
    Skeleton.skipSpace text = text := by
  obtain ⟨char, others, rfl, visible, -⟩ := opens
  exact Skeleton.skipSpace_of_visible others visible

theorem opens_chars (value : Json) : Opens value.chars := by
  cases value with
  | null => exact ⟨_, _, rfl, rfl, by decide⟩
  | bool value => cases value <;> exact ⟨_, _, rfl, rfl, by decide⟩
  | number value =>
    obtain ⟨char, rest, whole, number⟩ := value.chars_eq_cons
    have visible : Skeleton.isSpace char = false := Skeleton.isSpace_of_isNumberChar number
    refine ⟨char, rest, whole, visible, ?_⟩
    rintro rfl
    cases number
  | string value => exact ⟨_, _, rfl, rfl, by decide⟩
  | array items => cases items <;> exact ⟨_, _, rfl, rfl, by decide⟩
  | object members => cases members <;> exact ⟨_, _, rfl, rfl, by decide⟩

theorem Opens.length_pos {text : List Char} (opens : Opens text) : 0 < text.length := by
  obtain ⟨char, others, rfl, -, -⟩ := opens
  exact Nat.succ_pos _

theorem Opens.value_array {text : List Char} (opens : Opens text) (fuel : Nat) :
    Skeleton.value (fuel + 1) ('[' :: text) =
      (Skeleton.items fuel text).map fun (found, after) => (.array found, after) := by
  have kept := opens.skipSpace
  obtain ⟨char, others, rfl, -, differs⟩ := opens
  have bracket : Skeleton.skipSpace ('[' :: char :: others) = '[' :: char :: others := rfl
  rw [Skeleton.value]
  simp only [bracket, kept]
  split
  · rename_i same
    exact absurd (List.cons.inj same).1 differs
  · rfl

theorem stringLiteral_append (text : String) (rest : List Char) :
    stringLiteral text ++ rest = '"' :: (text.toList.flatMap escapedChar ++ '"' :: rest) := by
  simp [stringLiteral]

theorem value_object (fuel : Nat) (key : String) (rest : List Char) :
    Skeleton.value (fuel + 1) ('\x7b' :: (stringLiteral key ++ rest)) =
      (Skeleton.members fuel (stringLiteral key ++ rest)).map fun (found, after) =>
        (.object found, after) := by
  rw [stringLiteral_append]
  rfl

section

variable {fuel : Nat} {rest more : List Char} {first : Skeleton} (key : String)

theorem members_last (head : Skeleton.value fuel rest = some (first, '\x7d' :: more)) :
    Skeleton.members (fuel + 1) (stringLiteral key ++ ':' :: rest) =
      some ([(key.toList.map pieceOf, first)], more) := by
  have quote (text : List Char) : Skeleton.skipSpace ('"' :: text) = '"' :: text := rfl
  have colon (text : List Char) : Skeleton.skipSpace (':' :: text) = ':' :: text := rfl
  have brace (text : List Char) : Skeleton.skipSpace ('\x7d' :: text) = '\x7d' :: text := rfl
  rw [stringLiteral_append, Skeleton.members]
  simp only [quote, Skeleton.stringBody_escaped, colon, head, brace]

theorem members_more (head : Skeleton.value fuel rest = some (first, ',' :: more)) :
    Skeleton.members (fuel + 1) (stringLiteral key ++ ':' :: rest) =
      (Skeleton.members fuel more).map fun (others, after) =>
        ((key.toList.map pieceOf, first) :: others, after) := by
  have quote (text : List Char) : Skeleton.skipSpace ('"' :: text) = '"' :: text := rfl
  have colon (text : List Char) : Skeleton.skipSpace (':' :: text) = ':' :: text := rfl
  have comma (text : List Char) : Skeleton.skipSpace (',' :: text) = ',' :: text := rfl
  rw [stringLiteral_append, Skeleton.members]
  simp only [quote, Skeleton.stringBody_escaped, colon, head, comma]

end

theorem endsNumber_itemChars (items : List Json) (rest : List Char) :
    Skeleton.EndsNumber (itemChars items ++ rest) := by
  cases items <;> exact .cons _ (by decide)

theorem endsNumber_memberChars (members : List (String × Json)) (rest : List Char) :
    Skeleton.EndsNumber (memberChars members ++ rest) := by
  cases members <;> exact .cons _ (by decide)

theorem length_itemChars_pos (items : List Json) : 0 < (itemChars items).length := by
  cases items <;> exact Nat.succ_pos _

theorem length_memberChars_pos (members : List (String × Json)) :
    0 < (memberChars members).length := by
  cases members <;> exact Nat.succ_pos _

mutual

/-- The text of a value is read to its end, whatever follows that ends it. -/
theorem value_chars : (value : Json) → (fuel : Nat) → (rest : List Char) →
    value.chars.length ≤ fuel + 1 → Skeleton.EndsNumber rest →
    Skeleton.value (fuel + 1) (value.chars ++ rest) = some (value.skeleton, rest)
  | null, _, _, _, _ => rfl
  | bool true, _, _, _, _ => rfl
  | bool false, _, _, _, _ => rfl
  | number value, fuel, rest, _, ends => by
    rw [skeleton, chars]
    exact value.value_chars fuel ends
  | string value, fuel, rest, _, _ => by
    rw [chars, stringLiteral_append, skeleton]
    show (Skeleton.stringBody _).map _ = _
    rw [Skeleton.stringBody_escaped]
    rfl
  | array [], _, _, _, _ => rfl
  | array (first :: others), fuel, rest, fueled, _ => by
    have opens := opens_chars first
    have filled := opens.length_pos
    have ended := length_itemChars_pos others
    simp only [chars, List.length_append, List.length_cons] at fueled
    obtain ⟨less, rfl⟩ : ∃ less, fuel = less + 2 := ⟨fuel - 2, by omega⟩
    have head := value_chars first less (itemChars others ++ rest) (by omega)
      (endsNumber_itemChars others rest)
    simp only [chars, List.cons_append, List.append_assoc]
    rw [(opens.append _).value_array, items_chars others less head (by omega)]
    rfl
  | object [], _, _, _, _ => rfl
  | object ((key, value) :: others), fuel, rest, fueled, _ => by
    have filled := (opens_chars value).length_pos
    have ended := length_memberChars_pos others
    simp only [chars, List.length_append, List.length_cons] at fueled
    obtain ⟨less, rfl⟩ : ∃ less, fuel = less + 2 := ⟨fuel - 2, by omega⟩
    have head := value_chars value less (memberChars others ++ rest) (by omega)
      (endsNumber_memberChars others rest)
    simp only [chars, List.cons_append, List.append_assoc]
    rw [value_object, members_chars others less key head (by omega)]
    rfl

theorem items_chars : (others : List Json) → (fuel : Nat) → {front rest : List Char} →
    {found : Skeleton} →
    Skeleton.value (fuel + 1) (front ++ (itemChars others ++ rest)) =
      some (found, itemChars others ++ rest) →
    (itemChars others).length ≤ fuel + 1 →
    Skeleton.items (fuel + 2) (front ++ (itemChars others ++ rest)) =
      some (found :: itemSkeletons others, rest)
  | [], fuel, front, rest, found, head, _ => by
    rw [Skeleton.items, head]
    rfl
  | second :: others, fuel, front, rest, found, head, fueled => by
    have filled := (opens_chars second).length_pos
    have ended := length_itemChars_pos others
    simp only [itemChars, List.length_append, List.length_cons] at fueled
    obtain ⟨less, rfl⟩ : ∃ less, fuel = less + 1 := ⟨fuel - 1, by omega⟩
    have next := value_chars second less (itemChars others ++ rest) (by omega)
      (endsNumber_itemChars others rest)
    have tail := items_chars others less next (by omega)
    rw [Skeleton.items, head]
    simp only [itemChars, List.cons_append, List.append_assoc]
    show (Skeleton.items (less + 2) _).map _ = _
    rw [tail]
    rfl

theorem members_chars : (others : List (String × Json)) → (fuel : Nat) → (key : String) →
    {front rest : List Char} → {found : Skeleton} →
    Skeleton.value (fuel + 1) (front ++ (memberChars others ++ rest)) =
      some (found, memberChars others ++ rest) →
    (memberChars others).length ≤ fuel + 1 →
    Skeleton.members (fuel + 2)
        (stringLiteral key ++ ':' :: (front ++ (memberChars others ++ rest))) =
      some ((key.toList.map pieceOf, found) :: memberSkeletons others, rest)
  | [], fuel, key, front, rest, found, head, _ => by
    exact members_last key head
  | (name, value) :: others, fuel, key, front, rest, found, head, fueled => by
    have filled := (opens_chars value).length_pos
    have ended := length_memberChars_pos others
    simp only [memberChars, List.length_append, List.length_cons] at fueled
    obtain ⟨less, rfl⟩ : ∃ less, fuel = less + 1 := ⟨fuel - 1, by omega⟩
    have next := value_chars value less (memberChars others ++ rest) (by omega)
      (endsNumber_memberChars others rest)
    have tail := members_chars others less name next (by omega)
    simp only [memberChars, List.cons_append, List.append_assoc] at head ⊢
    rw [members_more key head, tail]
    rfl

end

/-- The text of a value has the value's structure; spaces may follow. -/
theorem skeletonRead?_chars (value : Json) {spaces : List Char}
    (blank : spaces.all Skeleton.isSpace = true) :
    Skeleton.read? (value.chars ++ spaces) = some value.skeleton := by
  have skipped : Skeleton.skipSpace spaces = [] := by
    have dropped :=
      @List.dropWhile_append_of_pos _ Skeleton.isSpace _ [] (List.all_eq_true.mp blank)
    rwa [List.append_nil] at dropped
  have ends : Skeleton.EndsNumber spaces := fun char found => by
    have space := List.all_eq_true.mp blank char (List.mem_of_head? found)
    apply Bool.eq_false_iff.mpr
    intro number
    exact Bool.noConfusion (space.symm.trans (Skeleton.isSpace_of_isNumberChar number))
  have read := value_chars value (2 * (value.chars ++ spaces).length) spaces
    (by rw [List.length_append]; omega) ends
  simp only [Skeleton.read?, Skeleton.front?, read, skipped, List.isEmpty_nil, if_true]

/-- Reading what was written gives the value back, with the members of its objects in order, unless
it is nested too deeply. Spaces may follow the text. -/
theorem read?_text_append {value : Json} (faithful : value.Faithful) {spaces : String}
    (blank : spaces.toList.all Skeleton.isSpace = true) :
    read? (value.text ++ spaces) =
      if value.depth ≤ Skeleton.maxDepth then some value.arranged else none := by
  rw [read?, text, String.toList_append, String.toList_ofList, skeletonRead?_chars value blank,
    Option.bind_some, Skeleton.value?, depth_skeleton, valueBy?_skeleton faithful]

theorem read?_text {value : Json} (faithful : value.Faithful) :
    read? value.text = if value.depth ≤ Skeleton.maxDepth then some value.arranged else none := by
  have nothing : "".toList.all Skeleton.isSpace = true := rfl
  have read := read?_text_append faithful nothing
  rwa [String.append_empty] at read

theorem isInline_of_isNumberChar {char : Char} (number : Skeleton.isNumberChar char = true) :
    isInline char = true := by
  rcases Bool.or_eq_true_iff.mp number with digit | mark
  · have bounds := Char.isDigit_iff_toNat.mp digit
    exact decide_eq_true (Nat.le_trans (by decide) bounds.1)
  · have every : ['+', '-', '.', 'e', 'E'].all isInline = true := by decide
    exact List.all_eq_true.mp every char (List.contains_iff_mem.mp mark)

mutual

theorem all_chars : (value : Json) → value.chars.all isInline = true
  | null => by decide
  | bool true => by decide
  | bool false => by decide
  | number value => by
    exact List.all_eq_true.mpr fun char member =>
      isInline_of_isNumberChar (List.all_eq_true.mp value.all_chars char member)
  | string value => all_stringLiteral value
  | array [] => by decide
  | array (first :: others) => by
    have bracket : isInline '[' = true := by decide
    rw [chars, List.all_append, List.all_cons, bracket, all_chars first, all_itemChars others]
    rfl
  | object [] => by decide
  | object ((key, value) :: others) => by
    have brace : isInline '\x7b' = true := by decide
    have colon : isInline ':' = true := by decide
    rw [chars]
    simp only [List.all_append, List.all_cons, brace, colon, all_stringLiteral key, all_chars value,
      all_memberChars others, Bool.and_self]

theorem all_itemChars : (items : List Json) → (itemChars items).all isInline = true
  | [] => by decide
  | item :: rest => by
    have comma : isInline ',' = true := by decide
    rw [itemChars, List.all_append, List.all_cons, comma, all_chars item, all_itemChars rest]
    rfl

theorem all_memberChars :
    (members : List (String × Json)) → (memberChars members).all isInline = true
  | [] => by decide
  | (key, value) :: rest => by
    have comma : isInline ',' = true := by decide
    have colon : isInline ':' = true := by decide
    rw [memberChars]
    simp only [List.all_append, List.all_cons, comma, colon, all_stringLiteral key, all_chars value,
      all_memberChars rest, Bool.and_self]

end

end Json

end CallJournal
