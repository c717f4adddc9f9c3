import CallJournal.Proofs.JsonReadBack
import CallJournal.Token.Claims

namespace CallJournal

inductive Json.IsContainer : Json → Prop where
  | array (items : List Json) : IsContainer (.array items)
  | object (members : List (String × Json)) : IsContainer (.object members)

/-- Arrays and objects that hold something. -/
inductive Json.IsFilled : Json → Prop where
  | array (first : Json) (rest : List Json) : IsFilled (.array (first :: rest))
  | object (first : String × Json) (rest : List (String × Json)) :
    IsFilled (.object (first :: rest))

theorem Json.IsFilled.isContainer {value : Json} (filled : value.IsFilled) : value.IsContainer := by
  cases filled with
  | array first rest => exact .array _
  | object first rest => exact .object _

theorem Json.isFilled_array_iff {items : List Json} :
    (Json.array items).IsFilled ↔ items.isEmpty = false := by
  cases items with
  | nil => exact iff_of_false nofun nofun
  | cons first rest => exact iff_of_true (.array first rest) rfl

theorem Json.isFilled_object_iff {members : List (String × Json)} :
    (Json.object members).IsFilled ↔ members.isEmpty = false := by
  cases members with
  | nil => exact iff_of_false nofun nofun
  | cons first rest => exact iff_of_true (.object first rest) rfl

namespace Token.Claims

/-- Members that spoil a payload: one of the five names stands there twice, a date is a filled
container, or the subject is a container. -/
inductive Spoilt (members : List (String × Json)) : Prop where
  | repeated (name : String) (named : name ∈ ["exp", "nbf", "sub", "iss", "aud"])
      (twice : 1 < (members.map Prod.fst).count name)
  | date (name : String) (value : Json) (named : name ∈ ["exp", "nbf"])
      (member : (name, value) ∈ members) (filled : value.IsFilled)
  | subject (value : Json) (member : ("sub", value) ∈ members) (container : value.IsContainer)

section

variable {name : String} {value : Json}

theorem isTolerable_of_not_isContainer (plain : ¬ value.IsContainer) :
    Registered.isTolerable name value = true := by
  cases value with
  | array items => exact absurd (.array items) plain
  | object members => exact absurd (.object members) plain
  | _ => rfl

theorem isTolerable_eq_false_iff :
    Registered.isTolerable name value = false ↔
      name ∈ ["exp", "nbf"] ∧ value.IsFilled ∨ name = "sub" ∧ value.IsContainer := by
  by_cases container : value.IsContainer
  · by_cases subject : name = "sub"
    · apply iff_of_true ?_ (.inr ⟨subject, container⟩)
      cases container <;> exact if_pos subject
    · cases container with
      | array items =>
        simp [Registered.isTolerable, subject, Json.isFilled_array_iff,
          Decidable.or_iff_not_imp_left]
      | object members =>
        simp [Registered.isTolerable, subject, Json.isFilled_object_iff,
          Decidable.or_iff_not_imp_left]
  · rw [isTolerable_of_not_isContainer container]
    constructor
    · intro impossible
      cases impossible
    · rintro (⟨-, filled⟩ | ⟨-, contained⟩)
      · exact absurd filled.isContainer container
      · exact absurd contained container

end

variable {members : List (String × Json)} {text : String}

theorem count_names (members : List (String × Json)) (name : String) :
    (members.map Prod.fst).count name =
      (members.filter fun member => member.1 == name).length := by
  rw [List.count_eq_length_filter, List.filter_map, List.length_map]
  rfl

theorem spoilt_iff :
    Spoilt members ↔
      (∃ name ∈ Registered.names, 1 < (members.filter fun member => member.1 == name).length) ∨
        ∃ member ∈ members, Registered.isTolerable member.1 member.2 = false := by
  constructor
  · intro spoilt
    cases spoilt with
    | repeated name named twice => exact .inl ⟨name, named, count_names members name ▸ twice⟩
    | date name value named member filled =>
      have refused := isTolerable_eq_false_iff.mpr (.inl ⟨named, filled⟩)
      exact .inr ⟨(name, value), member, refused⟩
    | subject value member container =>
      have refused := isTolerable_eq_false_iff.mpr (.inr ⟨rfl, container⟩)
      exact .inr ⟨("sub", value), member, refused⟩
  · rintro (⟨name, named, twice⟩ | ⟨⟨name, value⟩, member, refused⟩)
    · exact .repeated name named (count_names members name ▸ twice)
    · rcases isTolerable_eq_false_iff.mp refused with ⟨dated, filled⟩ | ⟨rfl, container⟩
      · exact .date name value dated member filled
      · exact .subject value member container

theorem ofMembers?_of_spoilt (spoilt : Spoilt members) : Registered.ofMembers? members = none := by
  apply if_neg
  rw [Bool.and_eq_true, List.all_eq_true, List.all_eq_true]
  rintro ⟨unique, tolerable⟩
  rcases spoilt_iff.mp spoilt with ⟨name, among, twice⟩ | ⟨member, among, refused⟩
  · exact Nat.not_le_of_lt twice (of_decide_eq_true (unique name among))
  · exact Bool.noConfusion (refused.symm.trans (tolerable member among))

theorem ofMembers?_of_not_spoilt (sound : ¬ Spoilt members) :
    Registered.ofMembers? members =
      some ⟨((Fields.ofList members).get? "exp").bind Registered.second?⟩ := by
  rw [spoilt_iff, not_or] at sound
  obtain ⟨unique, tolerable⟩ := sound
  apply if_pos
  rw [Bool.and_eq_true, List.all_eq_true, List.all_eq_true]
  constructor
  · intro name among
    exact decide_eq_true (Nat.le_of_not_lt fun twice => unique ⟨name, among, twice⟩)
  · intro member among
    exact Bool.of_not_eq_false fun refused => tolerable ⟨member, among, refused⟩

theorem written?_eq_some_iff {text : String} {named : List (String × Json)} :
    written? text = some named ↔
      ∃ members, Skeleton.read? text.toList = some (.object members) ∧
        (Skeleton.object members).depth ≤ Skeleton.maxDepth ∧
        Skeleton.memberValues? Piece.text? members = some named := by
  unfold written?
  split
  · rename_i members read
    constructor
    · intro written
      split at written
      · rename_i shallow
        exact ⟨members, read, shallow, written⟩
      · cases written
    · rintro ⟨others, same, shallow, values⟩
      cases Option.some.inj (read.symm.trans same)
      rw [if_pos shallow, values]
  · rename_i other
    constructor
    · intro impossible
      cases impossible
    · rintro ⟨members, read, -⟩
      exact absurd read (other members)

theorem exists_members_of_valueBy? {skeleton : Skeleton} {read : List Piece → Option String}
    {entries : List (String × Json)} (found : skeleton.valueBy? read = some (.object entries)) :
    ∃ members named, skeleton = .object members ∧
      Skeleton.memberValues? read members = some named ∧ ascend named = entries := by
  cases skeleton with
  | null => cases found
  | bool value => cases found
  | number numeral =>
    obtain ⟨value, -, impossible⟩ := Option.map_eq_some_iff.mp found
    cases impossible
  | string pieces =>
    obtain ⟨value, -, impossible⟩ := Option.map_eq_some_iff.mp found
    cases impossible
  | array items =>
    obtain ⟨values, -, impossible⟩ := Option.map_eq_some_iff.mp found
    cases impossible
  | object members =>
    obtain ⟨named, values, same⟩ := Option.map_eq_some_iff.mp found
    cases same
    exact ⟨members, named, rfl, values, rfl⟩

/-- The text of an object writes its members down; of several with one key the last counts. -/
theorem exists_written?_iff {text : String} {entries : List (String × Json)} :
    Json.read? text = some (.object entries) ↔
      ∃ named, written? text = some named ∧ ascend named = entries := by
  constructor
  · intro object
    obtain ⟨skeleton, read, valued⟩ := Option.bind_eq_some_iff.mp object
    rw [Skeleton.value?] at valued
    split at valued
    · rename_i shallow
      obtain ⟨members, named, rfl, values, sorted⟩ := exists_members_of_valueBy? valued
      exact ⟨named, written?_eq_some_iff.mpr ⟨members, read, shallow, values⟩, sorted⟩
    · cases valued
  · rintro ⟨named, written, rfl⟩
    obtain ⟨members, read, shallow, values⟩ := written?_eq_some_iff.mp written
    rw [Json.read?, read, Option.bind_some, Skeleton.value?, if_pos shallow, Skeleton.valueBy?,
      values, Option.map_some]

/-- Members that are written down are the claims of a payload, spoilt or not. -/
theorem ofOctets?_of_written (written : written? text = some members) :
    ofOctets? (octetsOf text) = some (Fields.ofList members) := by
  rw [ofOctets?, textOf?_octetsOf, Option.bind_some, written, Option.map_some]

theorem registered_of_written (written : written? text = some members) :
    Registered.ofOctets? (octetsOf text) = Registered.ofMembers? members := by
  rw [Registered.ofOctets?, textOf?_octetsOf, Option.bind_some, written, Option.bind_some]

theorem entries_ofList_of_written {text : String} {named : List (String × Json)}
    (written : written? text = some named) : (Fields.ofList named).entries = ascend named := by
  obtain ⟨members, -, -, values⟩ := written?_eq_some_iff.mp written
  exact Fields.entries_ofList (Skeleton.ordered_memberValues? values)

/-- Claims that are printed are written down as they are, unless they are nested too deeply. -/
theorem written?_text {claims : Fields} (faithful : claims.toJson.Faithful)
    (shallow : claims.toJson.depth ≤ 127) : written? claims.text = some claims.entries := by
  have read : Skeleton.read? claims.text.toList = some claims.toJson.skeleton := by
    have nothing : ([] : List Char).all Skeleton.isSpace = true := rfl
    have whole := Json.skeletonRead?_chars claims.toJson nothing
    rwa [List.append_nil, ← String.toList_ofList (l := claims.toJson.chars)] at whole
  have named := Json.memberValues?_memberSkeletons faithful.member
  rw [Json.arrangedMembers_eq_self claims.ordered] at named
  have low : claims.toJson.skeleton.depth ≤ Skeleton.maxDepth := by
    rwa [Json.depth_skeleton]
  exact written?_eq_some_iff.mpr ⟨_, read, low, named⟩

end Token.Claims

end CallJournal
