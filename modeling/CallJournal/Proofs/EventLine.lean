import CallJournal.Proofs.RecordLine

namespace CallJournal

/-- What an event says last under a name: no field of that name has a value behind it. -/
def Event.SaysLast (event : Event) (name : String) (value : FieldValue) : Prop :=
  ∃ before after, event.fields = before ++ (name, value) :: after ∧ value ≠ .absent ∧
    ∀ field ∈ after, field.1 = name → field.2 = .absent

theorem Json.ordered_of_read? {text : String} {found : Json} (read : read? text = some found) :
    found.Ordered := by
  obtain ⟨skeleton, -, valued⟩ := Option.bind_eq_some_iff.mp read
  rw [Skeleton.value?] at valued
  split at valued
  · exact Skeleton.ordered_valueBy? valued
  · cases valued

namespace Output

/-- How a field's value stands in a line. Under the name of a record's fields a text that is read as
an object stands as that object. -/
inductive StandsAs (name : String) : FieldValue → Json → Prop where
  | object {text : String} {members : List (String × Json)} (named : name = Event.fieldsKey)
      (held : Json.read? text = some (.object members)) :
      StandsAs name (.text text) (.object members)
  | text {text : String}
      (unheld : name = Event.fieldsKey → ∀ members, Json.read? text ≠ some (.object members)) :
      StandsAs name (.text text) (.string text)
  | shown (text : String) : StandsAs name (.shown text) (.string text)
  | failure (text : String) : StandsAs name (.failure text) (.string text)
  | whole (value : Whole) : StandsAs name (.whole value) (.number (.whole value))
  | wide (value : Int) : StandsAs name (.wide value) (.string (toString value))
  | double (value : Real.Double) (finite : value.isFinite = true) :
      StandsAs name (.double value) (.number (.float value finite))
  | special (value : Real.Double) (infinite : ¬ value.isFinite = true) :
      StandsAs name (.double value) .null
  | bool (value : Bool) : StandsAs name (.bool value) (.bool value)

variable {name : String} {value : FieldValue} {json : Json}

theorem expand_of_object {text : String} {members : List (String × Json)}
    (held : Json.read? text = some (.object members)) : expand text = .object members := by
  rw [expand, held]

theorem expand_of_other {text : String}
    (unheld : ∀ members, Json.read? text ≠ some (.object members)) :
    expand text = .string text := by
  rw [expand]
  split
  · rename_i members held
    exact absurd held (unheld members)
  · rfl

theorem StandsAs.jsonValue?_eq (stands : StandsAs name value json) :
    jsonValue? name value = some json := by
  cases stands with
  | object named held => rw [jsonValue?, if_pos named, expand_of_object held]
  | text unheld =>
    rw [jsonValue?]
    split
    · rename_i named
      rw [expand_of_other (unheld named)]
    · rfl
  | double value finite => rw [jsonValue?, Json.ofDouble, dif_pos finite]
  | special value infinite => rw [jsonValue?, Json.ofDouble, dif_neg infinite]
  | shown | failure | whole | wide | bool => rfl

theorem exists_standsAs (name : String) (filled : value ≠ .absent) :
    ∃ json, StandsAs name value json := by
  cases value with
  | text text =>
    by_cases object : name = Event.fieldsKey ∧ ∃ members, Json.read? text = some (.object members)
    · obtain ⟨named, members, held⟩ := object
      exact ⟨_, .object named held⟩
    · exact ⟨_, .text fun named members held => object ⟨named, members, held⟩⟩
  | shown text => exact ⟨_, .shown text⟩
  | failure text => exact ⟨_, .failure text⟩
  | whole value => exact ⟨_, .whole value⟩
  | wide value => exact ⟨_, .wide value⟩
  | double value =>
    by_cases finite : value.isFinite = true
    · exact ⟨_, .double value finite⟩
    · exact ⟨_, .special value finite⟩
  | bool value => exact ⟨_, .bool value⟩
  | absent => exact absurd rfl filled

theorem jsonValue?_eq_some_iff : jsonValue? name value = some json ↔ StandsAs name value json := by
  refine ⟨fun found => ?_, StandsAs.jsonValue?_eq⟩
  have filled : value ≠ .absent := by
    rintro rfl
    cases found
  obtain ⟨other, stands⟩ := exists_standsAs name filled
  cases stands.jsonValue?_eq.symm.trans found
  exact stands

theorem jsonValue?_eq_none_iff : jsonValue? name value = none ↔ value = .absent := by
  constructor
  · intro missing
    apply Decidable.byContradiction
    intro filled
    obtain ⟨json, stands⟩ := exists_standsAs name filled
    cases missing.symm.trans stands.jsonValue?_eq
  · rintro rfl
    rfl

theorem StandsAs.arranged_eq (stands : StandsAs name value json) : json.arranged = json := by
  cases stands with
  | object _ held => exact Json.arranged_eq_self (Json.ordered_of_read? held)
  | text | shown | failure | whole | wide | double | special | bool => rfl

/-- The value in JSON that some fields have last for a name. -/
def lastValue? (fields : List (String × FieldValue)) (name : String) : Option Json :=
  fields.reverse.findSome? fun field => if field.1 = name then jsonValue? name field.2 else none

theorem lastValue?_cons (field : String × FieldValue) (others : List (String × FieldValue)) :
    lastValue? (field :: others) name = (lastValue? others name).or
      (if field.1 = name then jsonValue? name field.2 else none) := by
  rw [lastValue?, List.reverse_cons, List.findSome?_append, List.findSome?_singleton]
  rfl

/-- Fields are put into a line one after the other, so that the last of a name is left. -/
theorem get?_foldl_insert? (fields : List (String × FieldValue)) (line : Fields) (name : String) :
    (fields.foldl (fun line field => line.insert? field.1 (jsonValue? field.1 field.2)) line).get?
      name = (lastValue? fields name).or (line.get? name) := by
  induction fields generalizing line with
  | nil => rfl
  | cons field others ih =>
    rw [List.foldl_cons, ih, lastValue?_cons, Option.or_assoc]
    congr 1
    by_cases same : field.1 = name
    · subst same
      rw [if_pos rfl, Fields.get?_insert?_same]
      cases found : jsonValue? field.1 field.2 with
      | none => rfl
      | some json =>
        rw [Option.map_some, (jsonValue?_eq_some_iff.mp found).arranged_eq]
    · rw [if_neg same, Fields.get?_insert?_other _ _ (Ne.symm same), Option.none_or]

section

variable {event : Event}

theorem lastValue?_eq_some_iff : lastValue? event.fields name = some json ↔
    ∃ value, event.SaysLast name value ∧ StandsAs name value json := by
  constructor
  · intro found
    obtain ⟨after, field, before, whole, stands, later⟩ := List.findSome?_eq_some_iff.mp found
    split at stands
    · rename_i same
      subst same
      have stands := jsonValue?_eq_some_iff.mp stands
      refine ⟨field.2, ⟨before.reverse, after.reverse, ?_, ?_, ?_⟩, stands⟩
      · rw [← List.reverse_reverse event.fields, whole]
        simp
      · intro silent
        rw [silent] at stands
        cases stands
      · intro other among named
        have nothing := later other (List.mem_reverse.mp among)
        rw [if_pos named] at nothing
        exact jsonValue?_eq_none_iff.mp nothing
    · cases stands
  · rintro ⟨value, ⟨before, after, whole, -, later⟩, stands⟩
    apply List.findSome?_eq_some_iff.mpr
    refine ⟨after.reverse, (name, value), before.reverse, ?_, ?_, ?_⟩
    · rw [whole]
      simp
    · rw [if_pos rfl, stands.jsonValue?_eq]
    · intro other among
      by_cases named : other.1 = name
      · rw [if_pos named]
        exact jsonValue?_eq_none_iff.mpr (later other (List.mem_reverse.mp among) named)
      · rw [if_neg named]

/-- The members that a line has of its own. -/
def ownMembers (stamp : String) (event : Event) : List (String × String) :=
  [("timestamp", stamp), ("level", event.level.name), ("target", event.target)]

/-- A field says something else under the name of one of the line's own members. -/
def Disputes (event : Event) (own : String × String) : Prop :=
  ∃ value json, event.SaysLast own.1 value ∧ StandsAs own.1 value json ∧ json ≠ .string own.2

/-- A line says when it was written, and how important the event is and whom it is for. -/
structure TellsOrigin (stamp : String) (event : Event) (line : Fields) : Prop where
  timestamp : line.get? "timestamp" = some (.string stamp)
  level : line.get? "level" = some (.string event.level.name)
  target : line.get? "target" = some (.string event.target)

theorem get?_ofList_ownMembers (stamp : String) (event : Event) (name : String) :
    (Fields.ofList [("timestamp", .string stamp), ("level", .string event.level.name),
      ("target", .string event.target)]).get? name =
      ((ownMembers stamp event).lookup name).map .string := by
  simp only [Fields.ofList, List.foldl_cons, List.foldl_nil, Fields.get?_insert, Fields.get?_empty,
    Json.arranged, ownMembers]
  by_cases timestamp : name = "timestamp"
  · subst timestamp
    rfl
  · by_cases level : name = "level"
    · subst level
      rfl
    · by_cases target : name = "target"
      · subst target
        rfl
      · rw [if_neg target, if_neg level, if_neg timestamp, lookup_cons_of_ne _ timestamp,
          lookup_cons_of_ne _ level, lookup_cons_of_ne _ target]
        rfl

/-- A member of a line is what the event says last under its name, or else the line's own. -/
theorem get?_jsonLine (stamp : String) (event : Event) (name : String) :
    (jsonLine stamp event).get? name = (lastValue? event.fields name).or
      (((ownMembers stamp event).lookup name).map .string) := by
  rw [← get?_ofList_ownMembers, ← get?_foldl_insert?]
  rfl

theorem get?_jsonLine_of_foreign {stamp : String}
    (foreign : name ∉ ["timestamp", "level", "target"]) :
    (jsonLine stamp event).get? name = lastValue? event.fields name := by
  have unlisted : (ownMembers stamp event).lookup name = none := by
    rw [List.lookup_eq_none_iff]
    simpa [ownMembers] using foreign
  rw [get?_jsonLine, unlisted, Option.map_none, Option.or_none]

theorem tellsOrigin_iff {stamp : String} {line : Fields} : TellsOrigin stamp event line ↔
    ∀ own ∈ ownMembers stamp event, line.get? own.1 = some (.string own.2) := by
  simp only [ownMembers, List.forall_mem_cons, List.not_mem_nil, false_implies, implies_true,
    and_true]
  constructor
  · rintro ⟨timestamp, level, target⟩
    exact ⟨timestamp, level, target⟩
  · rintro ⟨timestamp, level, target⟩
    exact ⟨timestamp, level, target⟩

theorem disputes_iff {own : String × String} : Disputes event own ↔
    ∃ json, lastValue? event.fields own.1 = some json ∧ json ≠ .string own.2 := by
  constructor
  · rintro ⟨value, json, said, stands, differs⟩
    exact ⟨json, lastValue?_eq_some_iff.mpr ⟨value, said, stands⟩, differs⟩
  · rintro ⟨json, found, differs⟩
    obtain ⟨value, said, stands⟩ := lastValue?_eq_some_iff.mp found
    exact ⟨value, json, said, stands, differs⟩

theorem get?_own_iff {stamp : String} {own : String × String}
    (listed : own ∈ ownMembers stamp event) :
    (jsonLine stamp event).get? own.1 = some (.string own.2) ↔ ¬ Disputes event own := by
  have found : (ownMembers stamp event).lookup own.1 = some own.2 := by
    simp only [ownMembers, List.mem_cons, List.not_mem_nil, or_false] at listed
    rcases listed with rfl | rfl | rfl <;> rfl
  rw [get?_jsonLine, found, disputes_iff]
  cases last : lastValue? event.fields own.1 with
  | none => simp
  | some json => simp

end

/-- A text is one line, and the line is one object. Read again it is that object, as far as its
floats and its nesting allow. -/
structure IsLineOf (line : Fields) (text : String) : Prop where
  ended : ∃ body, text = body ++ "\n" ∧ '\n' ∉ body.toList
  object : Skeleton.read? text.toList = some (.object (Json.memberSkeletons line.entries))
  back : line.toJson.Faithful → line.toJson.depth ≤ 127 → Json.read? text = some line.toJson

/-- A line holds an event's fields, the last of each name, and no others but the line's own
members. -/
structure TellsFields (event : Event) (line : Fields) : Prop where
  member : ∀ name ∉ ["timestamp", "level", "target"], ∀ json, line.get? name = some json ↔
    ∃ value, event.SaysLast name value ∧ StandsAs name value json
  written : ∀ members, (Json.object members).Faithful → (Json.object members).depth ≤ 127 →
    event.SaysLast "fields" (.text (Json.object members).text) →
    line.get? "fields" = some (Json.object members).arranged

theorem isLineOf_jsonText (stamp : String) (event : Event) :
    IsLineOf (jsonLine stamp event) (jsonText stamp event) where
  ended := ⟨_, rfl, not_mem_text _⟩
  object := by
    have blank : "\n".toList.all Skeleton.isSpace = true := by decide
    rw [jsonText, String.toList_append, Fields.text, Json.text, String.toList_ofList,
      Json.skeletonRead?_chars _ blank]
    rfl
  back faithful shallow := by
    have blank : "\n".toList.all Skeleton.isSpace = true := by decide
    rw [jsonText, Fields.text, Json.read?_text_append faithful blank, arranged_toJson,
      Skeleton.maxDepth, if_pos shallow]

theorem tellsFields_jsonLine (stamp : String) (event : Event) :
    TellsFields event (jsonLine stamp event) := by
  have member : ∀ name ∉ ["timestamp", "level", "target"], ∀ json,
      (jsonLine stamp event).get? name = some json ↔
        ∃ value, event.SaysLast name value ∧ StandsAs name value json := by
    intro name foreign json
    rw [get?_jsonLine_of_foreign foreign, lastValue?_eq_some_iff]
  refine ⟨member, fun members faithful shallow said => ?_⟩
  have read : Json.read? (Json.object members).text = some (Json.object members).arranged := by
    rw [Json.read?_text faithful, Skeleton.maxDepth, if_pos shallow]
  exact (member "fields" (by decide) _).mpr ⟨_, said, .object rfl read⟩

/-- The line of an event always states its fields, and states time, level and target exactly if no
field of these names says something else. -/
theorem line_tells_event_iff_undisputed (stamp : String) (event : Event) :
    IsLineOf (jsonLine stamp event) (jsonText stamp event) ∧
    TellsFields event (jsonLine stamp event) ∧
    (TellsOrigin stamp event (jsonLine stamp event) ↔
      ∀ own ∈ ownMembers stamp event, ¬ Disputes event own) ∧
    ∀ own ∈ ownMembers stamp event, ∀ value json, event.SaysLast own.1 value →
      StandsAs own.1 value json → (jsonLine stamp event).get? own.1 = some json := by
  refine ⟨isLineOf_jsonText stamp event, tellsFields_jsonLine stamp event, ?_, ?_⟩
  · rw [tellsOrigin_iff]
    exact forall₂_congr fun own listed => get?_own_iff listed
  · intro own _ value json said stands
    rw [get?_jsonLine, lastValue?_eq_some_iff.mpr ⟨value, said, stands⟩, Option.some_or]

/-- A repeated field, an object in a text, a field without a value and one that agrees with the line
misstate nothing. -/
theorem line_tells_event_of_repeated_fields :
    let written : Json := .object [("b", .bool true), ("a", .null)]
    let event : Event := ⟨.warn, "app", [("attempt", .text "first"), ("fields", .text written.text),
      ("level", .text "WARN"), ("target", .absent), ("attempt", .whole ⟨3, by decide⟩)]⟩
    TellsOrigin "now" event (jsonLine "now" event) ∧
      (jsonLine "now" event).get? "attempt" = some (.ofNat 3) ∧
      (jsonLine "now" event).get? "fields" =
        some (.object [("a", .null), ("b", .bool true)]) := by
  intro written event
  obtain ⟨-, fields, origin, -⟩ := line_tells_event_iff_undisputed "now" event
  have undisputed : ∀ own ∈ ownMembers "now" event, ¬ Disputes event own := by
    intro own listed
    rw [disputes_iff]
    rintro ⟨json, last, differs⟩
    simp only [ownMembers, List.mem_cons, List.not_mem_nil, or_false] at listed
    rcases listed with rfl | rfl | rfl
    · cases last
    · cases last
      exact differs rfl
    · cases last
  have attempt : event.SaysLast "attempt" (.whole ⟨3, by decide⟩) :=
    ⟨event.fields.take 4, [], rfl, by decide, by simp⟩
  have said : event.SaysLast "fields" (.text written.text) :=
    ⟨event.fields.take 1, event.fields.drop 2, rfl, by simp, by decide⟩
  have faithful : written.Faithful := by simp [written]
  refine ⟨origin.mpr undisputed, ?_, fields.written _ faithful (by decide) said⟩
  exact (fields.member "attempt" (by decide) _).mpr ⟨_, attempt, .whole _⟩

/-- A failure with a field that is named like the level is told as if it were of another level. -/
theorem line_of_failure_tells_level_of_field :
    let event : Event := .ofMessage .error "app" "m" [("level", .text "INFO")]
    (jsonLine "now" event).get? "level" = some (.string "INFO") ∧
      ¬ TellsOrigin "now" event (jsonLine "now" event) := by
  intro event
  have level : (jsonLine "now" event).get? "level" = some (.string "INFO") := by
    rw [get?_jsonLine]
    rfl
  refine ⟨level, fun origin => ?_⟩
  have same : "INFO" = event.level.name :=
    Json.string.inj (Option.some.inj (level.symm.trans origin.level))
  exact absurd same (by decide)

end Output

end CallJournal
