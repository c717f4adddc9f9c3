import CallJournal.Json.Basic

namespace CallJournal

/-- A map from names to JSON values. -/
structure Fields where
  entries : List (String × Json)
  ascending : Ascending entries
  ordered : ∀ entry ∈ entries, entry.2.Ordered

namespace Fields

@[ext]
theorem ext {left right : Fields} (same : left.entries = right.entries) : left = right := by
  cases left
  cases right
  congr

def empty : Fields := ⟨[], List.Pairwise.nil, by simp⟩

instance : Inhabited Fields := ⟨empty⟩

/-- Adds a field, or replaces the one with the same name; the value is stored arranged. -/
def insert (fields : Fields) (name : String) (value : Json) : Fields where
  entries := insertByKey name value.arranged fields.entries
  ascending := ascending_insertByKey _ _ fields.ascending
  ordered := by
    intro entry member
    rcases mem_insertByKey member with rfl | older
    · exact value.ordered_arranged
    · exact fields.ordered entry older

/-- All fields of both maps; where both have a name, the value of `newer`. -/
def merge (older newer : Fields) : Fields :=
  newer.entries.foldl (fun fields entry => fields.insert entry.1 entry.2) older

def insert? (fields : Fields) (name : String) : Option Json → Fields
  | none => fields
  | some value => fields.insert name value

def insertAll (fields : Fields) (entries : List (String × Json)) : Fields :=
  entries.foldl (fun fields entry => fields.insert entry.1 entry.2) fields

def ofList (entries : List (String × Json)) : Fields :=
  entries.foldl (fun fields entry => fields.insert entry.1 entry.2) empty

def get? (fields : Fields) (name : String) : Option Json :=
  fields.entries.lookup name

/-- All fields of several maps; where more than one has a name, the value of the last of them. -/
def mergeAll (maps : List Fields) : Fields := maps.foldl merge empty

def toJson (fields : Fields) : Json := .object fields.entries

def ofJson? : Json → Option Fields
  | .object members => some (ofList members)
  | _ => none

theorem ordered_toJson (fields : Fields) : fields.toJson.Ordered :=
  .object fields.ascending fields.ordered

theorem get?_insert (fields : Fields) (name other : String) (value : Json) :
    (fields.insert name value).get? other =
      if other = name then some value.arranged else fields.get? other :=
  lookup_insertByKey name other value.arranged fields.entries

/-- Values that are in order already are stored as they are. -/
theorem entries_ofList {entries : List (String × Json)}
    (ordered : ∀ entry ∈ entries, entry.2.Ordered) : (ofList entries).entries = ascend entries := by
  have fold : ∀ (older : Fields),
      (entries.foldl (fun fields entry => fields.insert entry.1 entry.2) older).entries =
        entries.foldl (fun sorted entry => insertByKey entry.1 entry.2 sorted) older.entries := by
    induction entries with
    | nil => exact fun _ => rfl
    | cons head rest ih =>
      intro older
      have stored : (older.insert head.1 head.2).entries =
          insertByKey head.1 head.2 older.entries :=
        congrArg (insertByKey head.1 · older.entries)
          (Json.arranged_eq_self (ordered head List.mem_cons_self))
      rw [List.foldl_cons, List.foldl_cons, ih fun entry found => ordered entry (.tail _ found),
        stored]
  exact fold empty

theorem ofList_append (first last : List (String × Json)) :
    ofList (first ++ last) = (ofList first).insertAll last :=
  List.foldl_append

theorem insert?_eq_insertAll (fields : Fields) (name : String) (value? : Option Json) :
    fields.insert? name value? =
      fields.insertAll (value?.map fun value => (name, value)).toList := by
  cases value? <;> rfl

theorem get?_insert?_other (fields : Fields) {name other : String} (value? : Option Json)
    (differs : other ≠ name) : (fields.insert? name value?).get? other = fields.get? other := by
  cases value? with
  | none => rfl
  | some value => rw [insert?, get?_insert, if_neg differs]

theorem get?_insert?_same (fields : Fields) (name : String) (value? : Option Json) :
    (fields.insert? name value?).get? name =
      (value?.map Json.arranged).or (fields.get? name) := by
  cases value? with
  | none => rfl
  | some value => rw [insert?, get?_insert, if_pos rfl, Option.map_some, Option.some_or]

@[simp]
theorem get?_empty (name : String) : empty.get? name = none := rfl

private theorem get?_foldl_insert (entries : List (String × Json)) (ascending : Ascending entries)
    (ordered : ∀ entry ∈ entries, entry.2.Ordered) (older : Fields) (name : String) :
    (entries.foldl (fun fields entry => fields.insert entry.1 entry.2) older).get? name =
      (entries.lookup name).or (older.get? name) := by
  induction entries generalizing older with
  | nil => rfl
  | cons head rest ih =>
    obtain ⟨above, tail⟩ := List.pairwise_cons.mp ascending
    rw [List.foldl_cons, ih tail (fun entry found => ordered entry (.tail _ found)), get?_insert,
      Json.arranged_eq_self (ordered head List.mem_cons_self)]
    by_cases same : name = head.1
    · have absent := lookup_eq_none_of_above (same ▸ above : ∀ entry ∈ rest, name < entry.1)
      rw [absent, if_pos same, same, lookup_head, Option.none_or, Option.some_or]
    · rw [if_neg same, lookup_cons_of_ne rest same]

theorem get?_merge (older newer : Fields) (name : String) :
    (older.merge newer).get? name = (newer.get? name).or (older.get? name) :=
  get?_foldl_insert newer.entries newer.ascending newer.ordered older name

theorem ext_get? {left right : Fields} (same : ∀ name, left.get? name = right.get? name) :
    left = right :=
  ext (eq_of_lookup left.ascending right.ascending same)

theorem merge_insert (older newer : Fields) (name : String) (value : Json) :
    older.merge (newer.insert name value) = (older.merge newer).insert name value := by
  apply ext_get?
  intro other
  rw [get?_merge, get?_insert, get?_insert, get?_merge]
  by_cases same : other = name
  · rw [if_pos same, if_pos same, Option.some_or]
  · rw [if_neg same, if_neg same]

@[simp]
theorem empty_merge (fields : Fields) : empty.merge fields = fields :=
  ext_get? fun name => by rw [get?_merge, get?_empty, Option.or_none]

private theorem get?_foldl_merge (maps : List Fields) (older : Fields) (name : String) :
    (maps.foldl merge older).get? name =
      (maps.reverse.findSome? fun fields => fields.get? name).or (older.get? name) := by
  induction maps generalizing older with
  | nil => rfl
  | cons first rest ih =>
    rw [List.foldl_cons, ih, get?_merge, List.reverse_cons, List.findSome?_append,
      List.findSome?_singleton, Option.or_assoc]

theorem mergeAll_append_singleton (maps : List Fields) (last : Fields) :
    mergeAll (maps ++ [last]) = (mergeAll maps).merge last :=
  List.foldl_append

/-- The last map that has a name decides. -/
theorem get?_mergeAll (maps : List Fields) (name : String) :
    (mergeAll maps).get? name = maps.reverse.findSome? fun fields => fields.get? name := by
  rw [mergeAll, get?_foldl_merge, get?_empty, Option.or_none]

theorem foldl_merge (maps : List Fields) (older : Fields) :
    maps.foldl merge older = older.merge (mergeAll maps) :=
  ext_get? fun name => by rw [get?_foldl_merge, get?_merge, get?_mergeAll]

end Fields

end CallJournal
