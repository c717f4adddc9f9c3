/-! Members by key. Objects are written with ascending keys, without repetition. -/

namespace CallJournal

/-- Puts a member at its place by key, in the place of an older member with that key. -/
def insertByKey {α : Type _} (key : String) (value : α) :
    List (String × α) → List (String × α)
  | [] => [(key, value)]
  | (first, content) :: rest =>
    if key < first then (key, value) :: (first, content) :: rest
    else if key = first then (key, value) :: rest
    else (first, content) :: insertByKey key value rest

/-- Keys ascend, so none is repeated. -/
def Ascending {α : Type _} (members : List (String × α)) : Prop :=
  members.Pairwise fun left right => left.1 < right.1

/-- Members in ascending order; the last of several with one key is kept. -/
def ascend {α : Type _} (members : List (String × α)) : List (String × α) :=
  members.foldl (fun sorted member => insertByKey member.1 member.2 sorted) []

theorem mem_insertByKey {α : Type _} {key : String} {value : α}
    {members : List (String × α)} {entry : String × α}
    (member : entry ∈ insertByKey key value members) :
    entry = (key, value) ∨ entry ∈ members := by
  induction members with
  | nil => exact .inl (by simpa [insertByKey] using member)
  | cons head rest ih =>
    simp only [insertByKey] at member
    split at member
    · simpa using member
    · split at member
      · rcases List.mem_cons.mp member with rfl | tail
        · exact .inl rfl
        · exact .inr (List.mem_cons_of_mem _ tail)
      · rcases List.mem_cons.mp member with rfl | tail
        · exact .inr List.mem_cons_self
        · exact (ih tail).imp_right (List.mem_cons_of_mem _)

theorem ascending_insertByKey {α : Type _} (key : String) (value : α)
    {members : List (String × α)} (ascending : Ascending members) :
    Ascending (insertByKey key value members) := by
  induction members with
  | nil => simp [insertByKey, Ascending]
  | cons head rest ih =>
    obtain ⟨above, tail⟩ := List.pairwise_cons.mp ascending
    simp only [insertByKey]
    split
    · rename_i less
      refine List.pairwise_cons.mpr ⟨fun entry member => ?_, ascending⟩
      rcases List.mem_cons.mp member with rfl | later
      · exact less
      · exact String.lt_trans less (above entry later)
    · split
      · rename_i same
        exact List.pairwise_cons.mpr ⟨fun entry member => same ▸ above entry member, tail⟩
      · rename_i notLess differs
        refine List.pairwise_cons.mpr ⟨fun entry member => ?_, ih tail⟩
        rcases mem_insertByKey member with rfl | later
        · exact String.not_le.mp fun le =>
            differs (String.le_antisymm le (String.not_lt.mp notLess))
        · exact above entry later

private theorem ascending_foldl_insertByKey {α : Type _} (members sorted : List (String × α))
    (ascending : Ascending sorted) :
    Ascending (members.foldl (fun sorted member => insertByKey member.1 member.2 sorted)
      sorted) := by
  induction members generalizing sorted with
  | nil => exact ascending
  | cons member rest ih => exact ih _ (ascending_insertByKey _ _ ascending)

theorem ascending_ascend {α : Type _} (members : List (String × α)) :
    Ascending (ascend members) :=
  ascending_foldl_insertByKey members [] List.Pairwise.nil

theorem mem_ascend {α : Type _} {members : List (String × α)} {entry : String × α}
    (member : entry ∈ ascend members) : entry ∈ members := by
  have fold : ∀ (rest sorted : List (String × α)),
      entry ∈ rest.foldl (fun sorted member => insertByKey member.1 member.2 sorted) sorted →
      entry ∈ sorted ∨ entry ∈ rest := by
    intro rest
    induction rest with
    | nil => exact fun sorted found => .inl found
    | cons head tail ih =>
      intro sorted found
      rcases ih _ found with inSorted | inTail
      · rcases mem_insertByKey inSorted with rfl | older
        · exact .inr List.mem_cons_self
        · exact .inl older
      · exact .inr (List.mem_cons_of_mem _ inTail)
  simpa using fold members [] member

theorem insertByKey_of_above {α : Type _} {key : String} {value : α}
    {members : List (String × α)} (above : ∀ entry ∈ members, entry.1 < key) :
    insertByKey key value members = members ++ [(key, value)] := by
  induction members with
  | nil => rfl
  | cons head rest ih =>
    have below := above head List.mem_cons_self
    have differs : key ≠ head.1 := fun same => String.lt_irrefl key (same ▸ below)
    have notLess : ¬ key < head.1 := String.lt_asymm below
    simp [insertByKey, differs, notLess, ih fun entry member => above entry (.tail _ member)]

private theorem foldl_insertByKey_of_ascending {α : Type _} (members sorted : List (String × α))
    (ascending : Ascending (sorted ++ members)) :
    members.foldl (fun sorted member => insertByKey member.1 member.2 sorted) sorted =
      sorted ++ members := by
  induction members generalizing sorted with
  | nil => simp
  | cons member rest ih =>
    have above : ∀ entry ∈ sorted, entry.1 < member.1 := fun entry found =>
      (List.pairwise_append.mp ascending).2.2 entry found member List.mem_cons_self
    have next : Ascending ((sorted ++ [member]) ++ rest) := by simpa using ascending
    rw [List.foldl_cons, insertByKey_of_above above, ih _ next]
    simp

theorem ascend_eq_self {α : Type _} {members : List (String × α)}
    (ascending : Ascending members) : ascend members = members :=
  foldl_insertByKey_of_ascending members [] ascending

theorem length_filter_le_one {α : Type _} {members : List (String × α)}
    (ascending : Ascending members) (name : String) :
    (members.filter fun member => member.1 == name).length ≤ 1 := by
  induction members with
  | nil => exact Nat.zero_le 1
  | cons head rest ih =>
    obtain ⟨above, tail⟩ := List.pairwise_cons.mp ascending
    by_cases same : head.1 = name
    · have others : (rest.filter fun member => member.1 == name) = [] := by
        rw [List.filter_eq_nil_iff]
        intro entry found equal
        have below := above entry found
        rw [same, eq_of_beq equal] at below
        exact String.lt_irrefl name below
      simp [same, others]
    · simpa [same] using ih tail

theorem lt_or_eq_or_gt (left right : String) : left < right ∨ left = right ∨ right < left := by
  by_cases less : left < right
  · exact .inl less
  · by_cases more : right < left
    · exact .inr (.inr more)
    · exact .inr (.inl (String.le_antisymm (String.not_lt.mp more) (String.not_lt.mp less)))

theorem lookup_head {α : Type _} (head : String × α) (rest : List (String × α)) :
    (head :: rest).lookup head.1 = some head.2 :=
  List.lookup_cons_self

theorem lookup_cons_of_ne {α : Type _} {name : String} {head : String × α}
    (rest : List (String × α)) (differs : name ≠ head.1) :
    (head :: rest).lookup name = rest.lookup name := by
  obtain ⟨key, value⟩ := head
  rw [List.lookup_cons, beq_false_of_ne differs]

theorem lookup_insertByKey {α : Type _} (key other : String) (value : α)
    (members : List (String × α)) :
    (insertByKey key value members).lookup other =
      if other = key then some value else members.lookup other := by
  induction members with
  | nil =>
    by_cases same : other = key
    · rw [if_pos same, same]
      exact lookup_head (key, value) []
    · rw [if_neg same]
      exact lookup_cons_of_ne [] same
  | cons head rest ih =>
    obtain ⟨first, content⟩ := head
    simp only [insertByKey]
    split
    · by_cases same : other = key
      · rw [if_pos same, same]
        exact lookup_head (key, value) _
      · rw [if_neg same]
        exact lookup_cons_of_ne _ same
    · split
      · rename_i replaced
        subst replaced
        by_cases same : other = key
        · rw [if_pos same, same]
          exact lookup_head (key, value) rest
        · rw [if_neg same, lookup_cons_of_ne rest same, lookup_cons_of_ne rest same]
      · rename_i differs
        by_cases here : other = first
        · subst here
          rw [if_neg (Ne.symm differs)]
          exact (lookup_head (other, content) _).trans (lookup_head (other, content) rest).symm
        · rw [lookup_cons_of_ne _ here, lookup_cons_of_ne _ here, ih]

theorem lookup_eq_none_of_above {α : Type _} {name : String} {members : List (String × α)}
    (above : ∀ entry ∈ members, name < entry.1) : members.lookup name = none := by
  rw [List.lookup_eq_none_iff]
  intro entry found
  have differs : name ≠ entry.1 := fun same =>
    String.lt_irrefl name (same ▸ above entry found)
  simpa using differs

/-- A name below the first key is not there at all. -/
theorem lookup_eq_none_of_lt {α : Type _} {name : String} {head : String × α}
    {rest : List (String × α)} (ascending : Ascending (head :: rest)) (less : name < head.1) :
    (head :: rest).lookup name = none :=
  lookup_eq_none_of_above fun entry member => by
    rcases List.mem_cons.mp member with rfl | later
    · exact less
    · exact String.lt_trans less ((List.pairwise_cons.mp ascending).1 entry later)

theorem eq_of_lookup {α : Type _} {left right : List (String × α)} (first : Ascending left)
    (second : Ascending right) (same : ∀ name, left.lookup name = right.lookup name) :
    left = right := by
  induction left generalizing right with
  | nil =>
    cases right with
    | nil => rfl
    | cons other others =>
      have found := same other.1
      rw [lookup_head] at found
      cases found
  | cons head rest ih =>
    cases right with
    | nil =>
      have found := same head.1
      rw [lookup_head] at found
      cases found
    | cons other others =>
      have keys : head.1 = other.1 := by
        rcases lt_or_eq_or_gt head.1 other.1 with less | equal | more
        · have found := (same head.1).trans (lookup_eq_none_of_lt second less)
          rw [lookup_head] at found
          cases found
        · exact equal
        · have found := (same other.1).symm.trans (lookup_eq_none_of_lt first more)
          rw [lookup_head] at found
          cases found
      obtain ⟨above, tail⟩ := List.pairwise_cons.mp first
      obtain ⟨beyond, remaining⟩ := List.pairwise_cons.mp second
      have values : head.2 = other.2 := by
        have found := same head.1
        rw [lookup_head, keys, lookup_head] at found
        exact Option.some.inj found
      have tails : rest = others := ih tail remaining fun name => by
        by_cases here : name = head.1
        · subst here
          rw [lookup_eq_none_of_above above, lookup_eq_none_of_above (keys ▸ beyond)]
        · have there : name ≠ other.1 := keys ▸ here
          have found := same name
          rwa [lookup_cons_of_ne rest here, lookup_cons_of_ne others there] at found
      rw [tails, Prod.ext keys values]

end CallJournal
