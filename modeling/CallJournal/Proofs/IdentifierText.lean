import CallJournal.Identifier

namespace CallJournal

theorem Text.exists_cutFirst {mark : Char} {text : List Char} (member : mark ∈ text) :
    ∃ front back, cutFirst mark text = some (front, back) := by
  cases cut : cutFirst mark text with
  | none => exact absurd member (cutFirst_eq_none_iff.mp cut)
  | some parts => exact ⟨parts.1, parts.2, rfl⟩

namespace Identifier

variable {identifier : Identifier} {text : String}

/-- The parts joined by slashes, of the empty identifier too. -/
def joined (identifier : Identifier) : List Char :=
  identifier.applicationName.toList ++
    '/' :: (identifier.resourceType.toList ++ '/' :: identifier.resourceId.toList)

/-- The first two parts hold no slash, so that they can be told apart where they are joined. -/
structure IsParted (identifier : Identifier) : Prop where
  applicationName : '/' ∉ identifier.applicationName.toList
  resourceType : '/' ∉ identifier.resourceType.toList

theorem isParted_empty : empty.IsParted := ⟨List.not_mem_nil, List.not_mem_nil⟩

theorem isEmpty_iff : identifier.isEmpty = true ↔ identifier = empty := by
  obtain ⟨applicationName, resourceType, resourceId⟩ := identifier
  simp [isEmpty, empty, and_assoc]

theorem length_joined : identifier.joined.length = identifier.applicationName.length +
    identifier.resourceType.length + identifier.resourceId.length + 2 := by
  simp only [joined, List.length_append, List.length_cons, String.length_toList]
  omega

theorem two_le_count_joined : 2 ≤ identifier.joined.count '/' := by
  simp only [joined, List.count_append, List.count_cons_self]
  omega

/-- Joining the parts of another identifier gives more than two slashes. -/
theorem joined_eq_slashes_iff : identifier.joined = ['/', '/'] ↔ identifier = empty := by
  constructor
  · intro slashes
    have length : identifier.joined.length = 2 := congrArg List.length slashes
    rw [length_joined] at length
    apply isEmpty_iff.mp
    simp only [isEmpty, Bool.and_eq_true, String.isEmpty_iff, ← String.length_eq_zero_iff]
    omega
  · rintro rfl
    rfl

theorem toList_text (filled : identifier ≠ empty) : identifier.text.toList = identifier.joined := by
  have unmarked : ¬ identifier.isEmpty = true := fun vacant => filled (isEmpty_iff.mp vacant)
  rw [text, if_neg unmarked]
  simp [joined]

theorem text_eq_empty_iff : identifier.text = "" ↔ identifier = empty := by
  constructor
  · intro nothing
    apply Decidable.not_not.mp
    intro filled
    have length := congrArg List.length (toList_text filled)
    rw [nothing, length_joined] at length
    exact absurd length (Nat.succ_ne_zero _).symm
  · rintro rfl
    rfl

theorem ofText_eq_ok_iff (filled : text ≠ "") :
    ofText text = .ok identifier ↔ text.toList = identifier.joined ∧ identifier.IsParted := by
  have visible : ¬ text.isEmpty = true := fun vacant => filled (String.isEmpty_iff.mp vacant)
  rw [ofText, if_neg visible]
  constructor
  · intro read
    split at read
    · cases read
    · rename_i applicationName rest first
      split at read
      · cases read
      · rename_i resourceType resourceId second
        cases Except.ok.inj read
        obtain ⟨whole, unslashed⟩ := Text.cutFirst_eq_some_iff.mp first
        obtain ⟨behind, unmarked⟩ := Text.cutFirst_eq_some_iff.mp second
        refine ⟨?_, ?_, ?_⟩
        · simp [joined, whole, behind]
        · simpa using unslashed
        · simpa using unmarked
  · rintro ⟨whole, parted⟩
    have first := Text.cutFirst_append
      (identifier.resourceType.toList ++ '/' :: identifier.resourceId.toList)
      parted.applicationName
    have second := Text.cutFirst_append identifier.resourceId.toList parted.resourceType
    rw [whole, joined, first]
    simp only [second, String.ofList_toList]

theorem ofText_empty : ofText "" = .ok empty := rfl

theorem isParted_of_ofText (read : ofText text = .ok identifier) : identifier.IsParted := by
  by_cases filled : text = ""
  · subst filled
    cases read
    exact isParted_empty
  · exact ((ofText_eq_ok_iff filled).mp read).2

theorem ofText_text_of_isParted (parted : identifier.IsParted) :
    ofText identifier.text = .ok identifier := by
  by_cases vacant : identifier = empty
  · subst vacant
    exact ofText_empty
  · have filled : identifier.text ≠ "" := fun nothing => vacant (text_eq_empty_iff.mp nothing)
    exact (ofText_eq_ok_iff filled).mpr ⟨toList_text vacant, parted⟩

/-- Identifiers are read from texts with two slashes, and from the empty text. -/
theorem exists_ofText_iff :
    (∃ identifier, ofText text = .ok identifier) ↔ text = "" ∨ 2 ≤ text.toList.count '/' := by
  by_cases filled : text = ""
  · subst filled
    exact iff_of_true ⟨empty, ofText_empty⟩ (.inl rfl)
  · constructor
    · rintro ⟨identifier, read⟩
      rw [((ofText_eq_ok_iff filled).mp read).1]
      exact .inr two_le_count_joined
    · rintro (vacant | slashes)
      · exact absurd vacant filled
      · have present : '/' ∈ text.toList := List.count_pos_iff.mp (by omega)
        obtain ⟨applicationName, rest, first⟩ := Text.exists_cutFirst present
        obtain ⟨whole, unslashed⟩ := Text.cutFirst_eq_some_iff.mp first
        rw [whole, List.count_append, List.count_eq_zero.mpr unslashed, List.count_cons_self]
          at slashes
        have later : '/' ∈ rest := List.count_pos_iff.mp (by omega)
        obtain ⟨resourceType, resourceId, second⟩ := Text.exists_cutFirst later
        obtain ⟨behind, unmarked⟩ := Text.cutFirst_eq_some_iff.mp second
        refine ⟨⟨String.ofList applicationName, String.ofList resourceType,
          String.ofList resourceId⟩, (ofText_eq_ok_iff filled).mpr ⟨?_, ?_, ?_⟩⟩
        · simp [joined, whole, behind]
        · simpa using unslashed
        · simpa using unmarked

theorem ofParts_eq_ok_iff {applicationName resourceType resourceId : String} :
    ofParts applicationName resourceType resourceId = .ok identifier ↔
      identifier = ⟨applicationName, resourceType, resourceId⟩ ∧ identifier.IsParted := by
  unfold ofParts
  constructor
  · intro made
    split at made
    · cases made
    · split at made
      · cases made
      · rename_i unslashed unmarked
        cases Except.ok.inj made
        exact ⟨rfl, unslashed, unmarked⟩
  · rintro ⟨rfl, parted⟩
    rw [if_neg parted.applicationName, if_neg parted.resourceType]

/-- An identifier that cannot be told apart in its text is read back as another one with that
text. -/
theorem exists_ofText_text (identifier : Identifier) : ∃ back, ofText identifier.text = .ok back ∧
    back.text = identifier.text ∧ (back = empty ↔ identifier = empty) := by
  by_cases vacant : identifier = empty
  · subst vacant
    exact ⟨empty, ofText_empty, rfl, Iff.rfl⟩
  · have filled : identifier.text ≠ "" := fun nothing => vacant (text_eq_empty_iff.mp nothing)
    have slashes : 2 ≤ identifier.text.toList.count '/' :=
      toList_text vacant ▸ two_le_count_joined
    obtain ⟨back, read⟩ := exists_ofText_iff.mpr (.inr slashes)
    have whole := ((ofText_eq_ok_iff filled).mp read).1
    rw [toList_text vacant] at whole
    have kept : back ≠ empty := by
      rintro rfl
      exact vacant (joined_eq_slashes_iff.mp whole)
    refine ⟨back, read, ?_, iff_of_false kept vacant⟩
    apply String.toList_inj.mp
    rw [toList_text kept, toList_text vacant, whole]

/-- The text of an identifier is read back as an identifier with that text, and as the same one
exactly if its first two parts hold no slash. -/
theorem reading_undoes_writing (identifier : Identifier) :
    (∃ back, ofText identifier.text = .ok back ∧ back.text = identifier.text ∧
      (back = empty ↔ identifier.isEmpty = true) ∧
      (back = identifier ↔ '/' ∉ identifier.applicationName.toList ∧
        '/' ∉ identifier.resourceType.toList)) ∧
    (((∃ applicationName resourceType resourceId,
          ofParts applicationName resourceType resourceId = .ok identifier) ∨
        ∃ text, ofText text = .ok identifier) →
      ofText identifier.text = .ok identifier) ∧
    ∀ text, (∃ read, ofText text = .ok read) ↔ text = "" ∨ 2 ≤ text.toList.count '/' := by
  obtain ⟨back, read, same, vacant⟩ := exists_ofText_text identifier
  refine ⟨⟨back, read, same, ?_, ?_, ?_⟩, ?_, fun _ => exists_ofText_iff⟩
  · rw [vacant, isEmpty_iff]
  · rintro rfl
    have parted := isParted_of_ofText read
    exact ⟨parted.applicationName, parted.resourceType⟩
  · rintro ⟨unslashed, unmarked⟩
    have again := ofText_text_of_isParted ⟨unslashed, unmarked⟩
    exact Except.ok.inj (read.symm.trans again)
  · rintro (⟨applicationName, resourceType, resourceId, made⟩ | ⟨text, found⟩)
    · exact ofText_text_of_isParted (ofParts_eq_ok_iff.mp made).2
    · exact ofText_text_of_isParted (isParted_of_ofText found)

/-- The text of what is read from a text is that text, unless this is two slashes. -/
theorem text_of_ofText (read : ofText text = .ok identifier) :
    identifier.text = if text = "//" then "" else text := by
  by_cases nothing : text = ""
  · subst nothing
    cases read
    rfl
  · have whole := ((ofText_eq_ok_iff nothing).mp read).1
    by_cases vacant : identifier = empty
    · have slashes : text = "//" := by
        apply String.toList_inj.mp
        rw [whole, joined_eq_slashes_iff.mpr vacant]
        rfl
      rw [if_pos slashes, text_eq_empty_iff.mpr vacant]
    · have differs : text ≠ "//" := by
        rintro rfl
        exact vacant (joined_eq_slashes_iff.mp whole.symm)
      rw [if_neg differs]
      apply String.toList_inj.mp
      rw [toList_text vacant, whole]

/-- Identifiers that can be told apart in their texts are the same where their texts are. -/
theorem eq_iff_text_eq {another : Identifier} (parted : identifier.IsParted)
    (others : another.IsParted) : identifier = another ↔ identifier.text = another.text := by
  constructor
  · rintro rfl
    rfl
  · intro same
    have read := ofText_text_of_isParted parted
    rw [same] at read
    exact Except.ok.inj (read.symm.trans (ofText_text_of_isParted others))

/-- Every text that is read is the text of what is read from it, but for two slashes, which are
read as the empty identifier. -/
theorem text_is_canonical_but_for_slashes {other : String} {another : Identifier}
    (read : ofText text = .ok identifier) (readOther : ofText other = .ok another) :
    (text ≠ "//" → identifier.text = text) ∧
    (text = "//" → identifier = empty ∧ identifier.text = "") ∧
    (identifier = another ↔
      text = other ∨ text = "" ∧ other = "//" ∨ text = "//" ∧ other = "") ∧
    (identifier = another ↔ identifier.text = another.text) := by
  have written := text_of_ofText read
  have same := eq_iff_text_eq (isParted_of_ofText read) (isParted_of_ofText readOther)
  refine ⟨?_, ?_, ?_, same⟩
  · intro differs
    rw [written, if_neg differs]
  · intro slashes
    rw [if_pos slashes] at written
    exact ⟨text_eq_empty_iff.mp written, written⟩
  · rw [same, written, text_of_ofText readOther]
    grind

/-- A resource ID that holds slashes itself is told from the empty identifier, however that is
written. -/
theorem nested_text_is_canonical :
    ofText "contacts/profiles/team/42" = .ok ⟨"contacts", "profiles", "team/42"⟩ ∧
      ofText "//" = .ok empty ∧
      Identifier.text ⟨"contacts", "profiles", "team/42"⟩ = "contacts/profiles/team/42" ∧
      (⟨"contacts", "profiles", "team/42"⟩ : Identifier) ≠ empty := by
  have nested : ofText "contacts/profiles/team/42" =
      .ok ⟨"contacts", "profiles", "team/42"⟩ := rfl
  have slashes : ofText "//" = .ok empty := rfl
  obtain ⟨kept, -, apart, -⟩ := text_is_canonical_but_for_slashes nested slashes
  refine ⟨nested, slashes, kept (by decide), ?_⟩
  intro same
  exact absurd (apart.mp same) (by decide)

/-- Two slashes are read as an identifier whose text is another one, which is read as the same
identifier. -/
theorem slashes_are_no_canonical_text : ∃ identifier, ofText "//" = .ok identifier ∧
    identifier.text ≠ "//" ∧ ofText identifier.text = .ok identifier :=
  ⟨empty, rfl, by decide, ofText_empty⟩

end Identifier

end CallJournal
