import CallJournal.Proofs.ForwardedHeader
import CallJournal.Shared

namespace CallJournal.Metadata

variable {metadata before after : Metadata} {key value asked : String}

/-- Texts that a value can be: they have no control characters but tabs. -/
def IsSettableText (value : String) : Prop :=
  ∀ octet ∈ octetsOf value, octet = 0x09 ∨ 0x20 ≤ octet ∧ octet ≤ 0x7e ∨ 0x80 ≤ octet

/-- Texts that can be read where they arrive: they are printable ASCII and tabs. -/
def IsReadableText (value : String) : Prop :=
  ∀ octet ∈ octetsOf value, octet = 0x09 ∨ 0x20 ≤ octet ∧ octet ≤ 0x7e

/-- A key has one value, and those of all other keys are what they were before. -/
structure Sets (before : Metadata) (key value : String) (after : Metadata) : Prop where
  own : after.values (Text.lowered key) = [octetsOf value]
  others : ∀ other, other ≠ Text.lowered key → after.values other = before.values other

theorem all_isSettable_iff : (octetsOf value).all isSettable = true ↔ IsSettableText value := by
  simp only [List.all_eq_true, isSettable_iff, IsSettableText]

theorem IsReadableText.isSettableText (readable : IsReadableText value) : IsSettableText value := by
  intro octet member
  rcases readable octet member with tab | printable
  · exact .inl tab
  · exact .inr (.inl printable)

theorem setMetadata_of_accepted (shared : Shared) (metadata : Metadata) (valid : IsTextKey key)
    (settable : IsSettableText value) :
    (shared.setMetadata metadata key value).1 =
      metadata.replace (Text.lowered key) (octetsOf value) := by
  have stored := textKey?_eq_some_iff.mpr ⟨valid, rfl⟩
  rw [Shared.setMetadata, set_of_settable metadata stored (all_isSettable_iff.mpr settable)]

theorem setMetadata_of_refused (shared : Shared) (metadata : Metadata)
    (refused : ¬ (IsTextKey key ∧ IsSettableText value)) :
    (shared.setMetadata metadata key value).1 = metadata := by
  unfold Shared.setMetadata
  cases outcome : metadata.set key value with
  | error refusal => rfl
  | ok changed =>
    unfold set at outcome
    split at outcome
    · cases outcome
    · rename_i folded stored
      split at outcome
      · rename_i settable
        have valid := (textKey?_eq_some_iff.mp stored).1
        exact absurd ⟨valid, all_isSettable_iff.mp settable⟩ refused
      · cases outcome

theorem sets_replace (metadata : Metadata) (key value : String) :
    Sets metadata key value (metadata.replace (Text.lowered key) (octetsOf value)) where
  own := values_replace_same metadata (Text.lowered key) (octetsOf value)
  others _ differs := values_replace_other metadata (octetsOf value) differs

theorem text?_congr (same : after.values (Text.lowered key) = before.values (Text.lowered key)) :
    after.text? key = before.text? key := by
  cases stored : textKey? key with
  | none => simp only [text?, first?, stored, Option.bind_none]
  | some folded =>
    obtain rfl := (textKey?_eq_some_iff.mp stored).2
    rw [text?, text?, first?_eq_head? after stored, first?_eq_head? before stored, same]

theorem lowered_forwardedMark (asked : String) :
    Text.lowered (forwardedMark ++ asked) = forwardedMark ++ Text.lowered asked := by
  have mark : Text.lowered forwardedMark = forwardedMark := by decide
  rw [Text.lowered_append, mark]

/-- A header whose two keys have kept their values is carried as before. -/
theorem Sets.forwarded?_other (sets : Sets before key value after)
    (plain : Text.lowered asked ≠ Text.lowered key)
    (marked : forwardedMark ++ Text.lowered asked ≠ Text.lowered key) :
    after.forwarded? asked = before.forwarded? asked := by
  have plainText : after.text? (Text.lowered asked) = before.text? (Text.lowered asked) := by
    apply text?_congr
    rw [Text.lowered_lowered]
    exact sets.others _ plain
  have markedText : after.text? (forwardedMark ++ Text.lowered asked) =
      before.text? (forwardedMark ++ Text.lowered asked) := by
    apply text?_congr
    rw [lowered_forwardedMark, Text.lowered_lowered]
    exact sets.others _ marked
  rw [forwarded?, forwarded?, plainText, markedText]

/-- A readable text that was set is found under its key, whatever the marked key has. -/
theorem Sets.forwarded?_own (sets : Sets before key value after) (valid : IsTextKey key)
    (readable : IsReadableText value) : after.forwarded? key = some value := by
  apply forwarded?_eq_some_iff.mpr
  apply Carries.plain
  exact ⟨valid, by rw [sets.own, List.head?_cons], all_isReadable_iff.mpr readable⟩

theorem forwarded?_congr_case {other : String} (metadata : Metadata)
    (same : Text.lowered other = Text.lowered asked) :
    metadata.forwarded? other = metadata.forwarded? asked := by
  rw [forwarded?, forwarded?, same]

/-- Where the plain key leads with no text, a header is what its marked key leads with. -/
theorem forwarded?_of_unread (unread : ¬ ∃ text, metadata.LeadsWith asked text) :
    metadata.forwarded? asked = metadata.text? (forwardedMark ++ asked) := by
  apply Option.ext
  intro text
  rw [forwarded?_eq_some_iff, text?_eq_some_iff_leadsWith]
  constructor
  · intro carried
    cases carried with
    | plain leads => exact absurd ⟨text, leads⟩ unread
    | marked _ leads => exact leads
  · intro leads
    exact .marked (fun other found => unread ⟨other, found⟩) leads

/-- The marked form of a key that holds something can keep texts only if the key itself can. -/
theorem isTextKey_of_forwardedMark (filled : asked ≠ "")
    (valid : IsTextKey (forwardedMark ++ asked)) : IsTextKey asked where
  filled := filled
  short := by
    have longer := valid.short
    rw [String.toList_append, List.length_append] at longer
    exact Nat.le_trans (Nat.le_add_left _ _) longer
  chars char member := valid.chars char (by simp [member])
  ending ends := by
    apply valid.ending
    rw [lowered_forwardedMark, String.toList_append]
    exact ends.trans (List.suffix_append _ _)

/-- A key that can keep no texts carries nothing, plain or marked. -/
theorem forwarded?_of_not_isTextKey (filled : asked ≠ "") (invalid : ¬ IsTextKey asked) :
    metadata.forwarded? asked = none := by
  have unread : ¬ ∃ text, metadata.LeadsWith asked text := fun ⟨_, leads⟩ => invalid leads.valid
  rw [forwarded?_of_unread unread, Option.eq_none_iff_forall_ne_some]
  intro text found
  have leads := text?_eq_some_iff_leadsWith.mp found
  exact invalid (isTextKey_of_forwardedMark filled leads.valid)

/-- A refused key or text changes nothing; any other becomes the one value of its key. Headers are
carried in any letter case, by their plain key first, and as before unless one of their keys was
set. -/
theorem set_and_lookup_obey_map_laws (shared : Shared) (metadata : Metadata) (key value : String) :
    let after := (shared.setMetadata metadata key value).1
    (¬ (IsTextKey key ∧ IsSettableText value) → after = metadata) ∧
    (IsTextKey key ∧ IsSettableText value → Sets metadata key value after) ∧
    (IsTextKey key ∧ IsReadableText value → after.forwarded? key = some value) ∧
    (∀ asked, Text.lowered asked ≠ Text.lowered key →
      forwardedMark ++ Text.lowered asked ≠ Text.lowered key →
        after.forwarded? asked = metadata.forwarded? asked) ∧
    ∀ (held : Metadata) (asked : String),
      (∀ other, Text.lowered other = Text.lowered asked →
        held.forwarded? other = held.forwarded? asked) ∧
      (∀ text, held.LeadsWith asked text → held.forwarded? asked = some text) ∧
      ((¬ ∃ text, held.LeadsWith asked text) →
        held.forwarded? asked = held.text? (forwardedMark ++ asked)) ∧
      (asked ≠ "" → ¬ IsTextKey asked → held.forwarded? asked = none) := by
  intro after
  have accepted (valid : IsTextKey key) (settable : IsSettableText value) :
      Sets metadata key value after := by
    rw [show after = _ from setMetadata_of_accepted shared metadata valid settable]
    exact sets_replace metadata key value
  have refused (stays : ¬ (IsTextKey key ∧ IsSettableText value)) : after = metadata :=
    setMetadata_of_refused shared metadata stays
  refine ⟨refused, ?_, ?_, ?_, ?_⟩
  · rintro ⟨valid, settable⟩
    exact accepted valid settable
  · rintro ⟨valid, readable⟩
    exact (accepted valid readable.isSettableText).forwarded?_own valid readable
  · intro asked plain marked
    by_cases changes : IsTextKey key ∧ IsSettableText value
    · exact (accepted changes.1 changes.2).forwarded?_other plain marked
    · rw [refused changes]
  · intro held asked
    refine ⟨fun _ => held.forwarded?_congr_case, ?_, forwarded?_of_unread,
      forwarded?_of_not_isTextKey⟩
    intro text leads
    exact forwarded?_eq_some_iff.mpr (.plain leads)

end CallJournal.Metadata
