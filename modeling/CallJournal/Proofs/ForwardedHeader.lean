import CallJournal.Metadata

namespace CallJournal

namespace Text

@[simp]
theorem lowered_lowered (text : String) : lowered (lowered text) = lowered text := by
  have folded : Char.toLower ∘ Char.toLower = Char.toLower := funext toLower_toLower
  rw [lowered, toList_lowered, List.map_map, folded, lowered]

theorem lowered_append (front back : String) :
    lowered (front ++ back) = lowered front ++ lowered back := by
  simp [lowered, String.ofList_append]

end Text

namespace Metadata

variable {metadata : Metadata} {key text : String}

/-- Keys of key characters, at least one and not too many, without the ending of keys for other
values than texts. -/
structure IsTextKey (key : String) : Prop where
  filled : key ≠ ""
  short : key.toList.length ≤ 65535
  chars : ∀ char ∈ key.toList, isKeyChar char = true
  ending : ¬ binaryEnding <:+ (Text.lowered key).toList

theorem isKeyChar_toLower (char : Char) : isKeyChar char.toLower = isKeyChar char := by
  have every : ∀ code < 128,
      isKeyChar (Char.ofNat code).toLower = isKeyChar (Char.ofNat code) := by
    decide
  rcases Text.toLower_eq_or_toNat_lt char with same | small
  · rw [same]
  · have folded := every char.toNat small
    rwa [Char.ofNat_toNat] at folded

theorem textKey?_eq_some_iff {folded : String} :
    textKey? key = some folded ↔ IsTextKey key ∧ folded = Text.lowered key := by
  have ends (folded : String) : (!binaryEnding.isSuffixOf folded.toList) = true ↔
      ¬ binaryEnding <:+ folded.toList := by
    rw [Bool.not_eq_true', Bool.eq_false_iff, ne_eq, List.isSuffixOf_iff_suffix]
  rw [textKey?, Option.filter_eq_some_iff, storedKey?, ends]
  constructor
  · rintro ⟨stored, ending⟩
    split at stored
    · cases stored
    · rename_i valid
      obtain rfl := Option.some.inj stored
      simp only [Bool.or_eq_true, not_or, decide_eq_true_eq, Nat.not_lt, Bool.not_eq_true,
        Bool.not_eq_false', List.isEmpty_iff, String.toList_eq_nil_iff, List.all_eq_true] at valid
      exact ⟨⟨valid.1.1, valid.1.2, valid.2, ending⟩, rfl⟩
  · rintro ⟨⟨filled, short, chars, ending⟩, rfl⟩
    have valid : ¬ (key.toList.isEmpty || maxKeyLength < key.toList.length ||
        !key.toList.all isKeyChar) = true := by
      simpa [filled, Nat.not_lt.mpr short, maxKeyLength] using chars
    rw [if_neg valid]
    exact ⟨rfl, ending⟩

theorem isTextKey_lowered_iff : IsTextKey (Text.lowered key) ↔ IsTextKey key := by
  have filled : Text.lowered key ≠ "" ↔ key ≠ "" := by
    simp [← String.toList_eq_nil_iff, Text.toList_lowered]
  have chars : (∀ char ∈ (Text.lowered key).toList, isKeyChar char = true) ↔
      ∀ char ∈ key.toList, isKeyChar char = true := by
    simp [Text.toList_lowered, isKeyChar_toLower]
  have length : (Text.lowered key).toList.length = key.toList.length := by
    rw [Text.toList_lowered, List.length_map]
  constructor
  · intro valid
    exact ⟨filled.mp valid.filled, length ▸ valid.short, chars.mp valid.chars,
      Text.lowered_lowered key ▸ valid.ending⟩
  · intro valid
    exact ⟨filled.mpr valid.filled, length.symm ▸ valid.short, chars.mpr valid.chars,
      (Text.lowered_lowered key).symm ▸ valid.ending⟩

/-- The first value under a key is a text that can be read. -/
structure LeadsWith (metadata : Metadata) (key text : String) : Prop where
  valid : IsTextKey key
  first : (metadata.values (Text.lowered key)).head? = some (octetsOf text)
  readable : (octetsOf text).all isReadable = true

theorem text?_eq_some_iff_leadsWith : metadata.text? key = some text ↔
    metadata.LeadsWith key text := by
  rw [text?_eq_some_iff]
  constructor
  · rintro ⟨first, readable⟩
    obtain ⟨folded, valid, head⟩ := Option.bind_eq_some_iff.mp first
    obtain ⟨shaped, rfl⟩ := textKey?_eq_some_iff.mp valid
    exact ⟨shaped, head, readable⟩
  · rintro ⟨valid, first, readable⟩
    rw [first?_eq_head? _ (textKey?_eq_some_iff.mpr ⟨valid, rfl⟩)]
    exact ⟨first, readable⟩

theorem leadsWith_congr {other : String} (same : Text.lowered key = Text.lowered other) :
    metadata.LeadsWith key text ↔ metadata.LeadsWith other text := by
  have valid : IsTextKey key ↔ IsTextKey other := by
    rw [← isTextKey_lowered_iff, same, isTextKey_lowered_iff]
  constructor
  · rintro ⟨shaped, first, readable⟩
    exact ⟨valid.mp shaped, same ▸ first, readable⟩
  · rintro ⟨shaped, first, readable⟩
    exact ⟨valid.mpr shaped, same.symm ▸ first, readable⟩

/-- The text that a header carries: the one that its plain key leads with, or if there is none the
one that its marked key leads with. -/
inductive Carries (metadata : Metadata) (key : String) : String → Prop where
  | plain {text : String} (leads : metadata.LeadsWith key text) : Carries metadata key text
  | marked {text : String} (unread : ∀ other, ¬ metadata.LeadsWith key other)
      (leads : metadata.LeadsWith (forwardedMark ++ key) text) : Carries metadata key text

theorem forwarded?_eq_some_iff :
    metadata.forwarded? key = some text ↔ metadata.Carries key text := by
  have mark : Text.lowered forwardedMark = forwardedMark := by decide
  have plain (text : String) :
      metadata.text? (Text.lowered key) = some text ↔ metadata.LeadsWith key text :=
    text?_eq_some_iff_leadsWith.trans (leadsWith_congr (Text.lowered_lowered key))
  have marked (text : String) : metadata.text? (forwardedMark ++ Text.lowered key) = some text ↔
      metadata.LeadsWith (forwardedMark ++ key) text := by
    apply text?_eq_some_iff_leadsWith.trans (leadsWith_congr _)
    rw [Text.lowered_append, Text.lowered_append, Text.lowered_lowered]
  rw [forwarded?, Option.or_eq_some_iff, plain, marked, Option.eq_none_iff_forall_ne_some]
  simp only [ne_eq, plain]
  constructor
  · rintro (leads | ⟨unread, leads⟩)
    · exact .plain leads
    · exact .marked unread leads
  · rintro (leads | ⟨unread, leads⟩)
    · exact .inl leads
    · exact .inr ⟨unread, leads⟩

end Metadata

end CallJournal
