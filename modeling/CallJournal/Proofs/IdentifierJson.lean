import CallJournal.Proofs.IdentifierText
import CallJournal.Proofs.JsonSpelling

namespace CallJournal

namespace Json

def IsSpace (char : Char) : Prop := char ∈ [' ', '\t', '\n', '\r']

/-- A text that is one JSON string, apart from white space around it. -/
def IsStringText (content : String) (text : List Char) : Prop :=
  ∃ before body after, text = before ++ '"' :: body ++ '"' :: after ∧
    Spells content.toList body ∧ (∀ char ∈ before, IsSpace char) ∧ ∀ char ∈ after, IsSpace char

end Json

open Json

namespace Skeleton

variable {text rest : List Char} {char : Char}

theorem isSpace_iff : isSpace char = true ↔ IsSpace char := by
  simp only [isSpace, IsSpace, Bool.or_eq_true, beq_iff_eq, List.mem_cons, List.not_mem_nil,
    or_false]
  grind

theorem skipSpace_eq_nil_iff : skipSpace text = [] ↔ ∀ char ∈ text, IsSpace char := by
  induction text with
  | nil => simp [skipSpace]
  | cons char rest ih =>
    by_cases space : isSpace char = true
    · rw [skipSpace, List.dropWhile_cons_of_pos space, List.forall_mem_cons, ← isSpace_iff]
      exact ih.trans (and_iff_right space).symm
    · rw [skipSpace, List.dropWhile_cons_of_neg space, List.forall_mem_cons, ← isSpace_iff]
      simp [space]

theorem skipSpace_eq_cons_iff (visible : ¬ IsSpace char) : skipSpace text = char :: rest ↔
    ∃ before, text = before ++ char :: rest ∧ ∀ char ∈ before, IsSpace char := by
  constructor
  · intro skipped
    refine ⟨text.takeWhile isSpace, ?_, ?_⟩
    · rw [← skipped, skipSpace, List.takeWhile_append_dropWhile]
    · intro char among
      exact isSpace_iff.mp (List.all_eq_true.mp List.all_takeWhile char among)
  · rintro ⟨before, rfl, spaces⟩
    have blank : ∀ char ∈ before, isSpace char = true := fun char among =>
      isSpace_iff.mpr (spaces char among)
    rw [skipSpace, List.dropWhile_append_of_pos blank]
    exact List.dropWhile_cons_of_neg fun space => visible (isSpace_iff.mp space)

end Skeleton

namespace Identifier

variable {identifier : Identifier} {text : String}

/-- Identifiers are read from JSON strings whose content is the text of one. -/
theorem ofJsonText_eq_ok_iff : ofJsonText text = .ok identifier ↔
    ∃ content, IsStringText content text.toList ∧ ofText content = .ok identifier := by
  have quote : ¬ IsSpace '"' := by
    rw [IsSpace]
    decide
  constructor
  · intro read
    unfold ofJsonText at read
    split at read
    · rename_i rest opened
      split at read
      · cases read
      · rename_i pieces after found
        split at read
        · cases read
        · rename_i content joined
          split at read
          · cases read
          · rename_i made
            split at read
            · rename_i closed
              cases read
              obtain ⟨before, whole, front⟩ := (Skeleton.skipSpace_eq_cons_iff quote).mp opened
              obtain ⟨body, spells, rfl⟩ := Skeleton.exists_pieces_iff.mp ⟨pieces, found, joined⟩
              have back := Skeleton.skipSpace_eq_nil_iff.mp (List.isEmpty_iff.mp closed)
              refine ⟨content, ⟨before, body, after, ?_, spells, front, back⟩, made⟩
              rw [whole, List.append_assoc, List.cons_append]
            · cases read
    · cases read
  · rintro ⟨content, ⟨before, body, after, whole, spells, front, back⟩, made⟩
    obtain ⟨pieces, found, joined⟩ : ∃ pieces,
        Skeleton.stringBody (body ++ '"' :: after) = some (pieces, after) ∧
          Piece.text? pieces = some content :=
      Skeleton.exists_pieces_iff.mpr ⟨body, spells, rfl⟩
    have opened : Skeleton.skipSpace text.toList = '"' :: (body ++ '"' :: after) := by
      apply (Skeleton.skipSpace_eq_cons_iff quote).mpr
      exact ⟨before, by rw [whole, List.append_assoc, List.cons_append], front⟩
    have closed : (Skeleton.skipSpace after).isEmpty = true :=
      List.isEmpty_iff.mpr (Skeleton.skipSpace_eq_nil_iff.mpr back)
    simp only [ofJsonText, opened, found, joined, made, closed, if_true]

theorem toList_jsonText (identifier : Identifier) :
    identifier.jsonText.toList =
      '"' :: identifier.text.toList.flatMap escapedChar ++ ['"'] := by
  rw [jsonText, Json.text, Json.chars, String.toList_ofList, stringLiteral]

theorem ofJsonText_jsonText (identifier : Identifier) :
    ofJsonText identifier.jsonText = (ofText identifier.text).mapError .noIdentifier := by
  have opened : Skeleton.skipSpace identifier.jsonText.toList =
      '"' :: (identifier.text.toList.flatMap escapedChar ++ ['"']) := by
    rw [toList_jsonText]
    rfl
  simp only [ofJsonText, opened, Skeleton.stringBody_escaped, Piece.text?_pieceOf]
  cases ofText identifier.text with
  | error cause => rfl
  | ok back => rfl

/-- An identifier is written as one string literal of its text. A JSON text is read exactly if it
is one string, however spelled, of the text of an identifier. -/
theorem json_loses_nothing (identifier : Identifier) :
    (∃ body, identifier.jsonText.toList = '"' :: body ++ ['"'] ∧
      Spells identifier.text.toList body) ∧
    ofJsonText identifier.jsonText = (ofText identifier.text).mapError .noIdentifier ∧
    ('/' ∉ identifier.applicationName.toList ∧ '/' ∉ identifier.resourceType.toList →
      ofJsonText identifier.jsonText = .ok identifier) ∧
    ∀ text read, ofJsonText text = .ok read ↔
      ∃ content, IsStringText content text.toList ∧ ofText content = .ok read := by
  refine ⟨⟨_, toList_jsonText identifier, spells_escaped _⟩, ofJsonText_jsonText identifier, ?_,
    fun _ _ => ofJsonText_eq_ok_iff⟩
  rintro ⟨unslashed, unmarked⟩
  rw [ofJsonText_jsonText, ofText_text_of_isParted ⟨unslashed, unmarked⟩]
  rfl

end Identifier

end CallJournal
