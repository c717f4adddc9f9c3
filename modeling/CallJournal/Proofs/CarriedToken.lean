import CallJournal.Token.Extraction

namespace CallJournal

namespace Text

variable {gap other : Char → Prop} {text token : List Char}

/-- What is left of a text without the characters of one kind around it. -/
structure Strips (gap : Char → Prop) (text token : List Char) : Prop where
  around : ∃ before after, text = before ++ token ++ after ∧
    (∀ char ∈ before, gap char) ∧ ∀ char ∈ after, gap char
  first : ∀ char, token.head? = some char → ¬ gap char
  last : ∀ char, token.getLast? = some char → ¬ gap char

/-- Whether something is left depends on whether there is another character at all. -/
theorem Strips.filled_iff (stripped : Strips gap text token) :
    token ≠ [] ↔ ∃ char ∈ text, ¬ gap char := by
  obtain ⟨before, after, rfl, front, back⟩ := stripped.around
  constructor
  · intro filled
    obtain ⟨char, rest, rfl⟩ := List.exists_cons_of_ne_nil filled
    exact ⟨char, by simp, stripped.first char rfl⟩
  · rintro ⟨char, among, visible⟩ rfl
    simp only [List.append_nil, List.mem_append] at among
    rcases among with early | late
    · exact visible (front char early)
    · exact visible (back char late)

theorem Strips.congr (same : ∀ char ∈ text, gap char ↔ other char)
    (stripped : Strips gap text token) : Strips other text token := by
  obtain ⟨before, after, rfl, front, back⟩ := stripped.around
  have inside {char : Char} (among : char ∈ token) : char ∈ before ++ token ++ after :=
    List.mem_append_left _ (List.mem_append_right _ among)
  refine ⟨⟨before, after, rfl, ?_, ?_⟩, ?_, ?_⟩
  · intro char among
    exact (same char (List.mem_append_left _ (List.mem_append_left _ among))).mp (front char among)
  · intro char among
    exact (same char (List.mem_append_right _ among)).mp (back char among)
  · intro char found
    rw [← same char (inside (List.mem_of_head? found))]
    exact stripped.first char found
  · intro char found
    rw [← same char (inside (List.mem_of_getLast? found))]
    exact stripped.last char found

theorem dropWhile_isBlank_append {front rest : List Char}
    (blank : ∀ char ∈ front, isBlank char = true)
    (visible : ∀ char, rest.head? = some char → ¬ isBlank char = true) :
    (front ++ rest).dropWhile isBlank = rest := by
  rw [List.dropWhile_append_of_pos blank]
  cases rest with
  | nil => rfl
  | cons char _ => exact List.dropWhile_cons_of_neg (visible char rfl)

theorem not_isBlank_of_head?_dropWhile {char : Char}
    (found : (text.dropWhile isBlank).head? = some char) : ¬ isBlank char = true := by
  have visible := List.head?_dropWhile_not isBlank text
  rw [found] at visible
  exact Bool.not_eq_true _ ▸ visible

theorem strips_trim (text : List Char) :
    Strips (isBlank · = true) text (trimEnd (trimStart text)) := by
  have blank (chars : List Char) : ∀ char ∈ chars.takeWhile isBlank, isBlank char = true :=
    List.all_eq_true.mp List.all_takeWhile
  have front : text.takeWhile isBlank ++ trimStart text = text := List.takeWhile_append_dropWhile
  have back : trimEnd (trimStart text) ++ ((trimStart text).reverse.takeWhile isBlank).reverse =
      trimStart text := by
    rw [trimEnd, ← List.reverse_append, List.takeWhile_append_dropWhile, List.reverse_reverse]
  constructor
  · refine ⟨text.takeWhile isBlank, ((trimStart text).reverse.takeWhile isBlank).reverse, ?_,
      blank text, ?_⟩
    · rw [List.append_assoc, back, front]
    · intro char among
      exact blank _ char (List.mem_reverse.mp among)
  · intro char found
    have first : (trimStart text).head? = some char := by
      rw [← back, List.head?_append, found, Option.some_or]
    exact not_isBlank_of_head?_dropWhile first
  · intro char found
    rw [trimEnd, List.getLast?_reverse] at found
    exact not_isBlank_of_head?_dropWhile found

/-- There is one way to strip a text of its blanks. -/
theorem trim_of_strips (stripped : Strips (isBlank · = true) text token) :
    trimEnd (trimStart text) = token := by
  obtain ⟨before, after, rfl, front, back⟩ := stripped.around
  by_cases vacant : token = []
  · subst vacant
    have blank : ∀ char ∈ before ++ [] ++ after, isBlank char = true := by
      intro char among
      rw [List.append_nil, List.mem_append] at among
      exact among.elim (front char) (back char)
    have nothing : (before ++ [] ++ after ++ []).dropWhile isBlank = [] :=
      dropWhile_isBlank_append blank nofun
    rw [List.append_nil] at nothing
    rw [trimStart, nothing]
    rfl
  · have begins : ∀ char, (token ++ after).head? = some char → ¬ isBlank char = true := by
      intro char found
      obtain ⟨head, tail, rfl⟩ := List.exists_cons_of_ne_nil vacant
      exact stripped.first char found
    have backwards : ∀ char ∈ after.reverse, isBlank char = true := fun char among =>
      back char (List.mem_reverse.mp among)
    have ends : ∀ char, token.reverse.head? = some char → ¬ isBlank char = true := by
      intro char found
      rw [List.head?_reverse] at found
      exact stripped.last char found
    rw [List.append_assoc, trimStart, dropWhile_isBlank_append front begins, trimEnd,
      List.reverse_append, dropWhile_isBlank_append backwards ends, List.reverse_reverse]

theorem trim_eq_iff_strips {text token : String} :
    trim text = token ↔ Strips (isBlank · = true) text.toList token.toList := by
  constructor
  · rintro rfl
    rw [trim, String.toList_ofList]
    exact strips_trim text.toList
  · intro stripped
    rw [trim, trim_of_strips stripped, String.ofList_toList]

end Text

namespace Metadata

/-- A readable text has only characters of ASCII in it: those of its octets. -/
theorem exists_octet_of_readable {text : String} (readable : (octetsOf text).all isReadable = true)
    {char : Char} (among : char ∈ text.toList) :
    ∃ octet, isReadable octet = true ∧ char = Char.ofNat octet.toNat := by
  have read := readable?_eq_some_iff.mpr ⟨rfl, readable⟩
  rw [readable?, if_pos readable, Option.some.injEq] at read
  rw [← read, String.toList_ofList, List.mem_map] at among
  obtain ⟨octet, held, rfl⟩ := among
  exact ⟨octet, List.all_eq_true.mp readable octet held, rfl⟩

end Metadata

namespace Token

variable {metadata : Metadata} {scheme rest token : String}

/-- The characters that may stand around a token. -/
def IsGap (char : Char) : Prop := char = ' ' ∨ char = '\t'

/-- In readable text, spaces and tabs are all the blanks there are. -/
theorem isBlank_iff_isGap {octet : UInt8} (readable : Metadata.isReadable octet = true) :
    Text.isBlank (Char.ofNat octet.toNat) = true ↔ IsGap (Char.ofNat octet.toNat) := by
  have every : ∀ code < 127, code = 9 ∨ 32 ≤ code →
      (Text.isBlank (Char.ofNat code) = true ↔
        Char.ofNat code = ' ' ∨ Char.ofNat code = '\t') := by
    decide
  rcases Metadata.isReadable_iff.mp readable with rfl | ⟨above, below⟩
  · exact every 9 (by decide) (.inl rfl)
  · have low : 32 ≤ octet.toNat := UInt8.le_iff_toNat_le.mp above
    have high : octet.toNat ≤ 126 := UInt8.le_iff_toNat_le.mp below
    exact every octet.toNat (Nat.lt_succ_of_le high) (.inr low)

/-- The first authorization value is readable; `scheme` stands before its first space and `rest`
behind it. -/
structure Presents (metadata : Metadata) (scheme rest : String) : Prop where
  first : (metadata.values "authorization").head? = some (octetsOf (scheme ++ " " ++ rest))
  readable : ∀ octet ∈ octetsOf (scheme ++ " " ++ rest),
    octet = 0x09 ∨ 0x20 ≤ octet ∧ octet ≤ 0x7e
  uncut : ' ' ∉ scheme.toList

/-- The schemes that tokens stand behind, in any letter case. -/
def IsScheme (scheme : String) : Prop :=
  Text.lowered scheme = "bearer" ∨ Text.lowered scheme = "token"

instance (scheme : String) : Decidable (IsScheme scheme) :=
  inferInstanceAs (Decidable (_ ∨ _))

theorem isScheme_iff :
    (schemes.any fun accepted => Text.sameFolded accepted scheme) = true ↔ IsScheme scheme := by
  have bearer : Text.lowered "bearer" = "bearer" := by decide
  have token : Text.lowered "token" = "token" := by decide
  simp only [schemes, List.any_cons, List.any_nil, Bool.or_false, Bool.or_eq_true,
    Text.sameFolded_iff, bearer, token, IsScheme]
  rw [eq_comm, @eq_comm _ "token"]

theorem presents_iff :
    ((metadata.text? authorizationHeader).bind fun value => Text.cutFirst ' ' value.toList) =
      some (scheme.toList, rest.toList) ↔ Presents metadata scheme rest := by
  have key : Metadata.textKey? authorizationHeader = some authorizationHeader := by decide
  have first := metadata.first?_eq_head? key
  constructor
  · intro found
    obtain ⟨value, text, cut⟩ := Option.bind_eq_some_iff.mp found
    obtain ⟨head, readable⟩ := Metadata.text?_eq_some_iff.mp text
    obtain ⟨whole, uncut⟩ := Text.cutFirst_eq_some_iff.mp cut
    have same : value = scheme ++ " " ++ rest := by
      apply String.toList_inj.mp
      simpa using whole
    subst same
    exact ⟨first ▸ head, Metadata.all_isReadable_iff.mp readable, uncut⟩
  · rintro ⟨head, readable, uncut⟩
    have text := Metadata.text?_eq_some_iff.mpr
      ⟨first.trans head, Metadata.all_isReadable_iff.mpr readable⟩
    have cut := Text.cutFirst_append rest.toList uncut
    have whole : (scheme ++ " " ++ rest).toList = scheme.toList ++ ' ' :: rest.toList := by simp
    rw [text, Option.bind_some, whole, cut]

theorem ofMetadata_of_presents (presented : Presents metadata scheme rest) :
    ofMetadata metadata =
      if IsScheme scheme then
        if Text.trim rest = "" then .error .missingToken else .ok (Text.trim rest)
      else .error (.unsupportedScheme scheme) := by
  rw [ofMetadata, presents_iff.mpr presented]
  simp only [String.ofList_toList]
  by_cases known : IsScheme scheme
  · simp [isScheme_iff.mpr known, known]
  · have unknown := Bool.eq_false_iff.mpr fun accepted => known (isScheme_iff.mp accepted)
    simp only [unknown, known, Bool.not_false, if_true, if_false]

theorem ofMetadata_of_silent (silent : ¬ ∃ scheme rest, Presents metadata scheme rest) :
    ofMetadata metadata = .error .missingToken := by
  unfold ofMetadata
  split
  · rfl
  · rename_i scheme rest found
    have presented : Presents metadata (String.ofList scheme) (String.ofList rest) := by
      apply presents_iff.mp
      rw [String.toList_ofList, String.toList_ofList, found]
    exact absurd ⟨_, _, presented⟩ silent

theorem Presents.trim_eq_iff (presented : Presents metadata scheme rest) :
    Text.trim rest = token ↔ Text.Strips IsGap rest.toList token.toList := by
  have same : ∀ char ∈ rest.toList, Text.isBlank char = true ↔ IsGap char := by
    intro char among
    have inside : char ∈ (scheme ++ " " ++ rest).toList := by simp [among]
    obtain ⟨octet, readable, rfl⟩ :=
      Metadata.exists_octet_of_readable (Metadata.all_isReadable_iff.mpr presented.readable) inside
    exact isBlank_iff_isGap readable
  rw [Text.trim_eq_iff_strips]
  constructor
  · exact Text.Strips.congr same
  · exact Text.Strips.congr fun char among => (same char among).symm

theorem ofMetadata_eq_ok_iff_presents : ofMetadata metadata = .ok token ↔
    ∃ scheme rest, Presents metadata scheme rest ∧ IsScheme scheme ∧
      Text.trim rest = token ∧ token ≠ "" := by
  constructor
  · intro read
    by_cases spoken : ∃ scheme rest, Presents metadata scheme rest
    · obtain ⟨scheme, rest, presented⟩ := spoken
      rw [ofMetadata_of_presents presented] at read
      split at read
      · rename_i known
        split at read
        · cases read
        · rename_i filled
          cases read
          exact ⟨scheme, rest, presented, known, rfl, filled⟩
      · cases read
    · rw [ofMetadata_of_silent spoken] at read
      cases read
  · rintro ⟨scheme, rest, presented, known, rfl, filled⟩
    rw [ofMetadata_of_presents presented, if_pos known, if_neg filled]

theorem ofMetadata_eq_unsupported_iff : ofMetadata metadata = .error (.unsupportedScheme scheme) ↔
    (∃ rest, Presents metadata scheme rest) ∧ ¬ IsScheme scheme := by
  constructor
  · intro read
    by_cases spoken : ∃ scheme rest, Presents metadata scheme rest
    · obtain ⟨another, rest, presented⟩ := spoken
      rw [ofMetadata_of_presents presented] at read
      split at read
      · split at read <;> cases read
      · rename_i unknown
        cases read
        exact ⟨⟨rest, presented⟩, unknown⟩
    · rw [ofMetadata_of_silent spoken] at read
      cases read
  · rintro ⟨⟨rest, presented⟩, unknown⟩
    rw [ofMetadata_of_presents presented, if_neg unknown]

theorem ofMetadata_cases (metadata : Metadata) :
    (∃ token, ofMetadata metadata = .ok token) ∨
      (∃ scheme, ofMetadata metadata = .error (.unsupportedScheme scheme)) ∨
        ofMetadata metadata = .error .missingToken := by
  by_cases spoken : ∃ scheme rest, Presents metadata scheme rest
  · obtain ⟨scheme, rest, presented⟩ := spoken
    rw [ofMetadata_of_presents presented]
    split
    · split
      · exact .inr (.inr rfl)
      · exact .inl ⟨_, rfl⟩
    · exact .inr (.inl ⟨_, rfl⟩)
  · exact .inr (.inr (ofMetadata_of_silent spoken))

/-- Only the first authorization value counts. -/
theorem ofMetadata_congr {other : Metadata}
    (same : (other.values "authorization").head? = (metadata.values "authorization").head?) :
    ofMetadata other = ofMetadata metadata := by
  have key : Metadata.textKey? authorizationHeader = some authorizationHeader := by decide
  have text : other.text? authorizationHeader = metadata.text? authorizationHeader := by
    rw [Metadata.text?, Metadata.text?, Metadata.first?_eq_head? _ key,
      Metadata.first?_eq_head? _ key]
    exact congrArg (·.bind Metadata.readable?) same
  rw [ofMetadata, ofMetadata, text]

/-- A token is what stands behind an accepted scheme and one space in the first authorization
value, without the spaces and tabs around it. Another scheme is named as unsupported; else there
is no token. -/
theorem token_is_read_exactly (metadata : Metadata) :
    (∀ token, ofMetadata metadata = .ok token ↔
      ∃ scheme rest, Presents metadata scheme rest ∧ IsScheme scheme ∧
        (∃ char ∈ rest.toList, ¬ IsGap char) ∧ Text.Strips IsGap rest.toList token.toList) ∧
    (∀ scheme, ofMetadata metadata = .error (.unsupportedScheme scheme) ↔
      (∃ rest, Presents metadata scheme rest) ∧ ¬ IsScheme scheme) ∧
    (ofMetadata metadata = .error .missingToken ↔
      (¬ ∃ token, ofMetadata metadata = .ok token) ∧
        ¬ ∃ scheme, ofMetadata metadata = .error (.unsupportedScheme scheme)) ∧
    ∀ other : Metadata,
      (other.values "authorization").head? = (metadata.values "authorization").head? →
        ofMetadata other = ofMetadata metadata := by
  refine ⟨?_, fun _ => ofMetadata_eq_unsupported_iff, ?_, fun _ => ofMetadata_congr⟩
  · intro token
    have filled : token ≠ "" ↔ token.toList ≠ [] := not_congr String.toList_eq_nil_iff.symm
    rw [ofMetadata_eq_ok_iff_presents]
    constructor
    · rintro ⟨scheme, rest, presented, known, trimmed, present⟩
      have stripped := presented.trim_eq_iff.mp trimmed
      exact ⟨scheme, rest, presented, known, stripped.filled_iff.mp (filled.mp present), stripped⟩
    · rintro ⟨scheme, rest, presented, known, visible, stripped⟩
      exact ⟨scheme, rest, presented, known, presented.trim_eq_iff.mpr stripped,
        filled.mpr (stripped.filled_iff.mpr visible)⟩
  · constructor
    · intro missing
      simp [missing]
    · rintro ⟨tokenless, supported⟩
      rcases ofMetadata_cases metadata with read | named | missing
      · exact absurd read tokenless
      · exact absurd named supported
      · exact missing

end Token

end CallJournal
