import CallJournal.Proofs.JsonString

/-! A JSON string is read exactly if the text in front of its closing quote spells the string. -/

namespace CallJournal

namespace Json

/-- The letters that stand behind a backslash, with the characters that they stand for. -/
def letterEscapes : List (Char × Char) :=
  [('"', '"'), ('\\', '\\'), ('/', '/'), ('b', '\x08'), ('f', '\x0c'), ('n', '\n'), ('r', '\r'),
    ('t', '\t')]

/-- The first unit of a character that has two. -/
def highHalf (char : Char) : Nat := 0xd800 + (char.toNat - 0x10000) / 0x400

def lowHalf (char : Char) : Nat := 0xdc00 + (char.toNat - 0x10000) % 0x400

/-- What a character may be spelled as inside a JSON string. -/
inductive IsSpelling (char : Char) : List Char → Prop where
  | plain (quote : char ≠ '"') (backslash : char ≠ '\\') (visible : 0x20 ≤ char.toNat) :
      IsSpelling char [char]
  | letter {letter : Char} (listed : (letter, char) ∈ letterEscapes) :
      IsSpelling char ['\\', letter]
  | unit {digits : List Char} (written : WritesUnit digits char.toNat) :
      IsSpelling char ('\\' :: 'u' :: digits)
  | pair {first second : List Char} (beyond : 0x10000 ≤ char.toNat)
      (high : WritesUnit first (highHalf char)) (low : WritesUnit second (lowHalf char)) :
      IsSpelling char ('\\' :: 'u' :: first ++ '\\' :: 'u' :: second)

/-- A text that spells characters one after the other. -/
inductive Spells : List Char → List Char → Prop where
  | nil : Spells [] []
  | cons {char : Char} {chars spelling body : List Char} (first : IsSpelling char spelling)
      (rest : Spells chars body) : Spells (char :: chars) (spelling ++ body)

end Json

open Json

namespace Skeleton

variable {char letter : Char} {text after : List Char} {pieces : List Piece}

theorem escapeValue?_eq_some_iff :
    escapeValue? letter = some char ↔ (letter, char) ∈ letterEscapes := by
  constructor
  · intro found
    unfold escapeValue? at found
    split at found <;> cases found <;> decide
  · intro listed
    have every : ∀ entry ∈ letterEscapes, escapeValue? entry.1 = some entry.2 := by decide
    exact every _ listed

/-- What stands in front of the rest of a string: its closing quote, or the spelling of a piece. -/
theorem stringBody_cases (found : stringBody text = some (pieces, after)) :
    (pieces = [] ∧ text = '"' :: after) ∨
    (∃ char others spelling rest, pieces = .char char :: others ∧ text = spelling ++ rest ∧
      IsSpelling char spelling ∧ stringBody rest = some (others, after)) ∨
    ∃ code others digits rest, pieces = .unit code :: others ∧
      text = '\\' :: 'u' :: digits ++ rest ∧ WritesUnit digits code ∧
        stringBody rest = some (others, after) := by
  rw [stringBody.eq_def] at found
  split at found
  · cases found
  · cases found
    exact .inl ⟨rfl, rfl⟩
  · rename_i first second third fourth rest
    obtain ⟨code, read, parsed⟩ := Option.bind_eq_some_iff.mp found
    obtain ⟨⟨others, behind⟩, later, same⟩ := Option.bind_eq_some_iff.mp parsed
    cases same
    exact .inr (.inr ⟨code, others, [first, second, third, fourth], rest, rfl, rfl,
      hexUnit?_eq_some_iff.mp read, later⟩)
  · rename_i letter rest _
    obtain ⟨char, escape, parsed⟩ := Option.bind_eq_some_iff.mp found
    obtain ⟨⟨others, behind⟩, later, same⟩ := Option.bind_eq_some_iff.mp parsed
    cases same
    exact .inr (.inl ⟨char, others, ['\\', letter], rest, rfl, rfl,
      .letter (escapeValue?_eq_some_iff.mp escape), later⟩)
  · rename_i char rest quote _ _
    split at found
    · cases found
    · rename_i allowed
      obtain ⟨backslash, visible⟩ := not_or.mp allowed
      obtain ⟨⟨others, behind⟩, later, same⟩ := Option.map_eq_some_iff.mp found
      cases same
      exact .inr (.inl ⟨char, others, [char], rest, rfl, rfl,
        .plain quote backslash (Nat.le_of_not_lt visible), later⟩)

end Skeleton

namespace Piece

variable {char : Char} {pieces : List Piece} {chars : List Char}

theorem toNat_ofNat {code : Nat} (valid : code.isValidChar) : (Char.ofNat code).toNat = code := by
  rw [Char.ofNat, dif_pos valid]
  rfl

/-- A unit that is no half of a pair is the number of its character. -/
theorem toNat_ofNat_of_unit {code : Nat} (high : ¬ isHighHalf code = true)
    (low : ¬ isLowHalf code = true) (small : code < 0x10000) : (Char.ofNat code).toNat = code := by
  apply toNat_ofNat
  simp only [isHighHalf, isLowHalf, Bool.and_eq_true, decide_eq_true_eq] at high low
  simp only [Nat.isValidChar]
  omega

/-- The character of a surrogate pair has the units of the pair as its halves. -/
theorem halves_ofNat {high low : Nat} (first : isHighHalf high = true)
    (second : isLowHalf low = true)
    (joined : Char.ofNat (0x10000 + (high - 0xd800) * 0x400 + (low - 0xdc00)) = char) :
    0x10000 ≤ char.toNat ∧ high = highHalf char ∧ low = lowHalf char := by
  simp only [isHighHalf, isLowHalf, Bool.and_eq_true, decide_eq_true_eq] at first second
  have valid : (0x10000 + (high - 0xd800) * 0x400 + (low - 0xdc00)).isValidChar := by
    simp only [Nat.isValidChar]
    omega
  have number := toNat_ofNat valid
  rw [joined] at number
  simp only [highHalf, lowHalf]
  omega

/-- Where the first character of a string comes from: a piece that is the character, a unit that is
its number, or two units that are its halves. -/
theorem assemble?_eq_cons (found : assemble? id id pieces = some (char :: chars)) :
    ∃ others, assemble? id id others = some chars ∧
      (pieces = .char char :: others ∨
      (∃ code, pieces = .unit code :: others ∧ (code < 0x10000 → char.toNat = code)) ∨
      (0x10000 ≤ char.toNat ∧
        pieces = .unit (highHalf char) :: .unit (lowHalf char) :: others)) := by
  rw [assemble?.eq_def] at found
  split at found
  · cases found
  · rename_i value rest
    obtain ⟨others, assembled, same⟩ := Option.map_eq_some_iff.mp found
    cases same
    exact ⟨rest, assembled, .inl rfl⟩
  · rename_i high low rest
    split at found
    · rename_i first
      split at found
      · rename_i second
        obtain ⟨others, assembled, same⟩ := Option.map_eq_some_iff.mp found
        obtain ⟨joined, rfl⟩ := List.cons.inj same
        rw [id_eq] at joined
        obtain ⟨beyond, firstIs, secondIs⟩ := halves_ofNat first second joined
        refine ⟨rest, assembled, .inr (.inr ⟨beyond, ?_⟩)⟩
        rw [firstIs, secondIs]
      · cases found
    · rename_i notHigh
      split at found
      · cases found
      · rename_i notLow
        obtain ⟨others, assembled, same⟩ := Option.map_eq_some_iff.mp found
        cases same
        exact ⟨_, assembled, .inr (.inl ⟨high, rfl, toNat_ofNat_of_unit notHigh notLow⟩)⟩
  · rename_i code rest _
    split at found
    · cases found
    · rename_i single
      simp only [Bool.or_eq_true, not_or] at single
      obtain ⟨others, assembled, same⟩ := Option.map_eq_some_iff.mp found
      cases same
      exact ⟨rest, assembled, .inr (.inl ⟨code, rfl, toNat_ofNat_of_unit single.1 single.2⟩)⟩

theorem eq_nil_of_assemble? (found : assemble? id id pieces = some []) : pieces = [] := by
  have filled (char : Char) (rest : Option (List Char)) : rest.map (char :: ·) ≠ some [] := by
    cases rest <;> simp
  rw [assemble?.eq_def] at found
  split at found
  · rfl
  · exact absurd found (filled _ _)
  · split at found
    · split at found
      · exact absurd found (filled _ _)
      · cases found
    · split at found
      · cases found
      · exact absurd found (filled _ _)
  · split at found
    · cases found
    · exact absurd found (filled _ _)

theorem assemble?_pair (beyond : 0x10000 ≤ char.toNat) (others : List Piece) :
    assemble? id id (.unit (highHalf char) :: .unit (lowHalf char) :: others) =
      (assemble? id id others).map (char :: ·) := by
  have valid : char.toNat < 0xd800 ∨ 0xdfff < char.toNat ∧ char.toNat < 0x110000 := char.valid
  have first : 0xd800 ≤ highHalf char ∧ highHalf char < 0xdc00 := by
    unfold highHalf
    omega
  have second : 0xdc00 ≤ lowHalf char ∧ lowHalf char < 0xe000 := by
    unfold lowHalf
    omega
  have high : isHighHalf (highHalf char) = true := by
    simp only [isHighHalf, first, decide_true, Bool.and_self]
  have low : isLowHalf (lowHalf char) = true := by
    simp only [isLowHalf, second, decide_true, Bool.and_self]
  have whole : 0x10000 + (highHalf char - 0xd800) * 0x400 + (lowHalf char - 0xdc00) =
      char.toNat := by
    simp only [highHalf, lowHalf]
    omega
  rw [assemble?, if_pos high, if_pos low, whole, Char.ofNat_toNat]
  rfl

end Piece

namespace Skeleton

variable {char : Char} {code : Nat} {text after chars body : List Char} {pieces : List Piece}
  {content : String}

theorem stringBody_char_cons (found : stringBody text = some (.char char :: pieces, after)) :
    ∃ spelling rest, text = spelling ++ rest ∧ IsSpelling char spelling ∧
      stringBody rest = some (pieces, after) := by
  rcases stringBody_cases found with
    ⟨same, -⟩ | ⟨_, _, spelling, rest, same, whole, spelled, later⟩ | ⟨_, _, _, _, same, -⟩
  · cases same
  · cases same
    exact ⟨spelling, rest, whole, spelled, later⟩
  · cases same

theorem stringBody_unit_cons (found : stringBody text = some (.unit code :: pieces, after)) :
    ∃ digits rest, text = '\\' :: 'u' :: digits ++ rest ∧ WritesUnit digits code ∧
      stringBody rest = some (pieces, after) := by
  rcases stringBody_cases found with
    ⟨same, -⟩ | ⟨_, _, _, _, same, -⟩ | ⟨_, _, digits, rest, same, whole, written, later⟩
  · cases same
  · cases same
  · cases same
    exact ⟨digits, rest, whole, written, later⟩

/-- What is read as a string spells its characters. -/
theorem spells_of_read (found : stringBody text = some (pieces, after))
    (joined : Piece.assemble? id id pieces = some chars) :
    ∃ body, Spells chars body ∧ text = body ++ '"' :: after := by
  induction chars generalizing text pieces with
  | nil =>
    obtain rfl := Piece.eq_nil_of_assemble? joined
    rcases stringBody_cases found with ⟨-, whole⟩ | ⟨_, _, _, _, same, -⟩ | ⟨_, _, _, _, same, -⟩
    · exact ⟨[], .nil, whole⟩
    · cases same
    · cases same
  | cons char chars ih =>
    obtain ⟨others, assembled, origin⟩ := Piece.assemble?_eq_cons joined
    rcases origin with rfl | ⟨code, rfl, number⟩ | ⟨beyond, rfl⟩
    · obtain ⟨spelling, rest, rfl, spelled, later⟩ := stringBody_char_cons found
      obtain ⟨body, spells, rfl⟩ := ih later assembled
      exact ⟨spelling ++ body, .cons spelled spells, (List.append_assoc ..).symm⟩
    · obtain ⟨digits, rest, rfl, written, later⟩ := stringBody_unit_cons found
      obtain ⟨body, spells, rfl⟩ := ih later assembled
      have spelled : IsSpelling char ('\\' :: 'u' :: digits) :=
        .unit ((number written.small).symm ▸ written)
      exact ⟨_, .cons spelled spells, (List.append_assoc ..).symm⟩
    · obtain ⟨first, middle, rfl, high, following⟩ := stringBody_unit_cons found
      obtain ⟨second, rest, rfl, low, later⟩ := stringBody_unit_cons following
      obtain ⟨body, spells, rfl⟩ := ih later assembled
      refine ⟨_, .cons (.pair beyond high low) spells, ?_⟩
      simp

/-- A text that spells characters is read as a string of these. -/
theorem read_of_spells (spells : Spells chars body) (after : List Char) :
    ∃ pieces, stringBody (body ++ '"' :: after) = some (pieces, after) ∧
      Piece.assemble? id id pieces = some chars := by
  induction spells with
  | nil => exact ⟨[], by simp [stringBody], rfl⟩
  | cons first _ ih =>
    rename_i char chars spelling body _
    obtain ⟨pieces, found, joined⟩ := ih
    rw [List.append_assoc]
    cases first with
    | plain quote backslash visible =>
      refine ⟨.char char :: pieces, ?_, ?_⟩
      · rw [List.singleton_append,
          stringBody_plain _ quote backslash (Nat.not_lt.mpr visible), found]
        rfl
      · rw [Piece.assemble?, joined]
        rfl
    | letter listed =>
      refine ⟨.char char :: pieces, ?_, ?_⟩
      · rw [List.cons_append, List.singleton_append,
          stringBody_letter _ (escapeValue?_eq_some_iff.mpr listed), found]
        rfl
      · rw [Piece.assemble?, joined]
        rfl
    | unit written =>
      obtain ⟨high, low⟩ := Piece.not_isHalf char
      refine ⟨.unit char.toNat :: pieces, ?_, ?_⟩
      · rw [stringBody_of_unit written, found]
        rfl
      · rw [Piece.assemble?_unit _ _ high low, joined, Char.ofNat_toNat]
        rfl
    | @pair first second beyond high low =>
      refine ⟨.unit (highHalf char) :: .unit (lowHalf char) :: pieces, ?_, ?_⟩
      · rw [List.append_assoc, stringBody_of_unit high, stringBody_of_unit low, found]
        rfl
      · rw [Piece.assemble?_pair beyond, joined]
        rfl

/-- Strings are read from the texts that spell them, up to the closing quote. -/
theorem exists_pieces_iff :
    (∃ pieces, stringBody text = some (pieces, after) ∧ Piece.text? pieces = some content) ↔
      ∃ body, Spells content.toList body ∧ text = body ++ '"' :: after := by
  constructor
  · rintro ⟨pieces, found, joined⟩
    obtain ⟨chars, assembled, rfl⟩ := Option.map_eq_some_iff.mp joined
    rw [String.toList_ofList]
    exact spells_of_read found assembled
  · rintro ⟨body, spells, rfl⟩
    obtain ⟨pieces, found, assembled⟩ := read_of_spells spells after
    exact ⟨pieces, found, by rw [Piece.text?, assembled, Option.map_some, String.ofList_toList]⟩

end Skeleton

namespace Json

theorem isSpelling_escapedChar (char : Char) : IsSpelling char (escapedChar char) := by
  by_cases among : char ∈ lettered
  · obtain ⟨letter, spelled, escape, -⟩ := escapedChar_of_lettered among
    rw [spelled]
    exact .letter (Skeleton.escapeValue?_eq_some_iff.mp escape)
  · rw [escapedChar_of_not_lettered among]
    by_cases control : char.toNat < 0x20
    · rw [if_pos control]
      exact .unit (writesUnit_hexPair control)
    · rw [if_neg control]
      simp only [lettered, List.mem_cons, not_or] at among
      exact .plain among.1 among.2.1 (Nat.le_of_not_lt control)

theorem spells_escaped (chars : List Char) : Spells chars (chars.flatMap escapedChar) := by
  induction chars with
  | nil => exact .nil
  | cons char rest ih => exact .cons (isSpelling_escapedChar char) ih

end Json

end CallJournal
