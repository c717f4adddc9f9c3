import CallJournal.Json.Printer
import CallJournal.Json.Reader
import CallJournal.Text.Ascii

namespace CallJournal

/-- The piece that is read where a character was written. -/
def pieceOf (char : Char) : Piece :=
  if char ∈ ['\x08', '\x0c', '\n', '\r', '\t'] then .char char
  else if char.toNat < 0x20 then .unit char.toNat
  else .char char

/-- The characters for which a letter stands behind a backslash, the backslash and the quote
included. -/
def lettered : List Char := ['"', '\\', '\x08', '\x0c', '\n', '\r', '\t']

theorem escapedChar_of_lettered {char : Char} (among : char ∈ lettered) :
    ∃ letter, escapedChar char = ['\\', letter] ∧ Skeleton.escapeValue? letter = some char ∧
      0x20 ≤ letter.toNat := by
  simp only [lettered, List.mem_cons, List.not_mem_nil, or_false] at among
  rcases among with rfl | rfl | rfl | rfl | rfl | rfl | rfl <;> exact ⟨_, rfl, rfl, by decide⟩

theorem escapedChar_of_not_lettered {char : Char} (plain : char ∉ lettered) :
    escapedChar char =
      if char.toNat < 0x20 then ['\\', 'u', '0', '0'] ++ hexPair char.toNat else [char] := by
  simp only [lettered, List.mem_cons, List.not_mem_nil, or_false, not_or] at plain
  obtain ⟨quote, backslash, backspace, feed, newline, carriage, tab⟩ := plain
  rw [escapedChar, if_neg quote, if_neg backslash, if_neg backspace, if_neg feed, if_neg newline,
    if_neg carriage, if_neg tab]

theorem pieceOf_of_lettered {char : Char} (among : char ∈ lettered) :
    pieceOf char = .char char := by
  simp only [lettered, List.mem_cons, List.not_mem_nil, or_false] at among
  rcases among with rfl | rfl | rfl | rfl | rfl | rfl | rfl <;> rfl

theorem pieceOf_of_not_lettered {char : Char} (plain : char ∉ lettered) :
    pieceOf char = if char.toNat < 0x20 then .unit char.toNat else .char char := by
  have outside : char ∉ ['\x08', '\x0c', '\n', '\r', '\t'] := fun among =>
    plain (.tail _ (.tail _ among))
  rw [pieceOf, if_neg outside]

namespace Json

/-- The hexadecimal digits of a UTF-16 unit, in lower case. -/
def unitDigits (unit : Nat) : List Char :=
  [Nat.digitChar (unit / 0x1000), Nat.digitChar (unit / 0x100 % 16),
    Nat.digitChar (unit / 0x10 % 16), Nat.digitChar (unit % 16)]

/-- A UTF-16 unit is written in four hexadecimal digits of either letter case. -/
structure WritesUnit (digits : List Char) (unit : Nat) : Prop where
  small : unit < 0x10000
  folded : digits.map Char.toLower = unitDigits unit

theorem writesUnit_hexPair {code : Nat} (small : code < 0x20) :
    WritesUnit ('0' :: '0' :: hexPair code) code := by
  have every : ∀ code < 0x20,
      ('0' :: '0' :: hexPair code).map Char.toLower = unitDigits code := by
    decide
  exact ⟨by omega, every code small⟩

end Json

namespace Skeleton

open Json

variable {char : Char} {code : Nat} {digits : List Char}

theorem bounds_of_hexValue? {digit : Nat} (found : hexValue? char = some digit) :
    char.toNat < 128 ∧ digit < 16 := by
  unfold hexValue? at found
  split at found
  · rename_i decimal
    obtain ⟨low, high⟩ := Char.isDigit_iff_toNat.mp decimal
    cases found
    exact ⟨Nat.lt_of_le_of_lt high (by decide), by
      have nine : '9'.toNat - '0'.toNat < 16 := by decide
      omega⟩
  · split at found
    · rename_i lower
      have low : 'a'.toNat ≤ char.toNat := UInt32.le_iff_toNat_le.mp (Char.le_def.mp lower.1)
      have high : char.toNat ≤ 'f'.toNat := UInt32.le_iff_toNat_le.mp (Char.le_def.mp lower.2)
      have six : 'f'.toNat - 'a'.toNat + 10 < 16 := by decide
      cases found
      exact ⟨Nat.lt_of_le_of_lt high (by decide), by omega⟩
    · split at found
      · rename_i upper
        have low : 'A'.toNat ≤ char.toNat := UInt32.le_iff_toNat_le.mp (Char.le_def.mp upper.1)
        have high : char.toNat ≤ 'F'.toNat := UInt32.le_iff_toNat_le.mp (Char.le_def.mp upper.2)
        have six : 'F'.toNat - 'A'.toNat + 10 < 16 := by decide
        cases found
        exact ⟨Nat.lt_of_le_of_lt high (by decide), by omega⟩
      · cases found

theorem hexValue?_eq_some_iff {digit : Nat} :
    hexValue? char = some digit ↔ digit < 16 ∧ char.toLower = Nat.digitChar digit := by
  have every : ∀ code < 128, ∀ digit < 16,
      (hexValue? (Char.ofNat code) = some digit ↔
        (Char.ofNat code).toLower = Nat.digitChar digit) := by
    decide +kernel
  have here (ascii : char.toNat < 128) (small : digit < 16) :
      hexValue? char = some digit ↔ char.toLower = Nat.digitChar digit := by
    have same := every char.toNat ascii digit small
    rwa [Char.ofNat_toNat] at same
  constructor
  · intro found
    obtain ⟨ascii, small⟩ := bounds_of_hexValue? found
    exact ⟨small, (here ascii small).mp found⟩
  · rintro ⟨small, lower⟩
    have low : ∀ digit < 16, (Nat.digitChar digit).toNat < 128 := by decide
    have ascii : char.toNat < 128 := Text.toNat_lt_of_toLower (lower ▸ low digit small)
    exact (here ascii small).mpr lower

/-- The unit that is read from four characters is the one that they write. -/
theorem hexUnit?_eq_some_iff {first second third fourth : Char} :
    hexUnit? first second third fourth = some code ↔
      WritesUnit [first, second, third, fourth] code := by
  constructor
  · intro read
    simp only [hexUnit?, Option.bind_eq_bind, Option.bind_eq_some_iff, Option.pure_def,
      Option.some.injEq, hexValue?_eq_some_iff] at read
    obtain ⟨high, ⟨one, firstIs⟩, upper, ⟨two, secondIs⟩, lower, ⟨three, thirdIs⟩, low,
      ⟨four, fourthIs⟩, rfl⟩ := read
    refine ⟨by omega, ?_⟩
    simp only [List.map_cons, List.map_nil, firstIs, secondIs, thirdIs, fourthIs, unitDigits,
      List.cons.injEq, and_true]
    refine ⟨?_, ?_, ?_, ?_⟩ <;> congr 1 <;> omega
  · rintro ⟨small, folded⟩
    simp only [List.map_cons, List.map_nil, unitDigits, List.cons.injEq, and_true] at folded
    obtain ⟨firstIs, secondIs, thirdIs, fourthIs⟩ := folded
    have value {char : Char} {digit : Nat} (bound : digit < 16)
        (lower : char.toLower = Nat.digitChar digit) : hexValue? char = some digit :=
      hexValue?_eq_some_iff.mpr ⟨bound, lower⟩
    simp only [hexUnit?, value (by omega) firstIs, value (by omega) secondIs,
      value (by omega) thirdIs, value (by omega) fourthIs, Option.bind_eq_bind, Option.bind_some,
      Option.pure_def, Option.some.injEq]
    omega

theorem stringBody_letter {letter char : Char} (rest : List Char)
    (escape : escapeValue? letter = some char) :
    stringBody ('\\' :: letter :: rest) =
      (stringBody rest).map fun (pieces, after) => (.char char :: pieces, after) := by
  have lettered : letter ≠ 'u' := by
    rintro rfl
    cases escape
  rw [stringBody, escape]
  · cases stringBody rest <;> rfl
  · intro first second third fourth others same
    exact absurd same lettered

theorem stringBody_of_unit (written : WritesUnit digits code) (rest : List Char) :
    stringBody ('\\' :: 'u' :: digits ++ rest) =
      (stringBody rest).map fun (pieces, after) => (.unit code :: pieces, after) := by
  have length : digits.length = 4 := by
    rw [← List.length_map, written.folded]
    rfl
  match digits, length with
  | [first, second, third, fourth], _ =>
    simp only [List.cons_append, List.nil_append, stringBody, hexUnit?_eq_some_iff.mpr written]
    cases stringBody rest <;> rfl

theorem stringBody_plain {char : Char} (rest : List Char) (quote : char ≠ '"')
    (backslash : char ≠ '\\') (visible : ¬ char.toNat < 0x20) :
    stringBody (char :: rest) =
      (stringBody rest).map fun (pieces, after) => (.char char :: pieces, after) := by
  rw [stringBody.eq_def]
  split
  · simp_all
  · simp_all
  · simp_all
  · simp_all
  · rename_i same
    cases same
    rw [if_neg (by simp [backslash, visible])]

/-- What is written for a character is read as one piece. -/
theorem stringBody_escapedChar (char : Char) (rest : List Char) :
    stringBody (escapedChar char ++ rest) =
      (stringBody rest).map fun (pieces, after) => (pieceOf char :: pieces, after) := by
  by_cases among : char ∈ lettered
  · obtain ⟨letter, spelled, escape, -⟩ := escapedChar_of_lettered among
    rw [spelled, pieceOf_of_lettered among]
    exact stringBody_letter rest escape
  · rw [escapedChar_of_not_lettered among, pieceOf_of_not_lettered among]
    simp only [lettered, List.mem_cons, not_or] at among
    by_cases control : char.toNat < 0x20
    · rw [if_pos control, if_pos control]
      exact stringBody_of_unit (writesUnit_hexPair control) rest
    · rw [if_neg control, if_neg control]
      exact stringBody_plain rest among.1 among.2.1 control

theorem stringBody_escaped (chars rest : List Char) :
    stringBody (chars.flatMap escapedChar ++ '"' :: rest) = some (chars.map pieceOf, rest) := by
  induction chars with
  | nil => simp [stringBody]
  | cons char others ih =>
    rw [List.flatMap_cons, List.append_assoc, stringBody_escapedChar, ih]
    rfl

end Skeleton

namespace Piece

theorem assemble?_unit {α : Type _} (plain spelled : Char → α) {code : Nat}
    (high : isHighHalf code = false) (low : isLowHalf code = false) (rest : List Piece) :
    assemble? plain spelled (.unit code :: rest) =
      (assemble? plain spelled rest).map (spelled (Char.ofNat code) :: ·) := by
  rw [assemble?.eq_def]
  split
  · simp_all
  · simp_all
  · rename_i same
    cases same
    simp [high, low]
  · rename_i same
    cases same
    simp [high, low]

/-- No character is half of a surrogate pair. -/
theorem not_isHalf (char : Char) :
    isHighHalf char.toNat = false ∧ isLowHalf char.toNat = false := by
  have valid : char.toNat < 0xd800 ∨ 0xdfff < char.toNat ∧ char.toNat < 0x110000 := char.valid
  simp only [isHighHalf, isLowHalf, Bool.and_eq_false_iff, decide_eq_false_iff_not]
  omega

theorem assemble?_pieceOf (chars : List Char) :
    assemble? id id (chars.map pieceOf) = some chars := by
  induction chars with
  | nil => rfl
  | cons char rest ih =>
    rw [List.map_cons, pieceOf]
    split
    · rw [assemble?, ih]
      rfl
    · split
      · obtain ⟨high, low⟩ := not_isHalf char
        rw [assemble?_unit _ _ high low, ih, Char.ofNat_toNat]
        rfl
      · rw [assemble?, ih]
        rfl

/-- The pieces of a written string are its characters again. -/
theorem text?_pieceOf (text : String) : text? (text.toList.map pieceOf) = some text := by
  rw [text?, assemble?_pieceOf, Option.map_some, String.ofList_toList]

end Piece

/-- Whether a character may stand in a JSON string as it is, as far as control characters go. -/
def isInline (char : Char) : Bool := 0x20 ≤ char.toNat

theorem isInline_digitChar {digit : Nat} (small : digit < 16) :
    isInline (Nat.digitChar digit) = true := by
  have every : ∀ digit < 16, isInline (Nat.digitChar digit) = true := by decide
  exact every digit small

theorem all_escapedChar (char : Char) : (escapedChar char).all isInline = true := by
  by_cases among : char ∈ lettered
  · obtain ⟨letter, spelled, -, visible⟩ := escapedChar_of_lettered among
    have backslash : isInline '\\' = true := by decide
    rw [spelled, List.all_cons, List.all_cons, backslash, isInline, decide_eq_true visible]
    rfl
  · rw [escapedChar_of_not_lettered among]
    by_cases control : char.toNat < 0x20
    · have high := isInline_digitChar (show char.toNat / 16 < 16 by omega)
      have low := isInline_digitChar (show char.toNat % 16 < 16 by omega)
      have front : ['\\', 'u', '0', '0'].all isInline = true := by decide
      rw [if_pos control, List.all_append, front, hexPair, List.all_cons, List.all_cons, high, low]
      rfl
    · rw [if_neg control, List.all_cons, isInline, decide_eq_true (Nat.le_of_not_lt control)]
      rfl

theorem all_stringLiteral (text : String) : (stringLiteral text).all isInline = true := by
  have quote : isInline '"' = true := by decide
  rw [stringLiteral, List.cons_append, List.all_cons, List.all_append, List.all_flatMap, quote]
  simp [all_escapedChar, quote]

end CallJournal
