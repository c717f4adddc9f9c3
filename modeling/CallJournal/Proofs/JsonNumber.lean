import CallJournal.Json.Printer
import CallJournal.Json.Reader

namespace CallJournal

namespace Skeleton

/-- The characters that numbers are written with. -/
def isNumberChar (char : Char) : Bool := char.isDigit || ['+', '-', '.', 'e', 'E'].contains char

/-- A number in front of such a text ends there. -/
def EndsNumber (text : List Char) : Prop := ∀ char ∈ text.head?, isNumberChar char = false

theorem isNumberChar_of_isDigit {char : Char} (digit : char.isDigit = true) :
    isNumberChar char = true := by
  simp [isNumberChar, digit]

theorem EndsNumber.cons {char : Char} (rest : List Char) (foreign : isNumberChar char = false) :
    EndsNumber (char :: rest) := by
  simpa [EndsNumber] using foreign

theorem EndsNumber.not_isDigit {char : Char} {rest : List Char} (ends : EndsNumber (char :: rest)) :
    char.isDigit = false := by
  have foreign := ends char rfl
  rw [isNumberChar, Bool.or_eq_false_iff] at foreign
  exact foreign.1

section

variable {rest : List Char}

theorem EndsNumber.head_ne {mark : Char} (ends : EndsNumber rest)
    (number : isNumberChar mark = true) : rest.head? ≠ some mark := fun found =>
  Bool.noConfusion (number.symm.trans (ends mark found))

theorem head?_append_ne {mark : Char} {text : List Char} (ends : EndsNumber rest)
    (number : isNumberChar mark = true) (differs : text.head? ≠ some mark) :
    (text ++ rest).head? ≠ some mark := by
  cases text with
  | nil => exact ends.head_ne number
  | cons char others => exact differs

theorem digits_suffix (text : List Char) : (digits text).2 <:+ text := List.dropWhile_suffix _

theorem digits_append (text : List Char) (ends : EndsNumber rest) :
    digits (text ++ rest) = ((digits text).1, (digits text).2 ++ rest) := by
  induction text with
  | nil =>
    cases rest with
    | nil => rfl
    | cons char others => simp [digits, ends.not_isDigit]
  | cons char others ih =>
    simp only [digits, Prod.mk.injEq] at ih ⊢
    by_cases digit : char.isDigit = true
    · simp [digit, ih]
    · simp [digit]

theorem fractionPart_of_head_ne {text : List Char} (noPoint : text.head? ≠ some '.') :
    fractionPart text = some (none, text) := by
  unfold fractionPart
  split
  · exact absurd rfl noPoint
  · rfl

theorem fractionPart_suffix {text after : List Char} {found : Option (List Nat)}
    (parted : fractionPart text = some (found, after)) : after <:+ text := by
  by_cases point : text.head? = some '.'
  · obtain ⟨others, rfl⟩ := List.head?_eq_some_iff.mp point
    have left := digits_suffix others
    rw [fractionPart] at parted
    split at parted
    · cases parted
    · rename_i places rest _ same
      cases parted
      rw [same] at left
      exact left.trans (List.suffix_cons _ _)
  · rw [fractionPart_of_head_ne point] at parted
    cases parted
    exact List.suffix_refl _

theorem fractionPart_append (text : List Char) (ends : EndsNumber rest) :
    fractionPart (text ++ rest) =
      (fractionPart text).map fun (found, after) => (found, after ++ rest) := by
  by_cases point : text.head? = some '.'
  · obtain ⟨others, rfl⟩ := List.head?_eq_some_iff.mp point
    simp only [List.cons_append, fractionPart, digits_append others ends]
    cases digits others with
    | mk places after => cases places <;> rfl
  · rw [fractionPart_of_head_ne point,
      fractionPart_of_head_ne (head?_append_ne ends (by decide) point)]
    rfl

/-- The exponent that a sign and some digits make; without digits there is none. -/
def exponentOf? (negative : Bool) : List Nat × List Char → Option (Option Int × List Char)
  | ([], _) => none
  | (places, after) =>
    let size : Nat := places.foldl (fun value digit => value * 10 + digit) 0
    some (some (if negative then -(size : Int) else size), after)

theorem exponentOf?_suffix {negative : Bool} {text after : List Char} {found : Option Int}
    (parted : exponentOf? negative (digits text) = some (found, after)) : after <:+ text := by
  have left := digits_suffix text
  unfold exponentOf? at parted
  split at parted
  · cases parted
  · rename_i same
    cases parted
    rwa [same] at left

theorem exponentOf?_append (negative : Bool) (found : List Nat × List Char) :
    exponentOf? negative (found.1, found.2 ++ rest) =
      (exponentOf? negative found).map fun (found, after) => (found, after ++ rest) := by
  obtain ⟨places, after⟩ := found
  cases places <;> rfl

section

variable {letter : Char} (isLetter : letter = 'e' ∨ letter = 'E')
include isLetter

theorem exponentPart_plus (text : List Char) :
    exponentPart (letter :: '+' :: text) = exponentOf? false (digits text) := by
  rw [exponentPart.eq_def]
  simp only [if_pos isLetter]
  rfl

theorem exponentPart_minus (text : List Char) :
    exponentPart (letter :: '-' :: text) = exponentOf? true (digits text) := by
  rw [exponentPart.eq_def]
  simp only [if_pos isLetter]
  rfl

theorem exponentPart_unsigned {text : List Char} (plus : text.head? ≠ some '+')
    (minus : text.head? ≠ some '-') :
    exponentPart (letter :: text) = exponentOf? false (digits text) := by
  rw [exponentPart, if_pos isLetter]
  · rfl
  · rintro after rfl
    exact plus rfl
  · rintro after rfl
    exact minus rfl

end

theorem exponentPart_of_head_ne {text : List Char} (lower : text.head? ≠ some 'e')
    (upper : text.head? ≠ some 'E') : exponentPart text = some (none, text) := by
  cases text with
  | nil => rfl
  | cons char others =>
    have other : ¬ (char = 'e' ∨ char = 'E') := by
      rintro (rfl | rfl)
      · exact lower rfl
      · exact upper rfl
    rw [exponentPart.eq_def]
    simp only [if_neg other]

theorem exists_letter {text : List Char}
    (lettered : text.head? = some 'e' ∨ text.head? = some 'E') :
    ∃ letter others, text = letter :: others ∧ (letter = 'e' ∨ letter = 'E') := by
  cases text with
  | nil => simp at lettered
  | cons letter others => exact ⟨letter, others, rfl, by simpa using lettered⟩

theorem exponentPart_suffix {text after : List Char} {found : Option Int}
    (parted : exponentPart text = some (found, after)) : after <:+ text := by
  by_cases lettered : text.head? = some 'e' ∨ text.head? = some 'E'
  · obtain ⟨letter, others, rfl, isLetter⟩ := exists_letter lettered
    by_cases plus : others.head? = some '+'
    · obtain ⟨unsigned, rfl⟩ := List.head?_eq_some_iff.mp plus
      rw [exponentPart_plus isLetter] at parted
      exact (exponentOf?_suffix parted).trans ⟨[letter, '+'], rfl⟩
    · by_cases minus : others.head? = some '-'
      · obtain ⟨unsigned, rfl⟩ := List.head?_eq_some_iff.mp minus
        rw [exponentPart_minus isLetter] at parted
        exact (exponentOf?_suffix parted).trans ⟨[letter, '-'], rfl⟩
      · rw [exponentPart_unsigned isLetter plus minus] at parted
        exact (exponentOf?_suffix parted).trans ⟨[letter], rfl⟩
  · obtain ⟨lower, upper⟩ := not_or.mp lettered
    rw [exponentPart_of_head_ne lower upper] at parted
    cases parted
    exact List.suffix_refl _

theorem exponentPart_append (text : List Char) (ends : EndsNumber rest) :
    exponentPart (text ++ rest) =
      (exponentPart text).map fun (found, after) => (found, after ++ rest) := by
  by_cases lettered : text.head? = some 'e' ∨ text.head? = some 'E'
  · obtain ⟨letter, others, rfl, isLetter⟩ := exists_letter lettered
    by_cases plus : others.head? = some '+'
    · obtain ⟨unsigned, rfl⟩ := List.head?_eq_some_iff.mp plus
      simp only [List.cons_append, exponentPart_plus isLetter, digits_append unsigned ends,
        exponentOf?_append]
    · by_cases minus : others.head? = some '-'
      · obtain ⟨unsigned, rfl⟩ := List.head?_eq_some_iff.mp minus
        simp only [List.cons_append, exponentPart_minus isLetter, digits_append unsigned ends,
          exponentOf?_append]
      · rw [List.cons_append, exponentPart_unsigned isLetter plus minus,
          exponentPart_unsigned isLetter (head?_append_ne ends (by decide) plus)
            (head?_append_ne ends (by decide) minus), digits_append others ends, exponentOf?_append]
  · obtain ⟨lower, upper⟩ := not_or.mp lettered
    rw [exponentPart_of_head_ne lower upper,
      exponentPart_of_head_ne (head?_append_ne ends (by decide) lower)
        (head?_append_ne ends (by decide) upper)]
    rfl

theorem unsignedNumber_suffix {negative : Bool} {text after : List Char} {found : Numeral}
    (parted : unsignedNumber negative text = some (found, after)) : after <:+ text := by
  unfold unsignedNumber at parted
  dsimp only at parted
  split at parted
  · cases parted
  · cases parted
  · simp only [Option.bind_eq_bind, Option.bind_eq_some_iff] at parted
    obtain ⟨⟨fraction, middle⟩, first, ⟨exponent, last⟩, second, done⟩ := parted
    cases done
    exact (exponentPart_suffix second).trans <|
      (fractionPart_suffix first).trans (digits_suffix text)

theorem unsignedNumber_append (negative : Bool) (text : List Char) (ends : EndsNumber rest) :
    unsignedNumber negative (text ++ rest) =
      (unsignedNumber negative text).map fun (found, after) => (found, after ++ rest) := by
  simp only [unsignedNumber, digits_append text ends, fractionPart_append _ ends]
  split
  · rfl
  · rfl
  · cases fractionPart (digits text).2 with
    | none => rfl
    | some fraction =>
      obtain ⟨fraction, after⟩ := fraction
      simp only [Option.map_some, Option.bind_eq_bind, Option.bind_some, exponentPart_append _ ends]
      cases exponentPart after <;> rfl

def signedNumber : List Char → Option (Numeral × List Char)
  | '-' :: text => unsignedNumber true text
  | text => unsignedNumber false text

theorem signedNumber_of_head_ne {text : List Char} (positive : text.head? ≠ some '-') :
    signedNumber text = unsignedNumber false text := by
  unfold signedNumber
  split
  · exact absurd rfl positive
  · rfl

theorem signedNumber_suffix {text after : List Char} {found : Numeral}
    (parted : signedNumber text = some (found, after)) : after <:+ text := by
  by_cases negative : text.head? = some '-'
  · obtain ⟨unsigned, rfl⟩ := List.head?_eq_some_iff.mp negative
    exact (unsignedNumber_suffix parted).trans (List.suffix_cons _ _)
  · rw [signedNumber_of_head_ne negative] at parted
    exact unsignedNumber_suffix parted

/-- What follows a number does not change how it is read. -/
theorem signedNumber_append (text : List Char) (ends : EndsNumber rest) :
    signedNumber (text ++ rest) =
      (signedNumber text).map fun (found, after) => (found, after ++ rest) := by
  by_cases negative : text.head? = some '-'
  · obtain ⟨unsigned, rfl⟩ := List.head?_eq_some_iff.mp negative
    exact unsignedNumber_append true unsigned ends
  · rw [signedNumber_of_head_ne negative,
      signedNumber_of_head_ne (head?_append_ne ends (by decide) negative),
      unsignedNumber_append false text ends]

end

theorem isSpace_of_isNumberChar {char : Char} (number : isNumberChar char = true) :
    isSpace char = false := by
  apply Bool.eq_false_iff.mpr
  intro blank
  simp only [isSpace, Bool.or_eq_true, beq_iff_eq] at blank
  rcases blank with ((rfl | rfl) | rfl) | rfl <;> cases number

theorem skipSpace_of_visible {char : Char} (text : List Char) (visible : isSpace char = false) :
    skipSpace (char :: text) = char :: text := by
  rw [skipSpace, List.dropWhile_cons_of_neg (Bool.eq_false_iff.mp visible)]

theorem skipSpace_of_head {char : Char} (text : List Char) (number : isNumberChar char = true) :
    skipSpace (char :: text) = char :: text :=
  skipSpace_of_visible text (isSpace_of_isNumberChar number)

theorem skipSpace_of_number {text : List Char} (numeric : text.all isNumberChar = true) :
    skipSpace text = text := by
  cases text with
  | nil => rfl
  | cons char rest =>
    obtain ⟨first, -⟩ := Bool.and_eq_true_iff.mp (List.all_cons ▸ numeric)
    exact skipSpace_of_head rest first

theorem value_of_number (fuel : Nat) {char : Char} (text : List Char)
    (number : isNumberChar char = true) :
    value (fuel + 1) (char :: text) =
      (signedNumber (char :: text)).map fun (numeral, after) => (.number numeral, after) := by
  have foreign : ∀ mark, isNumberChar mark = false → char ≠ mark := by
    rintro mark other rfl
    exact Bool.noConfusion (number.symm.trans other)
  rw [value, skipSpace_of_head text number]
  by_cases negative : char = '-'
  · subst negative
    rfl
  · have positive : (char :: text).head? ≠ some '-' := fun same =>
      negative (Option.some.inj same)
    rw [signedNumber_of_head_ne positive]
    split <;> rename_i whole
    · exact absurd (List.cons.inj whole).1 (foreign 'n' (by decide))
    · exact absurd (List.cons.inj whole).1 (foreign 't' (by decide))
    · exact absurd (List.cons.inj whole).1 (foreign 'f' (by decide))
    · exact absurd (List.cons.inj whole).1 (foreign '"' (by decide))
    · exact absurd (List.cons.inj whole).1 negative
    · exact absurd (List.cons.inj whole).1 (foreign '[' (by decide))
    · exact absurd (List.cons.inj whole).1 (foreign '\x7b' (by decide))
    · rfl

theorem read?_eq_some_iff_of_number {text : List Char} (numeric : text.all isNumberChar = true)
    {found : Skeleton} :
    read? text = some found ↔
      ∃ numeral, signedNumber text = some (numeral, []) ∧ number numeral = found := by
  cases text with
  | nil =>
    constructor
    · intro read
      cases read
    · rintro ⟨numeral, parted, -⟩
      cases parted
  | cons char rest =>
    obtain ⟨first, -⟩ := Bool.and_eq_true_iff.mp (List.all_cons ▸ numeric)
    rw [read?, front?, value_of_number _ rest first]
    cases parted : signedNumber (char :: rest) with
    | none => simp
    | some pair =>
      obtain ⟨numeral, after⟩ := pair
      have kept : skipSpace after = after := skipSpace_of_number <| List.all_eq_true.mpr
        fun left member =>
          List.all_eq_true.mp numeric left ((signedNumber_suffix parted).mem member)
      simp only [Option.map_some, kept]
      cases after <;> simp

theorem eq_zero_of_digitValue {char : Char} (digit : char.isDigit = true)
    (zero : digitValue char = 0) : char = '0' := by
  have bounds := Char.isDigit_iff_toNat.mp digit
  have code : char.toNat = '0'.toNat := Nat.le_antisymm (Nat.sub_eq_zero_iff_le.mp zero) bounds.1
  exact Char.toNat_inj.mp code

/-- Some digits and nothing else. -/
structure IsPlaces (text : List Char) : Prop where
  filled : text ≠ []
  decimal : ∀ char ∈ text, char.isDigit = true

/-- The whole part of a number; a leading zero stands alone. -/
structure IsWholePart (text : List Char) : Prop extends IsPlaces text where
  leading : text = ['0'] ∨ text.head? ≠ some '0'

theorem digits_of_isPlaces {text rest : List Char} (places : IsPlaces text)
    (ends : ∀ char ∈ rest.head?, char.isDigit = false) :
    digits (text ++ rest) = (text.map digitValue, rest) := by
  have taken := @List.takeWhile_append_of_pos _ Char.isDigit _ rest places.decimal
  have dropped := @List.dropWhile_append_of_pos _ Char.isDigit _ rest places.decimal
  rw [digits, taken, dropped]
  cases rest with
  | nil => simp
  | cons char others =>
    have foreign : ¬ char.isDigit = true := Bool.eq_false_iff.mp (ends char rfl)
    rw [List.takeWhile_cons_of_neg foreign, List.dropWhile_cons_of_neg foreign, List.append_nil]

/-- Behind its whole part a number has a fraction and an exponent, or neither. -/
theorem unsignedNumber_of_isWholePart (negative : Bool) {whole rest : List Char}
    (first : IsWholePart whole) (ends : ∀ char ∈ rest.head?, char.isDigit = false) :
    unsignedNumber negative (whole ++ rest) = (fractionPart rest).bind fun (fraction, middle) =>
      (exponentPart middle).bind fun (exponent, after) =>
        some ({ negative, whole := whole.map digitValue, fraction := fraction.getD []
                isWhole := fraction.isNone && exponent.isNone
                exponent := exponent.getD 0 }, after) := by
  simp only [unsignedNumber, digits_of_isPlaces first.toIsPlaces ends]
  split
  · rename_i empty
    exact absurd (List.map_eq_nil_iff.mp empty) first.filled
  · rename_i digit others padded
    obtain ⟨char, chars, rfl, zero, longer⟩ := List.map_eq_cons_iff.mp padded
    have head : char = '0' := eq_zero_of_digitValue (first.decimal char List.mem_cons_self) zero
    rcases first.leading with alone | leading
    · cases (List.cons.inj alone).2
      cases longer
    · exact absurd (congrArg some head) leading
  · rfl

theorem head?_toDigits {value : Nat} (positive : 0 < value) :
    (Nat.toDigits 10 value).head? ≠ some '0' := by
  induction value using Nat.strongRecOn with
  | ind value ih =>
    by_cases small : value < 10
    · have every : ∀ value < 10, 0 < value → (Nat.toDigits 10 value).head? ≠ some '0' := by
        decide
      exact every value small positive
    · rw [Nat.toDigits_of_base_le (by decide) (Nat.le_of_not_lt small), List.head?_append]
      have front := ih (value / 10) (by omega) (by omega)
      cases found : (Nat.toDigits 10 (value / 10)).head? with
      | none => exact absurd (List.head?_eq_none_iff.mp found) Nat.toDigits_ne_nil
      | some char => rwa [found] at front

theorem isWholePart_toDigits (value : Nat) : IsWholePart (Nat.toDigits 10 value) where
  filled := Nat.toDigits_ne_nil
  decimal _ member := Nat.isDigit_of_mem_toDigits (by decide) (by decide) member
  leading := by
    rcases Nat.eq_zero_or_pos value with rfl | positive
    · exact .inl rfl
    · exact .inr (head?_toDigits positive)

end Skeleton

namespace Numeral

def ofWhole (negative : Bool) (size : Nat) : Numeral :=
  ⟨negative, (Nat.toDigits 10 size).map Skeleton.digitValue, [], true, 0⟩

/-- The number that some digits make behind a first part. -/
def valueOf (first : Nat) (digits : List Nat) : Nat :=
  digits.foldl (fun value digit => value * 10 + digit) first

theorem le_valueOf (first : Nat) (digits : List Nat) : first ≤ valueOf first digits := by
  induction digits generalizing first with
  | nil => exact Nat.le_refl first
  | cons digit rest ih => exact Nat.le_trans (by omega) (ih (first * 10 + digit))

theorem absorb_of_lt {first : Nat} {digits : List Nat}
    (small : valueOf first digits < 0x10000000000000000) :
    absorb first digits = (valueOf first digits, []) := by
  induction digits generalizing first with
  | nil => rfl
  | cons digit rest ih =>
    have next : first * 10 + digit < 0x10000000000000000 :=
      Nat.lt_of_le_of_lt (le_valueOf _ rest) small
    rw [absorb, if_pos next, ih small]
    rfl

theorem valueOf_toDigits (value : Nat) :
    valueOf 0 ((Nat.toDigits 10 value).map Skeleton.digitValue) = value := by
  have same : valueOf 0 ((Nat.toDigits 10 value).map Skeleton.digitValue) =
      Nat.ofDigitChars 10 (Nat.toDigits 10 value) 0 := by
    rw [Nat.ofDigitChars_eq_foldl, valueOf, List.foldl_map]
    simp [Skeleton.digitValue, Nat.mul_comm]
  rw [same, Nat.ofDigitChars_ten_toDigits]

theorem absorb_ofWhole (negative : Bool) {size : Nat} (small : size < 0x10000000000000000) :
    absorb 0 (ofWhole negative size).whole = (size, []) := by
  have value := valueOf_toDigits size
  have absorbed := absorb_of_lt (value.symm ▸ small)
  rwa [value] at absorbed

theorem inRange_natCast {size : Nat} (small : size < 0x10000000000000000) :
    -0x8000000000000000 ≤ (size : Int) ∧ (size : Int) < 0x10000000000000000 := by
  omega

theorem number?_ofWhole_false {size : Nat} (small : size < 0x10000000000000000) :
    (ofWhole false size).number? = some (.whole ⟨size, inRange_natCast small⟩) := by
  have whole : (ofWhole false size).isWhole = true := rfl
  have positive : (ofWhole false size).negative = false := rfl
  simp only [number?, absorb_ofWhole false small, whole, positive, List.isEmpty_nil, Bool.and_self,
    if_true, true_and, dif_pos small]

theorem number?_ofWhole_true {size : Nat} (positive : 0 < size)
    (small : size ≤ 0x8000000000000000) :
    (ofWhole true size).number? = some (.whole ⟨-size, by omega⟩) := by
  have whole : (ofWhole true size).isWhole = true := rfl
  have negative : (ofWhole true size).negative = true := rfl
  have below : size < 0x10000000000000000 := by omega
  simp only [number?, absorb_ofWhole true below, whole, negative, List.isEmpty_nil, Bool.and_self,
    if_true, Bool.true_eq_false, false_and, dif_neg not_false, dif_pos (And.intro positive small)]

end Numeral

namespace Skeleton

theorem unsignedNumber_toDigits (negative : Bool) (value : Nat) :
    unsignedNumber negative (Nat.toDigits 10 value) = some (.ofWhole negative value, []) := by
  have read := @unsignedNumber_of_isWholePart negative _ [] (isWholePart_toDigits value) (by simp)
  rw [List.append_nil] at read
  exact read

end Skeleton

end CallJournal
