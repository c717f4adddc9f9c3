import CallJournal.Proofs.JsonNumber
import CallJournal.Proofs.ShortestDigits

namespace CallJournal

namespace Skeleton

/-- A point with the digits after it, or nothing. -/
inductive IsFractionPart : List Char → Prop where
  | absent : IsFractionPart []
  | present {places : List Char} (decimal : IsPlaces places) : IsFractionPart ('.' :: places)

/-- An exponent with its sign or without, or nothing. -/
inductive IsExponentPart : List Char → Prop where
  | absent : IsExponentPart []
  | unsigned {places : List Char} (decimal : IsPlaces places) : IsExponentPart ('e' :: places)
  | plus {places : List Char} (decimal : IsPlaces places) : IsExponentPart ('e' :: '+' :: places)
  | minus {places : List Char} (decimal : IsPlaces places) : IsExponentPart ('e' :: '-' :: places)

/-- A number without its sign, as JSON has it. -/
inductive IsUnsigned : List Char → Prop where
  | parts {whole fraction exponent : List Char} (first : IsWholePart whole)
      (second : IsFractionPart fraction) (third : IsExponentPart exponent) :
      IsUnsigned (whole ++ (fraction ++ exponent))

variable {text rest whole fraction exponent : List Char}

theorem IsUnsigned.positional (first : IsWholePart whole) (second : IsFractionPart fraction) :
    IsUnsigned (whole ++ fraction) :=
  List.append_nil fraction ▸ .parts first second .absent

theorem IsPlaces.head?_ne {mark : Char} (places : IsPlaces text) (foreign : mark.isDigit = false) :
    text.head? ≠ some mark := fun found =>
  Bool.noConfusion ((places.decimal mark (List.mem_of_head? found)).symm.trans foreign)

theorem IsPlaces.part (places : IsPlaces text) {piece : List Char} (filled : piece ≠ [])
    (within : piece ⊆ text) : IsPlaces piece where
  filled := filled
  decimal char member := places.decimal char (within member)

theorem isDigit_of_mem_zeros {count : Nat} {char : Char}
    (member : char ∈ List.replicate count '0') : char.isDigit = true := by
  rw [(List.mem_replicate.mp member).2]
  rfl

theorem IsPlaces.append_zeros (places : IsPlaces text) (count : Nat) :
    IsPlaces (text ++ List.replicate count '0') where
  filled := List.append_ne_nil_of_left_ne_nil places.filled _
  decimal char member := (List.mem_append.mp member).elim (places.decimal char) isDigit_of_mem_zeros

theorem IsPlaces.zeros_append (places : IsPlaces text) (count : Nat) :
    IsPlaces (List.replicate count '0' ++ text) where
  filled := List.append_ne_nil_of_right_ne_nil _ places.filled
  decimal char member := (List.mem_append.mp member).elim isDigit_of_mem_zeros (places.decimal char)

theorem isWholePart_zero : IsWholePart ['0'] where
  filled := List.cons_ne_nil _ _
  decimal := by simp
  leading := .inl rfl

theorem digits_of_isPlaces_alone (places : IsPlaces text) :
    digits text = (text.map digitValue, []) := by
  have found : digits (text ++ []) = _ := digits_of_isPlaces places (by simp)
  rwa [List.append_nil] at found

theorem IsExponentPart.exists_exponentPart (part : IsExponentPart text) :
    ∃ found, exponentPart text = some (found, []) := by
  have letter : 'e' = 'e' ∨ 'e' = 'E' := .inl rfl
  have counted (negative : Bool) {places : List Char} (decimal : IsPlaces places) :
      ∃ found, exponentOf? negative (digits places) = some (found, []) := by
    rw [digits_of_isPlaces_alone decimal]
    cases places with
    | nil => exact absurd rfl decimal.filled
    | cons => exact ⟨_, rfl⟩
  cases part with
  | absent => exact ⟨none, rfl⟩
  | unsigned decimal =>
    rw [exponentPart_unsigned letter (decimal.head?_ne rfl) (decimal.head?_ne rfl)]
    exact counted false decimal
  | plus decimal =>
    rw [exponentPart_plus letter]
    exact counted false decimal
  | minus decimal =>
    rw [exponentPart_minus letter]
    exact counted true decimal

theorem IsExponentPart.eq_letter (part : IsExponentPart text) {char : Char}
    (first : text.head? = some char) : char = 'e' := by
  cases part with
  | absent => cases first
  | unsigned | plus | minus => exact (Option.some.inj first).symm

/-- Behind the whole part and behind the fraction no digit follows. -/
theorem IsExponentPart.ends (part : IsExponentPart text) :
    ∀ char ∈ text.head?, char.isDigit = false := fun _ first => by
  rw [part.eq_letter first]
  rfl

theorem IsFractionPart.ends (part : IsFractionPart text) (exponent : IsExponentPart rest) :
    ∀ char ∈ (text ++ rest).head?, char.isDigit = false := by
  cases part with
  | absent => exact exponent.ends
  | present => simp

theorem IsFractionPart.exists_fractionPart (part : IsFractionPart text)
    (exponent : IsExponentPart rest) :
    ∃ found, fractionPart (text ++ rest) = some (found, rest) := by
  cases part with
  | absent =>
    have noPoint : rest.head? ≠ some '.' :=
      fun point => absurd (exponent.eq_letter point) (by decide)
    exact ⟨none, fractionPart_of_head_ne noPoint⟩
  | @present places decimal =>
    rw [List.cons_append, fractionPart, digits_of_isPlaces decimal exponent.ends]
    cases places with
    | nil => exact absurd rfl decimal.filled
    | cons => exact ⟨_, rfl⟩

/-- The reader takes every number that JSON has, to its end. -/
theorem IsUnsigned.exists_unsignedNumber (unsigned : IsUnsigned text) (negative : Bool) :
    ∃ numeral, unsignedNumber negative text = some (numeral, []) := by
  cases unsigned with
  | parts first second third =>
    obtain ⟨fraction, fractionRead⟩ := second.exists_fractionPart third
    obtain ⟨exponent, exponentRead⟩ := third.exists_exponentPart
    simp only [unsignedNumber_of_isWholePart negative first (second.ends third), fractionRead,
      exponentRead, Option.bind_some]
    exact ⟨_, rfl⟩

theorem IsUnsigned.head?_ne (unsigned : IsUnsigned text) : text.head? ≠ some '-' := by
  cases unsigned with
  | @parts whole fraction exponent first =>
    obtain ⟨char, others, rfl⟩ := List.exists_cons_of_ne_nil first.filled
    have differs : (char :: others).head? ≠ some '-' := first.head?_ne rfl
    exact differs

theorem IsPlaces.all_isNumberChar (places : IsPlaces text) : text.all isNumberChar = true :=
  List.all_eq_true.mpr fun char member => isNumberChar_of_isDigit (places.decimal char member)

theorem IsUnsigned.all_isNumberChar (unsigned : IsUnsigned text) :
    text.all isNumberChar = true := by
  have marks : ['.', 'e', '+', '-'].all isNumberChar = true := by decide
  simp only [List.all_cons, Bool.and_eq_true] at marks
  cases unsigned with
  | @parts whole fraction exponent first second third =>
    have middle : fraction.all isNumberChar = true := by
      cases second with
      | absent => rfl
      | present decimal => simp [marks, decimal.all_isNumberChar]
    have last : exponent.all isNumberChar = true := by
      cases third with
      | absent => rfl
      | unsigned decimal | plus decimal | minus decimal => simp [marks, decimal.all_isNumberChar]
    rw [List.all_append, List.all_append, first.all_isNumberChar, middle, last]
    rfl

end Skeleton

namespace Real

open Skeleton

theorem isExponentPart_exponentText (signed : Bool) (exponent : Int) :
    IsExponentPart ('e' :: exponentText signed exponent) := by
  unfold exponentText
  split
  · exact .minus (isWholePart_toDigits _).toIsPlaces
  · split
    · exact .plus (isWholePart_toDigits _).toIsPlaces
    · exact .unsigned (isWholePart_toDigits _).toIsPlaces

/-- A decimal other than zero is a number of JSON in any layout. -/
theorem Layout.isUnsigned_positive (layout : Layout) {decimal : Decimal}
    (nonzero : decimal.digits ≠ 0) : IsUnsigned (layout.positive decimal) := by
  have places := (isWholePart_toDigits decimal.digits).toIsPlaces
  have leading := head?_toDigits (Nat.pos_of_ne_zero nonzero)
  unfold positive
  generalize Nat.toDigits 10 decimal.digits = digits at places leading ⊢
  obtain ⟨first, others, rfl⟩ := List.exists_cons_of_ne_nil places.filled
  dsimp only
  split
  · split
    · -- Zeros fill the places up to the point.
      have whole : IsWholePart (first :: others ++ List.replicate decimal.exponent.toNat '0') :=
        ⟨places.append_zeros _, .inr leading⟩
      exact .positional whole (.present isWholePart_zero.toIsPlaces)
    · split
      · -- The point stands among the digits.
        rename_i low inside
        rw [List.length_cons] at inside ⊢
        obtain ⟨less, counted⟩ : ∃ less,
            ((others.length + 1 : Nat) + decimal.exponent : Int).toNat = less + 1 :=
          ⟨((others.length + 1 : Nat) + decimal.exponent : Int).toNat - 1, by omega⟩
        rw [counted]
        have whole : IsWholePart (first :: others.take less) :=
          ⟨places.part (List.cons_ne_nil _ _) (List.take_subset (less + 1) (first :: others)),
            .inr leading⟩
        have fraction : IsPlaces (others.drop less) :=
          places.part (by simp; omega) (List.drop_subset (less + 1) (first :: others))
        exact .positional whole (.present fraction)
      · -- Zeros fill the places behind the point.
        rw [List.append_assoc]
        show IsUnsigned (['0'] ++ '.' :: (List.replicate _ '0' ++ first :: others))
        exact .positional isWholePart_zero (.present (places.zeros_append _))
  · -- One digit stands in front of the point, and the exponent says where it belongs.
    have exponent := isExponentPart_exponentText layout.signed
      (((first :: others).length : Int) + decimal.exponent - 1)
    have whole : IsWholePart [first] :=
      ⟨places.part (List.cons_ne_nil _ _) (by simp), .inr leading⟩
    cases others with
    | nil => exact .parts whole .absent exponent
    | cons second rest =>
      have fraction : IsPlaces (second :: rest) :=
        places.part (List.cons_ne_nil _ _) (List.subset_cons_self _ _)
      exact .parts whole (.present fraction) exponent

/-- A finite double is a number of JSON in any layout, behind a minus sign or without. -/
theorem Layout.finite_cases (layout : Layout) (value : Double) :
    ∃ unsigned, IsUnsigned unsigned ∧
      (layout.finite value = unsigned ∨ layout.finite value = '-' :: unsigned) := by
  have unsigned : IsUnsigned
      (if value.isZero then ['0', '.', '0'] else layout.positive (value.shortest layout.tie)) := by
    split
    · exact .positional isWholePart_zero (.present isWholePart_zero.toIsPlaces)
    · rename_i filled
      exact layout.isUnsigned_positive
        (Double.shortest_digits_ne_zero (Bool.eq_false_iff.mpr filled))
  refine ⟨_, unsigned, ?_⟩
  rw [finite]
  split
  · exact .inr rfl
  · exact .inl rfl

end Real

namespace Number

/-- A number is written as JSON has it, behind a minus sign or without. -/
theorem chars_cases (number : Number) : ∃ unsigned, Skeleton.IsUnsigned unsigned ∧
    (number.chars = unsigned ∨ number.chars = '-' :: unsigned) := by
  cases number with
  | whole value =>
    have whole := Skeleton.isWholePart_toDigits value.value.natAbs
    refine ⟨_, .positional whole .absent, ?_⟩
    rw [chars, List.append_nil]
    split
    · exact .inr rfl
    · exact .inl rfl
  | float value finite => exact Real.Layout.json.finite_cases value

theorem all_chars (number : Number) : number.chars.all Skeleton.isNumberChar = true := by
  have minus : Skeleton.isNumberChar '-' = true := by decide
  obtain ⟨text, unsigned, same | same⟩ := number.chars_cases
  · rw [same]
    exact unsigned.all_isNumberChar
  · rw [same, List.all_cons, minus, unsigned.all_isNumberChar]
    rfl

/-- What is written for the number is read as that number. -/
def ReadsBack (number : Number) : Prop :=
  Json.read? (Json.number number).text = some (.number number)

def numeral (number : Number) : Numeral :=
  ((Skeleton.signedNumber number.chars).map Prod.fst).getD (.ofWhole false 0)

/-- Whatever number is written, the reader takes its text to the end. -/
theorem signedNumber_chars (number : Number) :
    Skeleton.signedNumber number.chars = some (number.numeral, []) := by
  have taken : ∃ numeral, Skeleton.signedNumber number.chars = some (numeral, []) := by
    obtain ⟨text, unsigned, same | same⟩ := number.chars_cases
    · rw [same, Skeleton.signedNumber_of_head_ne unsigned.head?_ne]
      exact unsigned.exists_unsignedNumber false
    · rw [same]
      exact unsigned.exists_unsignedNumber true
  obtain ⟨numeral, parted⟩ := taken
  rw [Number.numeral, parted]
  rfl

theorem chars_eq_cons (number : Number) :
    ∃ char rest, number.chars = char :: rest ∧ Skeleton.isNumberChar char = true := by
  cases whole : number.chars with
  | nil =>
    have parted := number.signedNumber_chars
    rw [whole] at parted
    cases parted
  | cons char rest =>
    exact ⟨char, rest, rfl, List.all_eq_true.mp number.all_chars char (whole ▸ List.mem_cons_self)⟩

theorem value_chars (number : Number) (fuel : Nat) {rest : List Char}
    (ends : Skeleton.EndsNumber rest) :
    Skeleton.value (fuel + 1) (number.chars ++ rest) = some (.number number.numeral, rest) := by
  obtain ⟨char, others, whole, first⟩ := number.chars_eq_cons
  rw [whole, List.cons_append, Skeleton.value_of_number fuel _ first, ← List.cons_append, ← whole,
    Skeleton.signedNumber_append _ ends, number.signedNumber_chars]
  rfl

theorem value?_number (numeral : Numeral) :
    (Skeleton.number numeral).value? = numeral.number?.map .number := by
  have flat : (Skeleton.number numeral).depth ≤ Skeleton.maxDepth := by simp [Skeleton.depth]
  rw [Skeleton.value?, if_pos flat, Skeleton.valueBy?]

theorem read?_text_eq_some_iff {number : Number} {found : Json} :
    Json.read? (Json.number number).text = some found ↔
      ∃ numeral, Skeleton.signedNumber number.chars = some (numeral, []) ∧
        numeral.number?.map .number = some found := by
  simp only [Json.read?, Json.text, Json.chars, String.toList_ofList, Option.bind_eq_some_iff,
    Skeleton.read?_eq_some_iff_of_number number.all_chars]
  constructor
  · rintro ⟨skeleton, ⟨numeral, parted, rfl⟩, valued⟩
    exact ⟨numeral, parted, value?_number numeral ▸ valued⟩
  · rintro ⟨numeral, parted, valued⟩
    exact ⟨_, ⟨numeral, parted, rfl⟩, (value?_number numeral).symm ▸ valued⟩

theorem number?_numeral {number : Number} (back : number.ReadsBack) :
    number.numeral.number? = some number := by
  obtain ⟨numeral, parted, valued⟩ := read?_text_eq_some_iff.mp back
  obtain ⟨found, known, same⟩ := Option.map_eq_some_iff.mp valued
  simp only [Number.numeral, parted, Option.map_some, Option.getD_some]
  cases same
  exact known

theorem readsBack_whole (whole : Whole) : (Number.whole whole).ReadsBack := by
  obtain ⟨value, low, high⟩ := whole
  apply read?_text_eq_some_iff.mpr
  by_cases negative : value < 0
  · refine ⟨.ofWhole true value.natAbs, ?_, ?_⟩
    · rw [chars, if_pos negative]
      exact Skeleton.unsignedNumber_toDigits true value.natAbs
    · have same : -(value.natAbs : Int) = value := by omega
      rw [Numeral.number?_ofWhole_true (by omega) (by omega)]
      simp only [same, Option.map_some]
  · refine ⟨.ofWhole false value.natAbs, ?_, ?_⟩
    · have positive : (Nat.toDigits 10 value.natAbs).head? ≠ some '-' :=
        (Skeleton.isWholePart_toDigits value.natAbs).head?_ne rfl
      rw [chars, if_neg negative, Skeleton.signedNumber_of_head_ne positive]
      exact Skeleton.unsignedNumber_toDigits false value.natAbs
    · have same : (value.natAbs : Int) = value := by omega
      rw [Numeral.number?_ofWhole_false (by omega)]
      simp only [same, Option.map_some]

end Number

end CallJournal
