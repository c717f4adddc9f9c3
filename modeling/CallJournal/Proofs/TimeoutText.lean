import CallJournal.Text.Ascii
import CallJournal.Timeout

namespace CallJournal

namespace Text

theorem octetCount_of_ascii {text : List Char} (ascii : ∀ char ∈ text, char.toNat < 128) :
    octetCount text = text.length := by
  induction text with
  | nil => rfl
  | cons char rest ih =>
    obtain ⟨head, tail⟩ := List.forall_mem_cons.mp ascii
    have single : char.utf8Size = 1 :=
      Char.utf8Size_eq_one_iff.mpr (UInt32.le_iff_toNat_le.mpr (Nat.le_of_lt_succ head))
    rw [octetCount_cons, single, ih tail, List.length_cons, Nat.add_comm]

end Text

namespace Timeout

variable {digits front : List Char} {unit : Unit} {text : String} {letter : Char}

/-- A text that is a timeout: one to eight digits, and behind them the letter of a unit. -/
structure Spells (digits : List Char) (unit : Unit) (text : String) : Prop where
  whole : text.toList = digits ++ [unit.letter]
  filled : digits ≠ []
  short : digits.length ≤ 8
  decimal : ∀ digit ∈ digits, '0' ≤ digit ∧ digit ≤ '9'

def decimal (digits : List Char) : Nat := Nat.ofDigitChars 10 digits 0

theorem ofLetter?_eq_some_iff : Unit.ofLetter? letter = some unit ↔ letter = unit.letter := by
  constructor
  · intro found
    have same := (List.find?_eq_some_iff_append.mp found).1
    exact (beq_iff_eq.mp same).symm
  · rintro rfl
    cases unit <;> rfl

theorem toNat_letter_lt (unit : Unit) : unit.letter.toNat < 128 := by
  cases unit <;> decide

theorem toNat_lt_of_isDigit {char : Char} (digit : char.isDigit = true) : char.toNat < 128 :=
  Nat.lt_of_le_of_lt (Char.isDigit_iff_toNat.mp digit).2 (by decide)

theorem decimal_le (numeric : digits.all Char.isDigit = true) (short : digits.length ≤ 8) :
    decimal digits ≤ largest := by
  have below := ofDigitChars_lt numeric 0
  have power : Nat.pow 10 digits.length ≤ Nat.pow 10 8 := Nat.pow_le_pow_right (by decide) short
  have eight : Nat.pow 10 8 = largest + 1 := by decide
  rw [decimal]
  omega

theorem unsigned_of_digits (numeric : digits.all Char.isDigit = true) :
    unsigned digits = digits := by
  unfold unsigned
  split
  · cases numeric
  · rfl

theorem number?_of_short (numeric : digits.all Char.isDigit = true) (filled : digits ≠ [])
    (short : digits.length ≤ 8) : number? digits = some (decimal digits) := by
  have fits : Nat.ofDigitChars 10 digits 0 < 0x10000000000000000 :=
    Nat.lt_of_le_of_lt (decimal_le numeric short) (by decide)
  have present : ¬ digits.isEmpty = true := fun vacant => filled (List.isEmpty_iff.mp vacant)
  rw [number?, unsigned_of_digits numeric, if_neg present]
  exact extended?_of_lt numeric fits

theorem product_of_lt {left right : Nat} (fits : left * right < 0x10000000000000000) :
    product left right = .ok (left * right) := if_pos fits

/-- No number that a timeout can hold makes a product that does not fit. -/
theorem times_of_le (unit : Unit) {amount : Nat} (small : amount ≤ largest) :
    unit.times amount = .ok ⟨amount * unit.nanos⟩ := by
  rw [largest] at small
  have minutes : product amount 60 = .ok (amount * 60) := product_of_lt (by omega)
  have hours : product (amount * 60) 60 = .ok (amount * 60 * 60) := product_of_lt (by omega)
  cases unit with
  | nanosecond => simp [Unit.times, Unit.nanos]
  | microsecond => rfl
  | millisecond => rfl
  | second => rfl
  | minute =>
    rw [Unit.times, minutes]
    simp only [Except.map, Duration.ofSeconds, Duration.nanosPerSecond, Unit.nanos, Nat.mul_assoc]
  | hour =>
    rw [Unit.times, minutes]
    simp only [Except.bind, hours, Except.map, Duration.ofSeconds, Duration.nanosPerSecond,
      Unit.nanos, Nat.mul_assoc]

theorem ofParts_of_short (numeric : digits.all Char.isDigit = true) (filled : digits ≠ [])
    (short : digits.length ≤ 8) (letter : Char) :
    ofParts digits [letter] =
      .ok ((Unit.ofLetter? letter).map fun unit => ⟨decimal digits * unit.nanos⟩) := by
  have ascii : ∀ char ∈ digits, char.toNat < 128 := fun char among =>
    toNat_lt_of_isDigit (List.all_eq_true.mp numeric char among)
  have accepted : ¬ (decide (8 < Text.octetCount digits) || !digits.all Char.isDigit) = true := by
    rw [Text.octetCount_of_ascii ascii, numeric]
    simpa using short
  rw [ofParts, if_neg accepted, number?_of_short numeric filled short, Unit.ofText?]
  cases Unit.ofLetter? letter with
  | none => rfl
  | some unit =>
    dsimp only
    rw [times_of_le unit (decimal_le numeric short)]
    rfl

/-- Whatever is behind them, other characters than one to eight digits make no timeout. -/
theorem ofParts_of_refused (ascii : ∀ char ∈ front, char.toNat < 128)
    (refused : ¬ (front.all Char.isDigit = true ∧ front.length ≤ 8)) (behind : List Char) :
    ofParts front behind = .ok none := by
  apply if_pos
  rw [Text.octetCount_of_ascii ascii]
  by_cases short : front.length ≤ 8
  · simp [short] at refused
    simpa [Nat.not_lt.mpr short] using refused
  · simp [Nat.lt_of_not_le short]

theorem attempt_of_ascii (whole : text.toList = front ++ [letter]) (filled : front ≠ [])
    (ascii : ∀ char ∈ text.toList, char.toNat < 128) : attempt text = ofParts front [letter] := by
  have before : ∀ char ∈ front, char.toNat < 128 := fun char among =>
    ascii char (whole ▸ List.mem_append_left _ among)
  have size : Text.octetCount text.toList = front.length + 1 := by
    rw [Text.octetCount_of_ascii ascii, whole, List.length_append, List.length_singleton]
  have cut : Text.cutAt? (Text.octetCount text.toList - 1) text.toList = some (front, [letter]) :=
    Text.cutAt?_eq_some_iff.mpr ⟨whole, by rw [Text.octetCount_of_ascii before, size]; rfl⟩
  have long : ¬ Text.octetCount text.toList < 2 := by
    have positive := List.length_pos_iff.mpr filled
    omega
  have accepted : ¬ (decide (Text.octetCount text.toList < 2) ||
      !text.toList.all (·.toNat < 128)) = true := by
    simpa [long] using ascii
  simp only [attempt, if_neg accepted, cut]

theorem spells_of_all (whole : text.toList = digits ++ [unit.letter]) (filled : digits ≠ [])
    (short : digits.length ≤ 8) (numeric : digits.all Char.isDigit = true) :
    Spells digits unit text :=
  ⟨whole, filled, short, fun digit among =>
    Text.isDigit_iff.mp (List.all_eq_true.mp numeric digit among)⟩

theorem Spells.numeric (spelt : Spells digits unit text) : digits.all Char.isDigit = true :=
  List.all_eq_true.mpr fun digit among => Text.isDigit_iff.mpr (spelt.decimal digit among)

theorem Spells.ascii (spelt : Spells digits unit text) :
    ∀ char ∈ text.toList, char.toNat < 128 := by
  intro char among
  rw [spelt.whole, List.mem_append, List.mem_singleton] at among
  rcases among with digit | rfl
  · exact toNat_lt_of_isDigit (List.all_eq_true.mp spelt.numeric char digit)
  · exact toNat_letter_lt unit

theorem attempt_of_spells (spelt : Spells digits unit text) :
    attempt text = .ok (some ⟨decimal digits * unit.nanos⟩) := by
  rw [attempt_of_ascii spelt.whole spelt.filled spelt.ascii,
    ofParts_of_short spelt.numeric spelt.filled spelt.short, ofLetter?_eq_some_iff.mpr rfl]
  rfl

theorem exists_last {chars : List Char} (long : 2 ≤ chars.length) :
    ∃ front letter, chars = front ++ [letter] ∧ front ≠ [] := by
  have filled : chars ≠ [] := List.length_pos_iff.mp (Nat.lt_of_succ_lt long)
  refine ⟨chars.dropLast, chars.getLast filled, (List.dropLast_concat_getLast filled).symm, ?_⟩
  apply List.length_pos_iff.mp
  rw [List.length_dropLast]
  omega

theorem attempt_of_not_spells (unspelt : ∀ digits unit, ¬ Spells digits unit text) :
    attempt text = .ok none := by
  by_cases guarded : 2 ≤ text.toList.length ∧ ∀ char ∈ text.toList, char.toNat < 128
  · obtain ⟨long, ascii⟩ := guarded
    obtain ⟨front, letter, whole, filled⟩ := exists_last long
    rw [attempt_of_ascii whole filled ascii]
    by_cases accepted : front.all Char.isDigit = true ∧ front.length ≤ 8
    · obtain ⟨numeric, short⟩ := accepted
      rw [ofParts_of_short numeric filled short]
      cases named : Unit.ofLetter? letter with
      | none => rfl
      | some unit =>
        obtain rfl := ofLetter?_eq_some_iff.mp named
        exact absurd ⟨whole, filled, short, fun digit among =>
          Text.isDigit_iff.mp (List.all_eq_true.mp numeric digit among)⟩ (unspelt front unit)
    · have before : ∀ char ∈ front, char.toNat < 128 := fun char among =>
        ascii char (whole ▸ List.mem_append_left _ among)
      exact ofParts_of_refused before accepted [letter]
  · apply if_pos
    by_cases ascii : ∀ char ∈ text.toList, char.toNat < 128
    · have brief : text.toList.length < 2 := Nat.lt_of_not_le fun long => guarded ⟨long, ascii⟩
      simp only [Text.octetCount_of_ascii ascii, brief, decide_true, Bool.true_or]
    · have foreign : text.toList.all (·.toNat < 128) = false := by
        simpa using ascii
      simp only [foreign, Bool.not_false, Bool.or_true]

theorem read?_eq_some_iff {duration : Duration} : read? text = some duration ↔
    ∃ digits unit, Spells digits unit text ∧ duration.nanos = decimal digits * unit.nanos := by
  constructor
  · intro read
    by_cases spelt : ∃ digits unit, Spells digits unit text
    · obtain ⟨digits, unit, spelt⟩ := spelt
      rw [read?, attempt_of_spells spelt] at read
      cases read
      exact ⟨digits, unit, spelt, rfl⟩
    · rw [read?, attempt_of_not_spells fun digits unit same => spelt ⟨digits, unit, same⟩] at read
      cases read
  · rintro ⟨digits, unit, spelt, length⟩
    rw [read?, attempt_of_spells spelt, ← length]

/-- Nothing stops the reading of a text: a cut is made between characters, and products fit. -/
theorem attempt_eq_ok (text : String) : attempt text = .ok (read? text) := by
  by_cases spelt : ∃ digits unit, Spells digits unit text
  · obtain ⟨digits, unit, spelt⟩ := spelt
    rw [read?, attempt_of_spells spelt]
  · rw [read?, attempt_of_not_spells fun digits unit same => spelt ⟨digits, unit, same⟩]

/-- The letters of the units, with the nanoseconds in each: hours, minutes, seconds, and the
thousandths, millionths and billionths of a second. -/
def sizes : List (Char × Nat) :=
  [('H', 3600 * 1000000000), ('M', 60 * 1000000000), ('S', 1000000000), ('m', 1000000),
    ('u', 1000), ('n', 1)]

theorem mem_sizes_iff {size : Nat} :
    (letter, size) ∈ sizes ↔ ∃ unit : Unit, unit.letter = letter ∧ unit.nanos = size := by
  constructor
  · intro listed
    simp only [sizes, List.mem_cons, Prod.mk.injEq, List.not_mem_nil, or_false] at listed
    rcases listed with ⟨rfl, rfl⟩ | ⟨rfl, rfl⟩ | ⟨rfl, rfl⟩ | ⟨rfl, rfl⟩ | ⟨rfl, rfl⟩ | ⟨rfl, rfl⟩
    · exact ⟨.hour, rfl, rfl⟩
    · exact ⟨.minute, rfl, rfl⟩
    · exact ⟨.second, rfl, rfl⟩
    · exact ⟨.millisecond, rfl, rfl⟩
    · exact ⟨.microsecond, rfl, rfl⟩
    · exact ⟨.nanosecond, rfl, rfl⟩
  · rintro ⟨unit, rfl, rfl⟩
    cases unit <;> decide

/-- A timeout is read from one to eight digits with one of six letters behind them, and from no
other text. No cut goes through a character, and no product overflows. -/
theorem timeout_is_read_exactly (text : String) :
    (∀ fault, attempt text ≠ .error fault) ∧
    ∀ duration, read? text = some duration ↔
      ∃ digits letter size, text.toList = digits ++ [letter] ∧
        1 ≤ digits.length ∧ digits.length ≤ 8 ∧
        (∀ digit ∈ digits, '0' ≤ digit ∧ digit ≤ '9') ∧
        (letter, size) ∈ sizes ∧ duration.nanos = decimal digits * size := by
  constructor
  · intro fault failed
    rw [attempt_eq_ok text] at failed
    cases failed
  · intro duration
    rw [read?_eq_some_iff]
    constructor
    · rintro ⟨digits, unit, spelt, length⟩
      exact ⟨digits, unit.letter, unit.nanos, spelt.whole, List.length_pos_iff.mpr spelt.filled,
        spelt.short, spelt.decimal, mem_sizes_iff.mpr ⟨unit, rfl, rfl⟩, length⟩
    · rintro ⟨digits, letter, size, whole, filled, short, numeric, listed, length⟩
      obtain ⟨unit, rfl, rfl⟩ := mem_sizes_iff.mp listed
      exact ⟨digits, unit, ⟨whole, List.length_pos_iff.mp filled, short, numeric⟩, length⟩

/-- No timeout that can be read is longer than the largest number of hours. -/
theorem nanos_le_of_read? {duration : Duration} (read : read? text = some duration) :
    duration.nanos ≤ largest * Unit.hour.nanos := by
  obtain ⟨digits, unit, spelt, length⟩ := read?_eq_some_iff.mp read
  have coarse : unit.nanos ≤ Unit.hour.nanos := by cases unit <;> decide
  rw [length]
  exact Nat.mul_le_mul (decimal_le spelt.numeric spelt.short) coarse

end Timeout

end CallJournal
