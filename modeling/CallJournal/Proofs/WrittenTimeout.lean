import CallJournal.Gateway
import CallJournal.Proofs.TimeoutText

/-! What is set is cut to the finest unit for which eight digits are enough. Each unit is a
multiple of every finer one. -/

namespace CallJournal

namespace Timeout

variable {unit finer other : Unit} {duration : Duration}

/-- The unit in which a duration is written: eight digits hold its whole units, and they would not
hold those of any finer unit. -/
structure IsFinest (unit : Unit) (duration : Duration) : Prop where
  fits : duration.nanos / unit.nanos ≤ largest
  least : ∀ finer : Unit, finer.nanos < unit.nanos → largest < duration.nanos / finer.nanos

/-- A duration without what is left behind its last whole unit. -/
def truncated (unit : Unit) (duration : Duration) : Duration :=
  ⟨duration.nanos / unit.nanos * unit.nanos⟩

theorem mem_all (unit : Unit) : unit ∈ Unit.all := by
  cases unit <;> decide

theorem nanos_pos (unit : Unit) : 0 < unit.nanos := by
  cases unit <;> decide

theorem eq_of_nanos_eq (same : unit.nanos = other.nanos) : unit = other := by
  cases unit <;> cases other <;> first | rfl | cases same

/-- Units are built on one another. -/
theorem nanos_dvd_of_le (coarser : finer.nanos ≤ unit.nanos) : finer.nanos ∣ unit.nanos := by
  have every : ∀ finer ∈ Unit.all, ∀ unit ∈ Unit.all, finer.nanos ≤ unit.nanos →
      unit.nanos % finer.nanos = 0 := by
    decide
  exact Nat.dvd_of_mod_eq_zero (every finer (mem_all finer) unit (mem_all unit) coarser)

theorem IsFinest.unique (finest : IsFinest unit duration) (another : IsFinest other duration) :
    unit = other := by
  rcases Nat.lt_trichotomy unit.nanos other.nanos with less | same | more
  · exact absurd finest.fits (Nat.not_le.mpr (another.least unit less))
  · exact eq_of_nanos_eq same
  · exact absurd another.fits (Nat.not_le.mpr (finest.least other more))

theorem isFinest_of_unitOf? (found : unitOf? duration = some unit) : IsFinest unit duration := by
  have ascending : Unit.all.Pairwise fun finer coarser => finer.nanos < coarser.nanos := by decide
  obtain ⟨fits, before, after, whole, refused⟩ := List.find?_eq_some_iff_append.mp found
  refine ⟨of_decide_eq_true fits, fun finer less => ?_⟩
  have listed := mem_all finer
  rw [whole] at ascending listed
  rcases List.mem_append.mp listed with earlier | later
  · simpa using refused finer earlier
  · have coarser : unit.nanos ≤ finer.nanos := by
      rcases List.mem_cons.mp later with rfl | behind
      · exact Nat.le_refl _
      · exact Nat.le_of_lt
          (List.rel_of_pairwise_cons (List.pairwise_append.mp ascending).2.1 behind)
    exact absurd less (Nat.not_lt.mpr coarser)

/-- As soon as eight digits are enough in some unit, one is found. -/
theorem exists_isFinest_of_fits (fits : duration.nanos / unit.nanos ≤ largest) :
    ∃ finer, unitOf? duration = some finer ∧ IsFinest finer duration := by
  cases found : unitOf? duration with
  | none =>
    have refused := List.find?_eq_none.mp found unit (mem_all unit)
    exact absurd (decide_eq_true fits) refused
  | some finer => exact ⟨finer, rfl, isFinest_of_unitOf? found⟩

theorem unitOf?_of_isFinest (finest : IsFinest unit duration) : unitOf? duration = some unit := by
  obtain ⟨other, found, another⟩ := exists_isFinest_of_fits finest.fits
  rw [found, another.unique finest]

/-- Below 10^8 hours there is a unit in which a duration can be written. -/
theorem exists_isFinest (short : duration.nanos < 100000000 * Unit.hour.nanos) :
    ∃ unit, IsFinest unit duration := by
  have fits : duration.nanos / Unit.hour.nanos < 100000000 :=
    (Nat.div_lt_iff_lt_mul (nanos_pos _)).mpr short
  obtain ⟨unit, -, finest⟩ := exists_isFinest_of_fits (Nat.le_of_lt_succ fits)
  exact ⟨unit, finest⟩

/-- A number of whole units, with the letter of the unit behind it. -/
def writtenText (unit : Unit) (duration : Duration) : String :=
  String.ofList (Nat.toDigits 10 (duration.nanos / unit.nanos) ++ [unit.letter])

theorem write?_of_isFinest (finest : IsFinest unit duration) :
    write? duration = some (writtenText unit duration) := by
  rw [write?, unitOf?_of_isFinest finest, Option.map_some, writtenText]

/-- What is written is a timeout text: its number has at most eight digits. -/
theorem spells_writtenText (finest : IsFinest unit duration) :
    Spells (Nat.toDigits 10 (duration.nanos / unit.nanos)) unit (writtenText unit duration) where
  whole := String.toList_ofList
  filled := Nat.toDigits_ne_nil
  short := (Nat.length_toDigits_le_iff (by decide) (by decide)).mpr (Nat.lt_succ_of_le finest.fits)
  decimal _ among := Text.isDigit_iff.mp
    (Nat.isDigit_of_mem_toDigits (by decide) (by decide) among)

theorem read?_writtenText (finest : IsFinest unit duration) :
    read? (writtenText unit duration) = some (truncated unit duration) :=
  read?_eq_some_iff.mpr ⟨_, unit, spells_writtenText finest,
    congrArg (· * unit.nanos) (Nat.ofDigitChars_ten_toDigits).symm⟩

theorem truncated_le (unit : Unit) (duration : Duration) :
    (truncated unit duration).nanos ≤ duration.nanos :=
  Nat.div_mul_le_self _ _

theorem lt_truncated_add (unit : Unit) (duration : Duration) :
    duration.nanos < (truncated unit duration).nanos + unit.nanos :=
  Nat.lt_div_mul_add (nanos_pos unit)

theorem truncated_eq_self (whole : unit.nanos ∣ duration.nanos) :
    truncated unit duration = duration := by
  rw [truncated, Nat.div_mul_cancel whole]

/-- Whole units can be written in the same unit, so the unit in which they are written is none that
is coarser, and nothing is cut off. -/
theorem exists_isFinest_truncated (finest : IsFinest unit duration) :
    ∃ finer, IsFinest finer (truncated unit duration) ∧
      truncated finer (truncated unit duration) = truncated unit duration := by
  have fits : (truncated unit duration).nanos / unit.nanos ≤ largest := by
    rw [truncated, Nat.mul_div_cancel _ (nanos_pos unit)]
    exact finest.fits
  obtain ⟨finer, -, again⟩ := exists_isFinest_of_fits fits
  have coarser : finer.nanos ≤ unit.nanos :=
    Nat.le_of_not_lt fun less => Nat.not_le.mpr (again.least unit less) fits
  have whole : finer.nanos ∣ (truncated unit duration).nanos :=
    Nat.dvd_trans (nanos_dvd_of_le coarser) (Nat.dvd_mul_left _ _)
  exact ⟨finer, again, truncated_eq_self whole⟩

/-- Digits and letters of units are readable where they are sent. -/
theorem Spells.readable {digits : List Char} {text : String} (spelt : Spells digits unit text) :
    (octetsOf text).all Metadata.isReadable = true := by
  have every : ∀ number < 128, 0x20 ≤ number → number ≤ 0x7e →
      (String.utf8EncodeChar (Char.ofNat number)).all Metadata.isReadable = true := by
    decide
  apply Metadata.readable_of_chars
  intro char among
  have printable : 0x20 ≤ char.toNat ∧ char.toNat ≤ 0x7e := by
    rw [spelt.whole, List.mem_append, List.mem_singleton] at among
    rcases among with digit | rfl
    · have bounds := Char.isDigit_iff_toNat.mp (List.all_eq_true.mp spelt.numeric char digit)
      exact ⟨Nat.le_trans (by decide) bounds.1, Nat.le_trans bounds.2 (by decide)⟩
    · cases unit <;> decide
  have encoded := every char.toNat (Nat.lt_succ_of_le (Nat.le_trans printable.2 (by decide)))
    printable.1 printable.2
  rwa [Char.ofNat_toNat] at encoded

end Timeout

namespace Request

variable (request : Request) {unit : Timeout.Unit} {duration : Duration}

theorem textKey?_timeoutHeader : Metadata.textKey? timeoutHeader = some timeoutHeader := by
  decide

theorem setTimeout?_of_isFinest (finest : Timeout.IsFinest unit duration) :
    request.setTimeout? duration = some { request with
      metadata := request.metadata.replace timeoutHeader
        (octetsOf (Timeout.writtenText unit duration)) } := by
  rw [setTimeout?, Timeout.write?_of_isFinest finest, Option.map_some]

/-- What has been set is what is read, whatever stood there before. -/
theorem timeout?_setTimeout? (finest : Timeout.IsFinest unit duration) :
    (request.setTimeout? duration).bind timeout? = some (Timeout.truncated unit duration) := by
  have values := request.metadata.values_replace_same timeoutHeader
    (octetsOf (Timeout.writtenText unit duration))
  have readable := (Timeout.spells_writtenText finest).readable
  rw [setTimeout?_of_isFinest request finest, Option.bind_some, timeout?,
    Metadata.text?_of_values textKey?_timeoutHeader values readable, Option.bind_some]
  exact Timeout.read?_writtenText finest

/-- A timeout below 10^8 hours is read again, cut to units of the finest kind in which eight
digits are enough. Setting what was read gives the same again. -/
theorem set_timeout_is_read_back (short : duration.nanos < 100000000 * Timeout.Unit.hour.nanos) :
    ∃ unit set timeout, Timeout.IsFinest unit duration ∧
      request.setTimeout? duration = some set ∧
      set.method = request.method ∧ set.body = request.body ∧
      set.metadata.values timeoutHeader = [octetsOf (Timeout.writtenText unit duration)] ∧
      (∀ key, key ≠ timeoutHeader → set.metadata.values key = request.metadata.values key) ∧
      set.timeout? = some timeout ∧
      timeout.nanos ≤ duration.nanos ∧ duration.nanos < timeout.nanos + unit.nanos ∧
      (unit.nanos ∣ duration.nanos → timeout = duration) ∧
      ∀ other : Request, ∃ again, other.setTimeout? timeout = some again ∧
        again.timeout? = some timeout := by
  obtain ⟨unit, finest⟩ := Timeout.exists_isFinest short
  have stored := request.setTimeout?_of_isFinest finest
  have read := request.timeout?_setTimeout? finest
  rw [stored, Option.bind_some] at read
  refine ⟨unit, _, Timeout.truncated unit duration, finest, stored, rfl, rfl,
    request.metadata.values_replace_same _ _, fun key differs => ?_, read,
    Timeout.truncated_le unit duration, Timeout.lt_truncated_add unit duration,
    Timeout.truncated_eq_self, fun other => ?_⟩
  · exact request.metadata.values_replace_other _ differs
  · obtain ⟨finer, again, whole⟩ := Timeout.exists_isFinest_truncated finest
    have later := other.timeout?_setTimeout? again
    rw [other.setTimeout?_of_isFinest again, Option.bind_some, whole] at later
    exact ⟨_, other.setTimeout?_of_isFinest again, later⟩

/-- 10^8 seconds are written in minutes and lose forty seconds; the rest is written in seconds. -/
theorem set_timeout_of_nine_digits_is_read_back :
    let request : Request := ⟨"/svc.Pkg/Method", "", ⟨[(timeoutHeader, [0xff])]⟩⟩
    let duration : Duration := .ofSeconds 100000000
    let timeout : Duration := .ofSeconds 99999960
    duration.nanos < 100000000 * Timeout.Unit.hour.nanos ∧ Timeout.IsFinest .minute duration ∧
      Timeout.IsFinest .second timeout ∧
      ∃ set, request.setTimeout? duration = some set ∧ set.timeout? = some timeout ∧
        ∀ other : Request, ∃ again, other.setTimeout? timeout = some again ∧
          again.timeout? = some timeout := by
  intro request duration timeout
  have short : duration.nanos < 100000000 * Timeout.Unit.hour.nanos := by decide
  have minutes : Timeout.IsFinest .minute duration := ⟨by decide +kernel, fun finer less => by
    cases finer <;> revert less <;> decide +kernel⟩
  have seconds : Timeout.IsFinest .second timeout := ⟨by decide +kernel, fun finer less => by
    cases finer <;> revert less <;> decide +kernel⟩
  obtain ⟨unit, set, found, finest, stored, -, -, -, -, read, -, -, -, again⟩ :=
    request.set_timeout_is_read_back short
  have cut : Timeout.truncated .minute duration = timeout := by decide +kernel
  have whole := request.timeout?_setTimeout? minutes
  rw [stored, Option.bind_some, read, cut] at whole
  obtain rfl := Option.some.inj whole
  exact ⟨short, minutes, seconds, set, stored, read, again⟩

end Request

end CallJournal
