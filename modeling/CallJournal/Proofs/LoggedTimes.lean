import CallJournal.Proofs.Deadline
import CallJournal.Proofs.SentId
import CallJournal.Proofs.TimeText
import CallJournal.Proofs.WrittenTimeout

/-! The deadline of a call may lie in a year of five digits, and then it is no RFC 3339 time. -/

namespace CallJournal

namespace Instant

variable {instant later : Instant} {duration : Duration}

theorem year_lt_iff {year : Int} : instant.date.year < year ↔
    instant.seconds < Date.toDay ⟨year, 1, 1⟩ * secondsPerDay := by
  rw [date, Date.year_ofDay_lt_iff]
  simp only [secondsPerDay]
  omega

theorem isOnClock_of_lt (whole : instant.nanos < Duration.nanosPerSecond) : instant.IsOnClock where
  nanos := Nat.lt_of_lt_of_le whole (by decide)
  leap inside := absurd (of_decide_eq_true inside) (Nat.not_le.mpr whole)

/-- The calendar goes on for more than 10^8 hours behind the year 9999. -/
theorem leavesRoom_of_year_le (early : instant.date.year ≤ 9999)
    (nanos : instant.nanos < 2 * Duration.nanosPerSecond) : instant.LeavesRoom where
  seconds := by
    have before : instant.seconds < Date.toDay ⟨10000, 1, 1⟩ * secondsPerDay :=
      year_lt_iff.mp (Int.lt_add_one_of_le early)
    have enough : Date.toDay ⟨10000, 1, 1⟩ * secondsPerDay + 360000000000 ≤
        lastDay * secondsPerDay := by decide
    omega
  nanos := nanos

/-- Outside of leap seconds a sum has all the seconds that are full, and the nanoseconds behind. -/
theorem plus?_of_whole (whole : instant.nanos < Duration.nanosPerSecond)
    (sum : instant.plus? duration = some later) :
    later.nanos < Duration.nanosPerSecond ∧ later.seconds = instant.seconds +
      ((instant.nanos + duration.nanos) / Duration.nanosPerSecond : Nat) := by
  have common : instant.inLeapSecond = false := decide_eq_false (Nat.not_le.mpr whole)
  simp only [plus?, common, Bool.false_eq_true, if_false, Option.ite_none_right_eq_some,
    Option.some.injEq] at sum
  obtain ⟨-, rfl⟩ := sum
  exact ⟨Nat.mod_lt _ (by decide), rfl⟩

theorem seconds_le_of_plus? (sum : instant.plus? duration = some later) :
    instant.seconds ≤ later.seconds := by
  simp only [plus?, Option.ite_none_right_eq_some, Option.some.injEq] at sum
  obtain ⟨-, rfl⟩ := sum
  split
  · split
    · exact Int.le_refl _
    · exact Int.le_add_of_nonneg_right (Int.natCast_nonneg _)
  · exact Int.le_add_of_nonneg_right (Int.natCast_nonneg _)

theorem year_le_of_plus? (sum : instant.plus? duration = some later) :
    instant.date.year ≤ later.date.year := by
  apply Int.le_of_not_gt
  intro earlier
  have before := year_lt_iff.mp earlier
  have own := mt year_lt_iff.mpr (Int.lt_irrefl instant.date.year)
  have order := seconds_le_of_plus? sum
  omega

end Instant

namespace Request

variable {request : Request} {timeout : Duration} {digits : List Char} {unit : Timeout.Unit}

/-- The first value of the timeout header is readable, and it is a timeout text: some digits and the
letter of a unit. -/
structure BearsTimeout (request : Request) (digits : List Char) (unit : Timeout.Unit)
    (text : String) : Prop where
  first : (request.metadata.values timeoutHeader).head? = some (octetsOf text)
  readable : (octetsOf text).all Metadata.isReadable = true
  spelt : Timeout.Spells digits unit text

theorem timeout?_eq_some_iff : request.timeout? = some timeout ↔
    ∃ digits unit text, request.BearsTimeout digits unit text ∧
      timeout.nanos = Timeout.decimal digits * unit.nanos := by
  rw [timeout?, Option.bind_eq_some_iff]
  constructor
  · rintro ⟨text, found, read⟩
    obtain ⟨first, readable⟩ := Metadata.text?_eq_some_iff.mp found
    obtain ⟨digits, unit, spelt, length⟩ := Timeout.read?_eq_some_iff.mp read
    rw [Metadata.first?_eq_head? _ textKey?_timeoutHeader] at first
    exact ⟨digits, unit, text, ⟨first, readable, spelt⟩, length⟩
  · rintro ⟨digits, unit, text, bears, length⟩
    refine ⟨text, Metadata.text?_eq_some_iff.mpr ⟨?_, bears.readable⟩,
      Timeout.read?_eq_some_iff.mpr ⟨digits, unit, bears.spelt, length⟩⟩
    rw [Metadata.first?_eq_head? _ textKey?_timeoutHeader, bears.first]

theorem BearsTimeout.timeout? {text : String} (bears : request.BearsTimeout digits unit text) :
    request.timeout? = some ⟨Timeout.decimal digits * unit.nanos⟩ :=
  timeout?_eq_some_iff.mpr ⟨digits, unit, text, bears, rfl⟩

end Request

namespace Gateway

variable (gateway : Gateway) (call : Call) (shared : Shared)

/-- The fields that the gateway puts on the logger of a call. -/
def writtenFields : Fields := (gateway.draft call shared).fields

/-- The logger of a call is the gateway's own, with another filter and these fields. -/
theorem loggerOf_start_eq : (gateway.start call shared).2.2.loggerOf
    (gateway.start call shared).2.1.extensions =
      (gateway.logger.withFilter (gateway.filterOf (gateway.draft call shared).metadata)).withFields
        (gateway.writtenFields call shared) :=
  gateway.loggerOf_start call shared

/-- The names of fields that a gateway adds to what a call says of itself. -/
def addedNames : List String := [RequestId.field, FieldName.logFlag, Token.accountField]

theorem get?_writtenFields {name : String} (own : name ∉ addedNames) :
    (gateway.writtenFields call shared).get? name =
      (call.request.knownFields shared.reading.time).get? name := by
  obtain ⟨unidentified, unflagged, unaccounted⟩ : name ≠ RequestId.field ∧
      name ≠ FieldName.logFlag ∧ name ≠ Token.accountField := by
    simpa [addedNames] using own
  rw [writtenFields, draft, get?_account_other _ _ _ unaccounted, get?_flag_other _ _ unflagged]
  unfold identify
  split
  · rfl
  · rw [Fields.get?_insert, if_neg unidentified]

theorem get?_startTime : (gateway.writtenFields call shared).get? FieldName.startTime =
    some (.string shared.reading.time.text) := by
  rw [get?_writtenFields _ _ _ (by decide), Request.knownFields, callFields,
    Fields.get?_insert?_other _ _ (by decide)]
  simp [Fields.ofList, Fields.get?_insert, Json.arranged]

theorem get?_deadline : (gateway.writtenFields call shared).get? FieldName.deadline =
    (call.request.timeout?.bind shared.reading.time.plus?).map fun deadline =>
      .string deadline.text := by
  rw [get?_writtenFields _ _ _ (by decide), Request.knownFields, callFields,
    Fields.get?_insert?_same, Request.deadline?_eq]
  have absent : (Fields.ofList
      [(FieldName.system, .string "grpc"), (FieldName.kind, .string "gateway"),
        (FieldName.service, .string (MethodPath.split call.request.method).service),
        (FieldName.method, .string (MethodPath.split call.request.method).method),
        (FieldName.startTime, .string shared.reading.time.text)]).get?
          FieldName.deadline = none := by
    simp [Fields.ofList, Fields.get?_insert, FieldName.deadline, FieldName.system, FieldName.kind,
      FieldName.service, FieldName.method, FieldName.startTime]
  rw [absent, Option.or_none, Option.map_map]
  rfl

/-- A call that begins before the year 10000, in no leap second, has a deadline exactly if its
first timeout value is a timeout; the two written times are apart by its full seconds, or by one
more. -/
theorem deadline_is_start_plus_timeout (early : shared.reading.time.date.year ≤ 9999)
    (whole : shared.reading.time.nanos < Duration.nanosPerSecond) :
    let begun := shared.reading.time
    let started := gateway.start call shared
    let fields := gateway.writtenFields call shared
    (∃ filter, started.2.2.loggerOf started.2.1.extensions =
      (gateway.logger.withFilter filter).withFields fields) ∧
    ((∃ value, fields.get? FieldName.deadline = some value) ↔
      ∃ digits unit text, call.request.BearsTimeout digits unit text) ∧
    ∀ digits unit text, call.request.BearsTimeout digits unit text →
      let timeout : Duration := ⟨Timeout.decimal digits * unit.nanos⟩
      timeout.isCountable = true ∧
      ∃ deadline startText deadlineText due,
        begun.plus? timeout = some deadline ∧
        fields.get? FieldName.startTime = some (.string startText) ∧
        fields.get? FieldName.deadline = some (.string deadlineText) ∧
        Instant.readSeconds? startText = some begun.seconds ∧
        Instant.readSeconds? deadlineText = some due ∧
        due - begun.seconds =
          ((begun.nanos + timeout.nanos) / Duration.nanosPerSecond : Nat) ∧
        (due - begun.seconds = timeout.seconds ∨ due - begun.seconds = timeout.seconds + 1) := by
  intro begun started fields
  have whole : begun.nanos < Duration.nanosPerSecond := whole
  have room : begun.LeavesRoom :=
    Instant.leavesRoom_of_year_le early (Nat.lt_of_lt_of_le whole (by decide))
  refine ⟨⟨_, gateway.loggerOf_start_eq call shared⟩, ?_, ?_⟩
  · rw [get?_deadline]
    constructor
    · rintro ⟨value, found⟩
      obtain ⟨deadline, sum, -⟩ := Option.map_eq_some_iff.mp found
      obtain ⟨timeout, timed, -⟩ := Option.bind_eq_some_iff.mp sum
      obtain ⟨digits, unit, text, bears, -⟩ := Request.timeout?_eq_some_iff.mp timed
      exact ⟨digits, unit, text, bears⟩
    · rintro ⟨digits, unit, text, bears⟩
      obtain ⟨deadline, sum⟩ := (Request.exists_deadline_iff room).mpr ⟨_, bears.timeout?⟩
      exact ⟨_, Option.map_eq_some_iff.mpr ⟨deadline, sum, rfl⟩⟩
  · intro digits unit text bears timeout
    have read : Timeout.read? text = some timeout :=
      Timeout.read?_eq_some_iff.mpr ⟨_, _, bears.spelt, rfl⟩
    obtain ⟨deadline, sum⟩ := Instant.plus?_of_leavesRoom room (Timeout.nanos_le_of_read? read)
    obtain ⟨rest, seconds⟩ := Instant.plus?_of_whole whole sum
    -- Both texts are cut to seconds, so what had passed of the start's second counts.
    have passed : deadline.seconds - begun.seconds =
        ((begun.nanos + timeout.nanos) / Duration.nanosPerSecond : Nat) := by
      omega
    have written : fields.get? FieldName.deadline = some (.string deadline.text) := by
      rw [get?_deadline, bears.timeout?, Option.bind_some, sum, Option.map_some]
    refine ⟨Timeout.isCountable_of_read? read, deadline, _, _, _, sum,
      gateway.get?_startTime call shared, written,
      Instant.readSeconds?_text (Instant.isOnClock_of_lt whole),
      Instant.readSeconds?_text (Instant.isOnClock_of_lt rest), passed, ?_⟩
    simp only [passed, Duration.seconds, Duration.nanosPerSecond] at whole ⊢
    omega

/-- A timeout of one nanosecond is enough for a deadline on the next day. -/
theorem deadline_of_one_nanosecond_is_on_leap_day :
    let gateway : Gateway := ⟨.standard, .standard, .silent⟩
    let call : Call := ⟨⟨"/svc.Pkg/Method", "b", ⟨[(timeoutHeader, octetsOf "1n")]⟩⟩, .empty⟩
    let shared : Shared := .start (fun _ => ⟨⟨1709164799, 999999999⟩, 0⟩) (fun _ => 0)
    let fields := gateway.writtenFields call shared
    shared.reading.time.date.year ≤ 9999 ∧
      shared.reading.time.nanos < Duration.nanosPerSecond ∧
      call.request.BearsTimeout ['1'] .nanosecond "1n" ∧
      ∃ startText deadlineText due,
        fields.get? FieldName.startTime = some (.string startText) ∧
        fields.get? FieldName.deadline = some (.string deadlineText) ∧
        startText = "2024-02-28T23:59:59Z" ∧ deadlineText = "2024-02-29T00:00:00Z" ∧
        Instant.readSeconds? startText = some 1709164799 ∧
        Instant.readSeconds? deadlineText = some due ∧ due - 1709164799 = 1 := by
  intro gateway call shared fields
  have early : shared.reading.time.date.year ≤ 9999 := by decide +kernel
  have whole : shared.reading.time.nanos < Duration.nanosPerSecond := by decide +kernel
  have spelt : Timeout.Spells ['1'] .nanosecond "1n" :=
    Timeout.spells_of_all rfl (by decide) (by decide) rfl
  have bears : call.request.BearsTimeout ['1'] .nanosecond "1n" := ⟨rfl, spelt.readable, spelt⟩
  obtain ⟨-, -, due⟩ := gateway.deadline_is_start_plus_timeout call shared early whole
  obtain ⟨-, deadline, startText, deadlineText, due, sum, begun, ends, read, readEnd, apart, -⟩ :=
    due _ _ _ bears
  have starts : shared.reading.time.text = "2024-02-28T23:59:59Z" := by decide +kernel
  have sumIs : shared.reading.time.plus? ⟨1⟩ = some ⟨1709164800, 0⟩ := by decide +kernel
  have shown : Instant.text ⟨1709164800, 0⟩ = "2024-02-29T00:00:00Z" := by decide +kernel
  have written := gateway.get?_deadline call shared
  rw [bears.timeout?, Option.bind_some] at written
  refine ⟨early, whole, bears, startText, deadlineText, due, begun, ends, ?_, ?_, read, readEnd,
    apart.trans (by decide +kernel)⟩
  · rw [get?_startTime, starts] at begun
    cases begun
    rfl
  · have first : Timeout.decimal ['1'] * Timeout.Unit.nanosecond.nanos = 1 := by decide
    rw [first, sumIs, Option.map_some, shown] at written
    rw [written] at ends
    cases ends
    rfl

/-- What the gateway writes of the two times is in the form of RFC 3339. -/
def WritesRfc3339 : Prop :=
  ∀ name ∈ [FieldName.startTime, FieldName.deadline], ∀ value,
    (gateway.writtenFields call shared).get? name = some value →
      ∃ text, value = .string text ∧ Instant.IsRfc3339 text

theorem isRfc3339_startTime (years : 0 ≤ shared.reading.time.date.year ∧
    shared.reading.time.date.year ≤ 9999) :
    ∃ text, (gateway.writtenFields call shared).get? FieldName.startTime = some (.string text) ∧
      Instant.IsRfc3339 text :=
  ⟨_, gateway.get?_startTime call shared, Instant.isRfc3339_text_iff.mpr years⟩

/-- A call of the years 1970 to 9999 has its times written in the form of RFC 3339, unless the
timeout leads into a year of five digits. -/
theorem writesRfc3339_iff_due_in_four_digits (years : 1970 ≤ shared.reading.time.date.year ∧
    shared.reading.time.date.year ≤ 9999) :
    (∃ text, (gateway.writtenFields call shared).get? FieldName.startTime = some (.string text) ∧
      Instant.IsRfc3339 text) ∧
    (gateway.WritesRfc3339 call shared ↔ ∀ timeout deadline,
      call.request.timeout? = some timeout → shared.reading.time.plus? timeout = some deadline →
        deadline.date.year ≤ 9999) := by
  have plain : 0 ≤ shared.reading.time.date.year ∧ shared.reading.time.date.year ≤ 9999 :=
    ⟨Int.le_trans (by decide) years.1, years.2⟩
  refine ⟨gateway.isRfc3339_startTime call shared plain, ?_⟩
  constructor
  · intro formed timeout deadline timed sum
    have written : (gateway.writtenFields call shared).get? FieldName.deadline =
        some (.string deadline.text) := by
      rw [get?_deadline, timed, Option.bind_some, sum, Option.map_some]
    obtain ⟨text, same, form⟩ := formed _ (by simp) _ written
    rw [← Json.string.inj same, Instant.isRfc3339_text_iff] at form
    exact form.2
  · intro due name named value written
    rcases List.mem_pair.mp named with rfl | rfl
    · obtain ⟨text, own, form⟩ := gateway.isRfc3339_startTime call shared plain
      exact ⟨text, Option.some.inj (written.symm.trans own), form⟩
    · rw [get?_deadline] at written
      obtain ⟨deadline, found, same⟩ := Option.map_eq_some_iff.mp written
      obtain ⟨timeout, timed, sum⟩ := Option.bind_eq_some_iff.mp found
      have later : 0 ≤ deadline.date.year := Int.le_trans plain.1 (Instant.year_le_of_plus? sum)
      exact ⟨_, same.symm, Instant.isRfc3339_text_iff.mpr ⟨later, due timeout deadline timed sum⟩⟩

/-- The last deadline of the year 9999 is the last one in four digits. -/
theorem writesRfc3339_at_the_end_of_9999 :
    let gateway : Gateway := ⟨.standard, .standard, .silent⟩
    let call : Call := ⟨⟨"/svc.Pkg/Method", "b", ⟨[(timeoutHeader, octetsOf "30S")]⟩⟩, .empty⟩
    let shared : Shared := .start (fun _ => ⟨⟨253402300769, 999999999⟩, 0⟩) (fun _ => 0)
    (1970 ≤ shared.reading.time.date.year ∧ shared.reading.time.date.year ≤ 9999) ∧
      (gateway.writtenFields call shared).get? FieldName.deadline =
        some (.string "9999-12-31T23:59:59Z") ∧
      gateway.WritesRfc3339 call shared := by
  intro gateway call shared
  have years : 1970 ≤ shared.reading.time.date.year ∧ shared.reading.time.date.year ≤ 9999 := by
    decide +kernel
  have spelt : Timeout.Spells ['3', '0'] .second "30S" :=
    Timeout.spells_of_all rfl (by decide) (by decide) rfl
  have timed : call.request.timeout? = some ⟨30000000000⟩ :=
    Request.BearsTimeout.timeout? ⟨rfl, spelt.readable, spelt⟩
  have sum : shared.reading.time.plus? ⟨30000000000⟩ = some ⟨253402300799, 999999999⟩ := by
    decide +kernel
  have shown : Instant.text ⟨253402300799, 999999999⟩ = "9999-12-31T23:59:59Z" := by decide +kernel
  refine ⟨years, ?_, ?_⟩
  · rw [get?_deadline, timed, Option.bind_some, sum, Option.map_some, shown]
  · refine (gateway.writesRfc3339_iff_due_in_four_digits call shared years).2.mpr ?_
    intro timeout deadline found later
    obtain rfl := Option.some.inj (timed.symm.trans found)
    obtain rfl := Option.some.inj (sum.symm.trans later)
    decide +kernel

/-- The longest timeout leads into a year that is written with a sign and a fifth digit. -/
theorem not_writesRfc3339_of_longest_timeout :
    let gateway : Gateway := ⟨.standard, .standard, .silent⟩
    let call : Call := ⟨⟨"/svc.Pkg/Method", "b", ⟨[(timeoutHeader, octetsOf "99999999H")]⟩⟩, .empty⟩
    let shared : Shared := .start (fun _ => ⟨⟨1772882627, 0⟩, 0⟩) (fun _ => 0)
    (1970 ≤ shared.reading.time.date.year ∧ shared.reading.time.date.year ≤ 9999) ∧
      (gateway.writtenFields call shared).get? FieldName.deadline =
        some (.string "+13434-02-16T02:23:47Z") ∧
      ¬ gateway.WritesRfc3339 call shared := by
  intro gateway call shared
  have spelt : Timeout.Spells ['9', '9', '9', '9', '9', '9', '9', '9'] .hour "99999999H" :=
    Timeout.spells_of_all rfl (by decide) (by decide) rfl
  have timed : call.request.timeout? = some ⟨359999996400000000000⟩ :=
    Request.BearsTimeout.timeout? ⟨rfl, spelt.readable, spelt⟩
  have sum : shared.reading.time.plus? ⟨359999996400000000000⟩ = some ⟨361772879027, 0⟩ := by
    decide +kernel
  have shown : Instant.text ⟨361772879027, 0⟩ = "+13434-02-16T02:23:47Z" := by decide +kernel
  have written : (gateway.writtenFields call shared).get? FieldName.deadline =
      some (.string "+13434-02-16T02:23:47Z") := by
    rw [get?_deadline, timed, Option.bind_some, sum, Option.map_some, shown]
  refine ⟨by decide +kernel, written, ?_⟩
  intro formed
  obtain ⟨text, same, form⟩ := formed _ (by simp) _ written
  rw [← Json.string.inj same] at form
  exact Instant.not_isRfc3339_of_head rfl rfl form

end Gateway

end CallJournal
