import CallJournal.Gateway
import CallJournal.Proofs.TimeoutText

namespace CallJournal

/-- An instant from which even the longest timeout does not lead out of the calendar. -/
structure Instant.LeavesRoom (instant : Instant) : Prop where
  seconds : instant.seconds + 360000000000 ≤ Instant.lastDay * Instant.secondsPerDay
  nanos : instant.nanos < 2 * Duration.nanosPerSecond

theorem Timeout.isCountable_of_read? {text : String} {duration : Duration}
    (read : Timeout.read? text = some duration) : duration.isCountable = true := by
  have bound := Timeout.nanos_le_of_read? read
  simp only [Timeout.largest, Timeout.Unit.nanos] at bound
  simp only [Duration.isCountable, decide_eq_true_eq]
  omega

theorem Instant.plus?_of_leavesRoom {start : Instant} {duration : Duration}
    (room : start.LeavesRoom)
    (short : duration.nanos ≤ Timeout.largest * Timeout.Unit.hour.nanos) :
    ∃ deadline, start.plus? duration = some deadline := by
  have latest := room.seconds
  have nanos := room.nanos
  simp only [Timeout.largest, Timeout.Unit.nanos, Duration.nanosPerSecond] at short nanos
  simp only [Instant.secondsPerDay] at latest
  -- However the sum comes about, it is less than 10^8 hours behind the start.
  have inside : ∀ seconds : Int, seconds ≤ start.seconds + 360000000000 →
      seconds / Instant.secondsPerDay ≤ Instant.lastDay := by
    intro seconds behind
    simp only [Instant.secondsPerDay]
    omega
  refine ⟨_, if_pos (inside _ ?_)⟩
  split
  · split <;> simp only [Duration.nanosPerSecond] <;> omega
  · simp only [Duration.nanosPerSecond]
    omega

namespace Request

variable {request : Request}

/-- The duration check in front of the sum turns no timeout away. -/
theorem deadline?_eq (request : Request) (start : Instant) :
    request.deadline? start = request.timeout?.bind start.plus? := by
  unfold deadline?
  cases found : request.timeout? with
  | none => rfl
  | some timeout =>
    obtain ⟨text, _, read⟩ := Option.bind_eq_some_iff.mp found
    rw [Option.filter_some, Timeout.isCountable_of_read? read, if_pos rfl]

/-- A call has a deadline exactly if it has a timeout, unless it begins near the end of time. -/
theorem exists_deadline_iff {start : Instant} (room : start.LeavesRoom) :
    (∃ deadline, request.timeout?.bind start.plus? = some deadline) ↔
      ∃ timeout, request.timeout? = some timeout := by
  constructor
  · rintro ⟨deadline, sum⟩
    obtain ⟨timeout, found, _⟩ := Option.bind_eq_some_iff.mp sum
    exact ⟨timeout, found⟩
  · rintro ⟨timeout, found⟩
    obtain ⟨text, _, read⟩ := Option.bind_eq_some_iff.mp found
    obtain ⟨deadline, sum⟩ := Instant.plus?_of_leavesRoom room (Timeout.nanos_le_of_read? read)
    exact ⟨deadline, by rw [found, Option.bind_some, sum]⟩

end Request

end CallJournal
