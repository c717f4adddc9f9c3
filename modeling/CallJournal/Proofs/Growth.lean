import CallJournal.Chain

/-! Cells are only added, filters and sinks stay, marks are only set, and the journal only gets
longer. -/

namespace CallJournal

namespace Shared

/-- What of an earlier moment still holds at a later one. -/
structure Grows (before after : Shared) : Prop where
  loggers : before.loggers.length ≤ after.loggers.length
  filter : ∀ cell : LoggerCell, cell.index < before.loggers.length →
    (after.logger cell).filter = (before.logger cell).filter
  sink : ∀ cell : LoggerCell, cell.index < before.loggers.length →
    (after.logger cell).sink = (before.logger cell).sink
  marks : before.marks.length ≤ after.marks.length
  marked : ∀ sentinel, before.isMarked sentinel = true → after.isMarked sentinel = true
  journal : before.journal <+: after.journal

theorem Grows.refl (shared : Shared) : shared.Grows shared :=
  ⟨Nat.le_refl _, fun _ _ => rfl, fun _ _ => rfl, Nat.le_refl _, fun _ marked => marked,
    List.prefix_refl _⟩

theorem Grows.trans {before middle after : Shared} (first : before.Grows middle)
    (last : middle.Grows after) : before.Grows after where
  loggers := Nat.le_trans first.loggers last.loggers
  filter cell known :=
    (last.filter cell (Nat.lt_of_lt_of_le known first.loggers)).trans (first.filter cell known)
  sink cell known :=
    (last.sink cell (Nat.lt_of_lt_of_le known first.loggers)).trans (first.sink cell known)
  marks := Nat.le_trans first.marks last.marks
  marked sentinel marked := last.marked sentinel (first.marked sentinel marked)
  journal := first.journal.trans last.journal

/-- As long as the cells are left alone, a longer journal is all there is to show. -/
private theorem grows_of_cells {before after : Shared} (loggers : after.loggers = before.loggers)
    (marks : after.marks = before.marks) (journal : before.journal <+: after.journal) :
    before.Grows after where
  loggers := Nat.le_of_eq (congrArg List.length loggers.symm)
  filter cell _ := by simp only [logger, loggers]
  sink cell _ := by simp only [logger, loggers]
  marks := Nat.le_of_eq (congrArg List.length marks.symm)
  marked sentinel marked := by simpa only [isMarked, marks] using marked
  journal := journal

theorem grows_enter (shared : Shared) (entry : Entry) : shared.Grows (shared.enter entry) :=
  grows_of_cells rfl rfl (List.prefix_append _ _)

theorem grows_log (shared : Shared) (logger : Logger) (level : Level) (message : String) :
    shared.Grows (shared.log logger level message) := by
  unfold log
  split
  · exact shared.grows_enter _
  · exact .refl shared

theorem grows_tick (shared : Shared) : shared.Grows shared.tick :=
  grows_of_cells rfl rfl (List.prefix_refl _)

theorem grows_draw (shared : Shared) : shared.Grows shared.draw :=
  grows_of_cells rfl rfl (List.prefix_refl _)

theorem grows_setMetadata (shared : Shared) (metadata : Metadata) (key value : String) :
    shared.Grows (shared.setMetadata metadata key value).2 := by
  unfold setMetadata
  split
  · exact .refl shared
  · exact shared.grows_enter _

theorem grows_addCell (shared : Shared) (added : Logger) : shared.Grows (shared.addCell added) where
  loggers := by simp [addCell]
  filter cell known := by rw [shared.logger_addCell_of_lt added known]
  sink cell known := by rw [shared.logger_addCell_of_lt added known]
  marks := Nat.le_refl _
  marked _ marked := marked
  journal := List.prefix_refl _

theorem grows_addFields (shared : Shared) (changed : LoggerCell) (fields : Fields) :
    shared.Grows (shared.addFields changed fields) := by
  have kept : ∀ cell : LoggerCell, cell.index < shared.loggers.length →
      ((shared.addFields changed fields).logger cell).filter = (shared.logger cell).filter ∧
        ((shared.addFields changed fields).logger cell).sink = (shared.logger cell).sink := by
    intro cell known
    by_cases same : cell = changed
    · subst same
      rw [shared.logger_addFields_same fields known]
      exact ⟨rfl, rfl⟩
    · rw [shared.logger_addFields_other fields same]
      exact ⟨rfl, rfl⟩
  exact
    { loggers := by simp [addFields]
      filter := fun cell known => (kept cell known).1
      sink := fun cell known => (kept cell known).2
      marks := Nat.le_refl _
      marked := fun _ marked => marked
      journal := List.prefix_refl _ }

theorem grows_addFieldsOf (shared : Shared) (extensions : Extensions) (fields : Fields) :
    shared.Grows (shared.addFieldsOf extensions fields) := by
  unfold addFieldsOf
  split
  · exact shared.grows_addFields _ fields
  · exact .refl shared

theorem grows_addSentinel (shared : Shared) : shared.Grows shared.addSentinel where
  loggers := Nat.le_refl _
  filter _ _ := rfl
  sink _ _ := rfl
  marks := by simp [addSentinel]
  marked sentinel marked := by rwa [isMarked_addSentinel]
  journal := List.prefix_refl _

theorem grows_mark (shared : Shared) (changed : Sentinel) : shared.Grows (shared.mark changed) where
  loggers := Nat.le_refl _
  filter _ _ := rfl
  sink _ _ := rfl
  marks := by simp [mark]
  marked sentinel marked := by
    by_cases same : sentinel = changed
    · have known : sentinel.index < shared.marks.length := Nat.lt_of_not_le fun beyond => by
        simp [isMarked, beyond] at marked
      exact same ▸ shared.isMarked_mark_same known
    · rwa [shared.isMarked_mark_other same]
  journal := List.prefix_refl _

theorem grows_markCarried (shared : Shared) (extensions : Extensions) :
    shared.Grows (shared.markCarried extensions) := by
  unfold markCarried
  split
  · exact shared.grows_mark _
  · exact .refl shared

end Shared

/-- A service that takes nothing back, whatever call it serves. -/
def IsSteady (service : Service) : Prop :=
  ∀ (call : Call) (shared : Shared), shared.Grows (service call shared).2

theorem Act.grows_perform (act : Act) (call : Call) (shared : Shared) :
    shared.Grows (act.perform call shared).2.2 := by
  cases act with
  | addFields fields => exact shared.grows_addFieldsOf call.extensions fields
  | readLogger => exact .refl shared
  | consult => exact shared.grows_draw
  | log level message => exact shared.grows_log _ level message
  | attach logger => exact shared.grows_addCell logger
  | set key value => exact shared.grows_setMetadata _ key value
  | edit change => exact .refl shared
  | dropExtensions => exact .refl shared
  | look => exact shared.grows_enter _
  | tell found => exact shared.grows_enter _

theorem Plan.isSteady_run {inner : Service} (steady : IsSteady inner) (plan : Plan) :
    IsSteady (plan.run inner) := by
  intro call shared
  induction plan generalizing call shared with
  | answer outcome => exact .refl shared
  | forward next ih => exact (steady call shared).trans (ih _ call _)
  | first act next ih => exact (act.grows_perform call shared).trans (ih _ _ _)

namespace Gateway

theorem grows_identify (gateway : Gateway) (call : Call) (fields : Fields) (shared : Shared) :
    shared.Grows (gateway.identify call fields shared).shared := by
  have chosen : shared.Grows (chooseId call shared).2 := by
    unfold chooseId
    split
    · exact .refl shared
    · exact shared.grows_draw
  unfold identify
  split
  · exact .refl shared
  · exact chosen.trans ((chooseId call shared).2.grows_setMetadata _ _ _)

theorem grows_account (gateway : Gateway) (now : Int) (draft : Draft) :
    draft.shared.Grows (gateway.account now draft).shared := by
  unfold account
  split
  · split
    · exact .refl draft.shared
    · exact draft.shared.grows_log _ _ _
  · exact .refl draft.shared

theorem grows_draft (gateway : Gateway) (call : Call) (shared : Shared) :
    shared.Grows (gateway.draft call shared).shared := by
  have flagged (draft : Draft) : draft.shared.Grows (gateway.flag draft).shared := .refl _
  exact shared.grows_tick.trans <| (gateway.grows_identify call _ shared.tick).trans <|
    (flagged _).trans (gateway.grows_account _ _)

theorem grows_start (gateway : Gateway) (call : Call) (shared : Shared) :
    shared.Grows (gateway.start call shared).2.2 :=
  (gateway.grows_draft call shared).trans <|
    ((gateway.draft call shared).shared.grows_addCell _).trans (Shared.grows_addSentinel _)

theorem grows_finish (gateway : Gateway) (ticket : Ticket) (outcome : Outcome) (shared : Shared) :
    shared.Grows (gateway.finish ticket outcome shared) := by
  unfold finish
  split
  · exact .refl shared
  · exact shared.grows_tick.trans (Shared.grows_log _ _ _ _)

theorem isSteady_wrap (gateway : Gateway) {inner : Service} (steady : IsSteady inner) :
    IsSteady (gateway.wrap inner) := fun call shared =>
  (gateway.grows_start call shared).trans <| (steady _ _).trans (gateway.grows_finish _ _ _)

end Gateway

theorem isSteady_guardTransport {inner : Service} (steady : IsSteady inner) :
    IsSteady (guardTransport inner) := by
  intro call shared
  rw [guardTransport_eq]
  exact (shared.grows_markCarried call.extensions).trans (steady call _)

theorem Link.isSteady_wrap (link : Link) {inner : Service} (steady : IsSteady inner) :
    IsSteady (link.wrap inner) := by
  cases link with
  | gateway front => exact front.isSteady_wrap steady
  | transportGuard => exact isSteady_guardTransport steady
  | interceptor decide => exact fun call => (decide call.request).isSteady_run steady call

theorem isSteady_transport (respond : Request → Outcome) : IsSteady (transport respond) :=
  fun _ shared => shared.grows_enter _

/-- Whatever links a chain has, it takes nothing back that the service behind it does not. -/
theorem isSteady_serve (chain : List Link) {inner : Service} (steady : IsSteady inner) :
    IsSteady (serve chain inner) := by
  induction chain with
  | nil => exact steady
  | cons link rest ih => exact link.isSteady_wrap ih

end CallJournal
