import CallJournal.Handles
import CallJournal.Proofs.Additions

/-! In each cell there is the logger put there first, with all fields that were added since. -/

namespace CallJournal

theorem Logger.withAll_eq_merge (logger : Logger) (added : List Fields) :
    logger.withAll added = { logger with fields := logger.fields.merge (.mergeAll added) } := by
  rw [withAll_eq, Fields.foldl_merge]

variable {Name : Type}

namespace Operation

/-- The logger that an operation puts into a new cell. -/
def attached? : Operation Name → Option Logger
  | scope logger => some logger
  | attach _ logger => some logger
  | _ => none

/-- The field maps that an operation adds to the logger in a cell. -/
def additions (cell : LoggerCell) : Operation Name → Scene Name → List Fields
  | add way fields, scene => if scene.cell? way = some cell then [fields] else []
  | _, _ => []

end Operation

/-- The loggers that were put into cells, in the order of the cells. -/
def attachments (operations : List (Operation Name)) : List Logger :=
  operations.flatMap fun operation => operation.attached?.toList

namespace Scene

variable {scene : Scene Name} {way : Way Name} {cell : LoggerCell}
variable {attached : List Logger} {added : LoggerCell → List Fields}

/-- A scene explained by the loggers that were put into its cells and the field maps added since.
No way leads to a cell that is still to come. -/
structure Accounts (attached : List Logger) (added : LoggerCell → List Fields)
    (scene : Scene Name) : Prop where
  known : ∀ way cell, scene.cell? way = some cell → cell.index < attached.length
  loggers : scene.shared.loggers =
    attached.mapIdx fun index logger => logger.withAll (added ⟨index⟩)
  fresh : ∀ cell, attached.length ≤ cell.index → added cell = []

namespace Accounts

theorem length_loggers (accounts : Accounts attached added scene) :
    scene.shared.loggers.length = attached.length := by
  rw [accounts.loggers, List.length_mapIdx]

theorem index_nextCell_lt (accounts : Accounts attached added scene) (logger : Logger) :
    scene.shared.nextCell.index < (attached ++ [logger]).length := by
  have newest : scene.shared.nextCell.index = attached.length := accounts.length_loggers
  rw [newest, List.length_append]
  exact Nat.lt_succ_self _

theorem logger_eq (accounts : Accounts attached added scene) {logger : Logger}
    (found : attached[cell.index]? = some logger) :
    scene.shared.logger cell = logger.withAll (added cell) := by
  rw [Shared.logger, accounts.loggers, List.getD_eq_getElem?_getD, List.getElem?_mapIdx, found]
  rfl

theorem addCell (accounts : Accounts attached added scene) (logger : Logger) :
    Accounts (attached ++ [logger]) added
      { scene with shared := scene.shared.addCell logger } where
  known way cell found := by
    have older : cell.index < attached.length :=
      accounts.known way cell (by cases way <;> exact found)
    rw [List.length_append]
    exact Nat.lt_add_right _ older
  loggers := by
    have bare : added ⟨attached.length⟩ = [] := accounts.fresh ⟨attached.length⟩ (Nat.le_refl _)
    rw [List.mapIdx_concat, bare, ← accounts.loggers]
    rfl
  fresh cell beyond := by
    rw [List.length_append] at beyond
    exact accounts.fresh cell (Nat.le_of_add_right_le beyond)

theorem handOut (accounts : Accounts attached added scene) {taken : List LoggerCell}
    (known : ∀ cell ∈ taken, cell.index < attached.length) :
    Accounts attached added { scene with handles := scene.handles ++ taken } where
  known way cell found := by
    cases way with
    | call name => exact accounts.known (.call name) cell found
    | handle number =>
      rcases List.mem_append.mp (List.mem_of_getElem? found) with older | newest
      · obtain ⟨place, older⟩ := List.getElem?_of_mem older
        exact accounts.known (.handle place) cell older
      · exact known cell newest
  loggers := accounts.loggers
  fresh := accounts.fresh

theorem newScope (accounts : Accounts attached added scene) (logger : Logger) :
    Accounts (attached ++ [logger]) added (scene.newScope logger) := by
  apply (accounts.addCell logger).handOut
  intro cell newest
  rw [List.mem_singleton.mp newest]
  exact accounts.index_nextCell_lt logger

theorem setCall [DecidableEq Name] (accounts : Accounts attached added scene) (name : Name)
    {extensions : Extensions}
    (known : ∀ cell, extensions.logger? = some cell → cell.index < attached.length) :
    Accounts attached added (scene.setCall name extensions) where
  known := by
    intro way cell found
    cases way with
    | handle number => exact accounts.known (.handle number) cell found
    | call other =>
      simp only [Scene.setCall, Scene.cell?] at found
      split at found
      · exact known cell found
      · exact accounts.known (.call other) cell found
  loggers := accounts.loggers
  fresh := accounts.fresh

theorem hold (accounts : Accounts attached added scene) (way : Way Name) :
    Accounts attached added { scene with handles := scene.handles ++ (scene.cell? way).toList } :=
  accounts.handOut fun cell taken => accounts.known way cell (Option.mem_toList.mp taken)

theorem addFields (accounts : Accounts attached added scene) (way : Way Name) (fields : Fields) :
    Accounts attached
      (fun cell => added cell ++ if scene.cell? way = some cell then [fields] else [])
      (scene.addFields way fields) where
  known := by
    intro other cell found
    rw [cell?_addFields] at found
    exact accounts.known other cell found
  loggers := by
    cases found : scene.cell? way with
    | none => simpa [addFields_of_bare found] using accounts.loggers
    | some cell =>
      rw [addFields_of_cell found]
      apply List.ext_getElem?
      intro index
      simp only [Shared.addFields, accounts.loggers, List.getElem?_modify, List.getElem?_mapIdx]
      cases attached[index]? with
      | none => rfl
      | some logger =>
        by_cases here : cell.index = index
        · subst here
          simp [Logger.withAll]
        · have differs : cell ≠ ⟨index⟩ := fun same => here (congrArg LoggerCell.index same)
          simp [here, differs]
  fresh cell beyond := by
    rw [accounts.fresh cell beyond, List.nil_append, if_neg]
    intro found
    exact absurd (accounts.known way cell found) (Nat.not_lt_of_le beyond)

theorem keep (accounts : Accounts attached added scene) (kept : List Logger) :
    Accounts attached added { scene with kept } where
  known
    | .call name => accounts.known (.call name)
    | .handle number => accounts.known (.handle number)
  loggers := accounts.loggers
  fresh := accounts.fresh

theorem attaching_none (accounts : Accounts attached added scene) :
    Accounts (attached ++ []) added scene := by
  rwa [List.append_nil]

theorem adding_none (accounts : Accounts attached added scene) :
    Accounts attached (fun cell => added cell ++ []) scene := by
  simpa only [List.append_nil] using accounts

variable [DecidableEq Name]

theorem put (accounts : Accounts attached added scene) (handle : Nat) (name : Name) :
    Accounts attached added ((Operation.put handle name).perform scene) := by
  simp only [Operation.perform]
  split
  · rename_i cell taken
    apply accounts.setCall
    intro own found
    rw [← Option.some.inj found]
    exact accounts.known (.handle handle) cell taken
  · exact accounts

theorem attach (accounts : Accounts attached added scene) (name : Name) (logger : Logger) :
    Accounts (attached ++ [logger]) added ((Operation.attach name logger).perform scene) := by
  apply (accounts.newScope logger).setCall
  intro cell found
  rw [← Option.some.inj found]
  exact accounts.index_nextCell_lt logger

/-- Whatever is done next, the loggers in the cells stay explained. -/
theorem perform (accounts : Accounts attached added scene) (operation : Operation Name) :
    Accounts (attached ++ operation.attached?.toList)
      (fun cell => added cell ++ operation.additions cell scene) (operation.perform scene) := by
  cases operation with
  | scope logger => exact (accounts.newScope logger).adding_none
  | attach name logger => exact (accounts.attach name logger).adding_none
  | hold way => exact (accounts.hold way).attaching_none.adding_none
  | put handle name => exact (accounts.put handle name).attaching_none.adding_none
  | copy source target =>
    have copied :=
      accounts.setCall target fun cell found => accounts.known (.call source) cell found
    exact copied.attaching_none.adding_none
  | add way fields => exact (accounts.addFields way fields).attaching_none
  | read way => exact (accounts.keep _).attaching_none.adding_none
  | derived source derivation => exact (accounts.keep _).attaching_none.adding_none

end Accounts

theorem accounts_start (readings : Nat → Reading) (seeds : Nat → Nat) :
    Accounts [] (fun _ => []) (start readings seeds : Scene Name) where
  known
    | .call _, _ => nofun
    | .handle _, _ => nofun
  loggers := rfl
  fresh _ _ := rfl

theorem Accounts.logger?_eq (accounts : Accounts attached added scene)
    (found : scene.cell? way = some cell) :
    ∃ logger, attached[cell.index]? = some logger ∧ scene.logger? way =
      some { logger with fields := logger.fields.merge (.mergeAll (added cell)) } := by
  have inside := accounts.known way cell found
  refine ⟨attached[cell.index], List.getElem?_eq_getElem inside, ?_⟩
  rw [logger?_of_cell found, accounts.logger_eq (List.getElem?_eq_getElem inside),
    Logger.withAll_eq_merge]

variable [DecidableEq Name]

/-- The field maps that are added to the logger in a cell while operations are performed. -/
def additions (cell : LoggerCell) : List (Operation Name) → Scene Name → List Fields
  | [], _ => []
  | operation :: rest, scene =>
    operation.additions cell scene ++ additions cell rest (operation.perform scene)

theorem Accounts.run (accounts : Accounts attached added scene)
    (operations : List (Operation Name)) :
    Accounts (attached ++ attachments operations)
      (fun cell => added cell ++ additions cell operations scene) (scene.run operations) := by
  induction operations generalizing scene attached added with
  | nil => exact accounts.attaching_none.adding_none
  | cons operation rest ih =>
    -- The operation moves from the operations to come into the past that the invariant tells of.
    have whole := ih (accounts.perform operation)
    simp only [List.append_assoc] at whole
    exact whole

/-- What was attached and added from the start on explains what is in the cells. -/
theorem accounts_run_start (readings : Nat → Reading) (seeds : Nat → Nat)
    (operations : List (Operation Name)) :
    Accounts (attachments operations)
      (fun cell => additions cell operations (start readings seeds))
      ((start readings seeds).run operations) :=
  (accounts_start readings seeds).run operations

end Scene

end CallJournal
