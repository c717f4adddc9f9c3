import CallJournal.Proofs.CellHistory
import Mathlib.Data.List.Pairwise

/-! Additions through any way show in all ways. Loggers that were read are values and stay what
they are. -/

namespace CallJournal

/-- Steps of which any two can change places lead to the same state in any order. -/
theorem foldl_eq_of_perm {State Item : Type} {step : State → Item → State}
    {items permuted : List Item} (same : items.Perm permuted)
    (commute : items.Pairwise fun first second =>
      ∀ state, step (step state first) second = step (step state second) first) (state : State) :
    items.foldl step state = permuted.foldl step state := by
  have symmetric : Std.Symm fun first second =>
      ∀ state, step (step state first) second = step (step state second) first :=
    ⟨fun _ _ swapped state => (swapped state).symm⟩
  apply same.foldl_eq'
  intro first member second other
  exact commute.forall_of_forall (fun _ _ _ => rfl) member other

namespace Fields

variable {first second : Fields} {maps permuted : List Fields}

/-- No name has a value in both maps. -/
def Disjoint (first second : Fields) : Prop :=
  ∀ name, first.get? name = none ∨ second.get? name = none

theorem merge_right_comm (disjoint : first.Disjoint second) (older : Fields) :
    (older.merge first).merge second = (older.merge second).merge first := by
  apply ext_get?
  intro name
  rw [get?_merge, get?_merge, get?_merge, get?_merge]
  rcases disjoint name with absent | absent
  · rw [absent, Option.none_or, Option.none_or]
  · rw [absent, Option.none_or, Option.none_or]

theorem mergeAll_of_perm (same : maps.Perm permuted) (disjoint : maps.Pairwise Disjoint) :
    mergeAll maps = mergeAll permuted :=
  foldl_eq_of_perm same (disjoint.imp merge_right_comm) empty

end Fields

theorem Shared.addFields_comm (shared : Shared) (cell other : LoggerCell) {first second : Fields}
    (disjoint : first.Disjoint second) :
    (shared.addFields cell first).addFields other second =
      (shared.addFields other second).addFields cell first := by
  have loggers : ((shared.loggers.modify cell.index (·.withFields first)).modify other.index
        (·.withFields second)) =
      ((shared.loggers.modify other.index (·.withFields second)).modify cell.index
        (·.withFields first)) := by
    apply List.ext_getElem?
    intro index
    rw [List.getElem?_modify, List.getElem?_modify, List.getElem?_modify, List.getElem?_modify]
    cases shared.loggers[index]? with
    | none => rfl
    | some logger =>
      by_cases here : cell.index = index <;> by_cases there : other.index = index <;>
        simp [here, there, Logger.withFields, Fields.merge_right_comm disjoint]
  simp only [addFields, loggers]

variable {Name : Type}

/-- An operation that lets a call have another cell. -/
def Operation.Redirects (name : Name) : Operation Name → Prop
  | .attach target _ => target = name
  | .put _ target => target = name
  | .copy _ target => target = name
  | _ => False

namespace Scene

variable {scene : Scene Name} {way other : Way Name} {cell : LoggerCell}

theorem logger?_addFields_other (differs : scene.cell? other ≠ scene.cell? way) (fields : Fields) :
    (scene.addFields way fields).logger? other = scene.logger? other := by
  apply logger?_congr (cell?_addFields ..)
  intro held found
  cases led : scene.cell? way with
  | none => rw [addFields_of_bare led]
  | some cell =>
    rw [addFields_of_cell led]
    apply Shared.logger_addFields_other
    intro same
    exact differs (found.trans (same ▸ led.symm))

theorem addFields_comm {first second : Fields} (disjoint : first.Disjoint second) :
    (scene.addFields way first).addFields other second =
      (scene.addFields other second).addFields way first := by
  cases led : scene.cell? way with
  | none =>
    rw [addFields_of_bare led, addFields_of_bare ((cell?_addFields ..).trans led)]
  | some cell =>
    cases found : scene.cell? other with
    | none =>
      rw [addFields_of_bare found, addFields_of_bare ((cell?_addFields ..).trans found)]
    | some held =>
      rw [addFields_of_cell ((cell?_addFields ..).trans found),
        addFields_of_cell ((cell?_addFields ..).trans led), addFields_of_cell led,
        addFields_of_cell found]
      simp only [Shared.addFields_comm _ _ _ disjoint]

theorem getElem?_of_isPrefix {Item : Type} {shorter longer : List Item} {place : Nat} {item : Item}
    (starts : shorter <+: longer) (found : shorter[place]? = some item) :
    longer[place]? = some item := by
  obtain ⟨rest, rfl⟩ := starts
  obtain ⟨inside, -⟩ := List.getElem?_eq_some_iff.mp found
  rw [List.getElem?_append_left inside, found]

/-- Handles and loggers that were kept are not let go of. -/
structure Grows (before after : Scene Name) : Prop where
  handles : before.handles <+: after.handles
  kept : before.kept <+: after.kept

theorem Grows.trans {first second third : Scene Name} (earlier : first.Grows second)
    (later : second.Grows third) : first.Grows third :=
  ⟨earlier.handles.trans later.handles, earlier.kept.trans later.kept⟩

theorem grows_addFields (scene : Scene Name) (way : Way Name) (fields : Fields) :
    scene.Grows (scene.addFields way fields) := by
  rw [addFields_eq]
  exact ⟨List.prefix_refl _, List.prefix_refl _⟩

variable [DecidableEq Name] {name : Name} {operation : Operation Name}
variable {operations later : List (Operation Name)}

theorem grows_perform (scene : Scene Name) (operation : Operation Name) :
    scene.Grows (operation.perform scene) := by
  cases operation with
  | scope logger => exact ⟨List.prefix_append _ _, List.prefix_refl _⟩
  | attach name logger => exact ⟨List.prefix_append _ _, List.prefix_refl _⟩
  | hold way => exact ⟨List.prefix_append _ _, List.prefix_refl _⟩
  | put handle name =>
    simp only [Operation.perform]
    split <;> exact ⟨List.prefix_refl _, List.prefix_refl _⟩
  | copy source target => exact ⟨List.prefix_refl _, List.prefix_refl _⟩
  | add way fields => exact scene.grows_addFields way fields
  | read way => exact ⟨List.prefix_refl _, List.prefix_append _ _⟩
  | derived source derivation => exact ⟨List.prefix_refl _, List.prefix_append _ _⟩

theorem grows_run (scene : Scene Name) (operations : List (Operation Name)) :
    scene.Grows (scene.run operations) := by
  induction operations generalizing scene with
  | nil => exact ⟨List.prefix_refl _, List.prefix_refl _⟩
  | cons operation rest ih => exact (scene.grows_perform operation).trans (ih _)

theorem calls_perform_of_not_redirects (stays : ¬ operation.Redirects name) :
    (operation.perform scene).calls name = scene.calls name := by
  cases operation with
  | attach target logger => exact if_neg (Ne.symm stays)
  | copy source target => exact if_neg (Ne.symm stays)
  | put handle target =>
    simp only [Operation.perform]
    split
    · exact if_neg (Ne.symm stays)
    · rfl
  | add way fields => exact congrFun (scene.calls_addFields way fields) name
  | _ => rfl

theorem calls_run_of_not_redirects (stay : ∀ operation ∈ operations, ¬ operation.Redirects name) :
    (scene.run operations).calls name = scene.calls name := by
  induction operations generalizing scene with
  | nil => rfl
  | cons operation rest ih =>
    obtain ⟨here, there⟩ := List.forall_mem_cons.mp stay
    exact (ih there).trans (calls_perform_of_not_redirects here)

theorem cell?_handle_run (scene : Scene Name) {number : Nat}
    (found : scene.cell? (.handle number) = some cell) (operations : List (Operation Name)) :
    (scene.run operations).cell? (.handle number) = some cell :=
  getElem?_of_isPrefix (scene.grows_run operations).handles found

theorem kept_run (scene : Scene Name) {place : Nat} {logger : Logger}
    (found : scene.kept[place]? = some logger) (operations : List (Operation Name)) :
    (scene.run operations).kept[place]? = some logger :=
  getElem?_of_isPrefix (scene.grows_run operations).kept found

theorem cell?_call_run (scene : Scene Name)
    (stay : ∀ operation ∈ operations, ¬ operation.Redirects name) :
    (scene.run operations).cell? (.call name) = scene.cell? (.call name) :=
  congrArg Extensions.logger? (calls_run_of_not_redirects stay)

/-- Loggers that are kept stay what they were when they were read or derived. -/
structure Remembers (scene : Scene Name) (later : List (Operation Name)) : Prop where
  kept : scene.kept <+: (scene.run later).kept
  read : ∀ way logger, scene.logger? way = some logger →
    (scene.run (.read way :: later)).kept[scene.kept.length]? = some logger
  derived : ∀ source derivation logger, scene.kept[source]? = some logger →
    (scene.run (.derived source derivation :: later)).kept[scene.kept.length]? =
      some (derivation.apply logger)

theorem remembers (scene : Scene Name) (later : List (Operation Name)) :
    scene.Remembers later where
  kept := (scene.grows_run later).kept
  read way logger found := by
    have kept : ((Operation.read way).perform scene).kept[scene.kept.length]? = some logger := by
      simp [Operation.perform, found]
    exact kept_run _ kept later
  derived source derivation logger found := by
    have kept : ((Operation.derived source derivation).perform scene).kept[scene.kept.length]? =
        some (derivation.apply logger) := by
      simp [Operation.perform, found]
    exact kept_run _ kept later

/-- Where ways lead, whatever is done later: a handle to the cell with which it was taken, and a
call to the cell that it was given last. -/
structure LeadsOn (newest : LoggerCell) (scene : Scene Name) (later : List (Operation Name)) :
    Prop where
  unknown : ∀ way, scene.cell? way ≠ some newest
  handle : ∀ number cell, scene.cell? (.handle number) = some cell →
    (scene.run later).cell? (.handle number) = some cell
  scope : ∀ logger,
    (scene.run (.scope logger :: later)).cell? (.handle scene.handles.length) = some newest
  attach : ∀ name logger,
    (scene.run (.attach name logger :: later)).cell? (.handle scene.handles.length) = some newest
  hold : ∀ way cell, scene.cell? way = some cell →
    (scene.run (.hold way :: later)).cell? (.handle scene.handles.length) = some cell
  call : ∀ name, (∀ operation ∈ later, ¬ operation.Redirects name) →
    (scene.run later).cell? (.call name) = scene.cell? (.call name) ∧
    (∀ logger, (scene.run (.attach name logger :: later)).cell? (.call name) = some newest) ∧
    (∀ handle cell, scene.cell? (.handle handle) = some cell →
      (scene.run (.put handle name :: later)).cell? (.call name) = some cell) ∧
    ∀ source, (scene.run (.copy source name :: later)).cell? (.call name) =
      scene.cell? (.call source)

theorem leadsOn {newest : LoggerCell} (next : scene.shared.nextCell = newest)
    (unknown : ∀ way, scene.cell? way ≠ some newest) (later : List (Operation Name)) :
    LeadsOn newest scene later where
  unknown := unknown
  handle _ _ found := scene.cell?_handle_run found later
  scope logger :=
    cell?_handle_run ((Operation.scope logger).perform scene)
      ((scene.cell?_newScope logger).trans (congrArg some next)) later
  attach name logger :=
    cell?_handle_run ((Operation.attach name logger).perform scene)
      ((scene.cell?_newScope logger).trans (congrArg some next)) later
  hold way cell found := by
    have taken :
        (scene.handles ++ (scene.cell? way).toList)[scene.handles.length]? = some cell := by
      rw [found, Option.toList_some, List.getElem?_concat_length]
    exact cell?_handle_run ((Operation.hold way).perform scene) taken later
  call name stay := by
    refine ⟨scene.cell?_call_run stay, ?_, ?_, ?_⟩
    · intro logger
      refine (cell?_call_run ((Operation.attach name logger).perform scene) stay).trans ?_
      rw [← next]
      exact congrArg Extensions.logger? (if_pos rfl)
    · intro handle cell found
      refine (cell?_call_run ((Operation.put handle name).perform scene) stay).trans ?_
      have taken : scene.handles[handle]? = some cell := found
      simp only [Operation.perform, taken]
      exact congrArg Extensions.logger? (if_pos rfl)
    · intro source
      refine (cell?_call_run ((Operation.copy source name).perform scene) stay).trans ?_
      exact congrArg Extensions.logger? (if_pos rfl)

theorem run_additions (scene : Scene Name) (added : List (Way Name × Fields)) :
    scene.run (added.map fun addition => .add addition.1 addition.2) =
      added.foldl (fun scene addition => scene.addFields addition.1 addition.2) scene :=
  List.foldl_map

/-- All ways to a cell read one logger: the one attached there, with what was added through any of
them. Values and other cells take no notice, and the order of additions without a common name
makes no difference. -/
theorem ways_share_one_logger (readings : Nat → Reading) (seeds : Nat → Nat)
    (operations later : List (Operation Name)) :
    let start : Scene Name := .start readings seeds
    let scene := start.run operations
    (∀ way cell, scene.cell? way = some cell →
      ∃ attached, (attachments operations)[cell.index]? = some attached ∧
        scene.logger? way = some { attached with
          fields := attached.fields.merge (.mergeAll (additions cell operations start)) }) ∧
    (∀ name, scene.cell? (.call name) = none →
      scene.logger? (.call name) = some .standard ∧
        ∀ fields, scene.run [.add (.call name) fields] = scene) ∧
    (∀ way fields other, scene.cell? other ≠ scene.cell? way →
      (scene.run [.add way fields]).logger? other = scene.logger? other) ∧
    scene.Remembers later ∧
    LeadsOn ⟨(attachments operations).length⟩ scene later ∧
    (∀ added permuted : List (Way Name × Fields), added.Perm permuted →
      (added.Pairwise fun first second => first.2.Disjoint second.2) →
      scene.run (added.map fun addition => .add addition.1 addition.2) =
        scene.run (permuted.map fun addition => .add addition.1 addition.2)) ∧
    ∀ others cell way other, scene.cell? way = some cell →
      (start.run others).cell? other = some cell →
      (attachments others)[cell.index]? = (attachments operations)[cell.index]? →
      (additions cell operations start).Perm (additions cell others start) →
      (additions cell operations start).Pairwise Fields.Disjoint →
      (start.run others).logger? other = scene.logger? way := by
  intro start scene
  have accounts : Accounts _ _ scene := accounts_run_start readings seeds operations
  refine ⟨?_, ?_, ?_, scene.remembers later, ?_, ?_, ?_⟩
  · intro way cell found
    exact accounts.logger?_eq found
  · intro name bare
    have none : (scene.calls name).logger? = none := bare
    refine ⟨?_, addFields_of_bare bare⟩
    rw [logger?, Shared.loggerOf, none]
  · intro way fields other differs
    exact logger?_addFields_other differs fields
  · apply leadsOn
    · exact congrArg LoggerCell.mk accounts.length_loggers
    · intro way found
      exact absurd (accounts.known way _ found) (Nat.lt_irrefl _)
  · intro added permuted same disjoint
    rw [run_additions, run_additions]
    exact foldl_eq_of_perm same (disjoint.imp fun apart _ => addFields_comm apart) scene
  · intro others cell way other found held attached same disjoint
    -- What the cell holds is told by its past in either scene, and the pasts differ in order only.
    obtain ⟨logger, first, read⟩ := accounts.logger?_eq found
    obtain ⟨again, second, reread⟩ := (accounts_run_start readings seeds others).logger?_eq held
    obtain rfl : logger = again := Option.some.inj (first.symm.trans (attached.symm.trans second))
    rw [read, reread, Fields.mergeAll_of_perm same disjoint]

/-- A handle shows what is added to a copy of its call, until the copy has another logger. -/
theorem ways_share_one_logger_until_reattached :
    let attached : Logger := ⟨.upTo .debug, .empty, .records⟩
    let user : Fields := .ofList [("user", .string "u-1")]
    let operations : List (Operation String) :=
      [.attach "front" attached, .copy "front" "behind", .add (.call "behind") user,
        .attach "behind" .standard, .add (.call "behind") (.ofList [("user", .string "u-2")])]
    let scene : Scene String :=
      (start (fun _ => ⟨⟨0, 0⟩, 0⟩) (fun _ => 0)).run operations
    scene.cell? (.call "behind") ≠ scene.cell? (.handle 0) ∧
      scene.logger? (.handle 0) = some { attached with fields := user } := by
  intro attached user operations scene
  obtain ⟨reads, -⟩ :=
    ways_share_one_logger (fun _ => ⟨⟨0, 0⟩, 0⟩) (fun _ => 0) operations []
  obtain ⟨logger, first, read⟩ := reads (.handle 0) ⟨0⟩ rfl
  obtain rfl : attached = logger := Option.some.inj first
  have added : additions ⟨0⟩ operations (start (fun _ => ⟨⟨0, 0⟩, 0⟩) (fun _ => 0)) = [user] := rfl
  refine ⟨by decide, ?_⟩
  rw [read, added, Fields.mergeAll, List.foldl_cons, Fields.empty_merge, Fields.empty_merge]
  rfl

end Scene

end CallJournal
