import CallJournal.Shared

/-! Handles to loggers. The extensions of a call and a handle lead to the same cell, and both can
be copied. -/

namespace CallJournal

/-- How one logger is made from another. -/
inductive Derivation where
  | filter (filter : Filter)
  | fields (fields : Fields)
  | field (name : String) (value : Json)

def Derivation.apply : Derivation → Logger → Logger
  | .filter least, logger => logger.withFilter least
  | .fields added, logger => logger.withFields added
  | .field name value, logger => logger.withField name value

/-- A way to a cell. Calls have names; handles are counted as they are taken. -/
inductive Way (Name : Type) where
  | call (name : Name)
  | handle (number : Nat)
  deriving DecidableEq, Repr

/-- What code does with the loggers of calls. -/
inductive Operation (Name : Type) where
  /-- Puts a logger into a new cell, and takes a handle to it. -/
  | scope (logger : Logger)
  /-- Puts a logger into a new cell, lets a call have it for its own, and takes a handle. -/
  | attach (name : Name) (logger : Logger)
  /-- Takes a handle to the cell that a way leads to. -/
  | hold (way : Way Name)
  /-- Lets a call have the cell of a handle in the place of its own. -/
  | put (handle : Nat) (name : Name)
  /-- Lets a call carry what another one carries. -/
  | copy (source target : Name)
  | add (way : Way Name) (fields : Fields)
  /-- Reads a logger and keeps it. -/
  | read (way : Way Name)
  /-- Derives a logger from one that is kept, and keeps it as well. -/
  | derived (source : Nat) (derivation : Derivation)

/-- The calls with what they carry, the handles that were taken and the loggers that were kept, both
in their order, and what all share. -/
structure Scene (Name : Type) where
  calls : Name → Extensions
  handles : List LoggerCell
  kept : List Logger
  shared : Shared

variable {Name : Type}

namespace Scene

def start (readings : Nat → Reading) (seeds : Nat → Nat) : Scene Name :=
  ⟨fun _ => .empty, [], [], .start readings seeds⟩

/-- The cell that a way leads to. -/
def cell? (scene : Scene Name) : Way Name → Option LoggerCell
  | .call name => (scene.calls name).logger?
  | .handle number => scene.handles[number]?

/-- The logger that is read through a way. A call always has one; a handle, once it is taken. -/
def logger? (scene : Scene Name) : Way Name → Option Logger
  | .call name => some (scene.shared.loggerOf (scene.calls name))
  | .handle number => scene.handles[number]?.map scene.shared.logger

/-- Whether fields that are added through a way come to a logger. -/
def takesFields (scene : Scene Name) (way : Way Name) : Bool := (scene.cell? way).isSome

def addFields (scene : Scene Name) : Way Name → Fields → Scene Name
  | .call name, fields =>
    { scene with shared := scene.shared.addFieldsOf (scene.calls name) fields }
  | .handle number, fields =>
    match scene.handles[number]? with
    | some cell => { scene with shared := scene.shared.addFields cell fields }
    | none => scene

def setCall [DecidableEq Name] (scene : Scene Name) (name : Name) (extensions : Extensions) :
    Scene Name :=
  { scene with calls := fun other => if other = name then extensions else scene.calls other }

/-- Puts a logger into a new cell, and takes a handle to it. -/
def newScope (scene : Scene Name) (logger : Logger) : Scene Name :=
  { scene with
    handles := scene.handles ++ [scene.shared.nextCell]
    shared := scene.shared.addCell logger }

end Scene

namespace Operation

variable [DecidableEq Name]

def perform : Operation Name → Scene Name → Scene Name
  | scope logger, scene => scene.newScope logger
  | attach name logger, scene =>
    (scene.newScope logger).setCall name ((scene.calls name).attach scene.shared.nextCell)
  | hold way, scene => { scene with handles := scene.handles ++ (scene.cell? way).toList }
  | put handle name, scene =>
    match scene.handles[handle]? with
    | some cell => scene.setCall name ((scene.calls name).attach cell)
    | none => scene
  | copy source target, scene => scene.setCall target (scene.calls source)
  | add way fields, scene => scene.addFields way fields
  | read way, scene => { scene with kept := scene.kept ++ (scene.logger? way).toList }
  | derived source derivation, scene =>
    { scene with kept := scene.kept ++ (scene.kept[source]?.map derivation.apply).toList }

end Operation

def Scene.run [DecidableEq Name] (scene : Scene Name) (operations : List (Operation Name)) :
    Scene Name :=
  operations.foldl (fun scene operation => operation.perform scene) scene

namespace Scene

variable {scene : Scene Name} {way : Way Name} {cell : LoggerCell}

theorem logger?_of_cell (found : scene.cell? way = some cell) :
    scene.logger? way = some (scene.shared.logger cell) := by
  cases way with
  | call name =>
    have carried : (scene.calls name).logger? = some cell := found
    rw [logger?, Shared.loggerOf, carried]
  | handle number =>
    have taken : scene.handles[number]? = some cell := found
    rw [logger?, taken, Option.map_some]

theorem addFields_of_cell (found : scene.cell? way = some cell) (fields : Fields) :
    scene.addFields way fields = { scene with shared := scene.shared.addFields cell fields } := by
  cases way with
  | call name =>
    have carried : (scene.calls name).logger? = some cell := found
    rw [addFields, Shared.addFieldsOf, carried]
  | handle number =>
    have taken : scene.handles[number]? = some cell := found
    rw [addFields, taken]

theorem addFields_of_bare (bare : scene.cell? way = none) (fields : Fields) :
    scene.addFields way fields = scene := by
  cases way with
  | call name =>
    have carried : (scene.calls name).logger? = none := bare
    rw [addFields, Shared.addFieldsOf, carried]
  | handle number =>
    have taken : scene.handles[number]? = none := bare
    rw [addFields, taken]

/-- Of a scene, adding fields changes only what all share. -/
theorem addFields_eq (scene : Scene Name) (way : Way Name) (fields : Fields) :
    scene.addFields way fields = { scene with shared := (scene.addFields way fields).shared } := by
  cases way with
  | call name => rfl
  | handle number =>
    rw [addFields]
    split <;> rfl

@[simp]
theorem cell?_addFields (scene : Scene Name) (way other : Way Name) (fields : Fields) :
    (scene.addFields way fields).cell? other = scene.cell? other := by
  rw [addFields_eq]
  cases other <;> rfl

theorem calls_addFields (scene : Scene Name) (way : Way Name) (fields : Fields) :
    (scene.addFields way fields).calls = scene.calls := by
  rw [addFields_eq]

theorem cell?_newScope (scene : Scene Name) (logger : Logger) :
    (scene.newScope logger).cell? (.handle scene.handles.length) = some scene.shared.nextCell :=
  List.getElem?_concat_length

theorem logger?_congr {scene later : Scene Name} (same : later.cell? way = scene.cell? way)
    (unchanged : ∀ cell, scene.cell? way = some cell →
      later.shared.logger cell = scene.shared.logger cell) :
    later.logger? way = scene.logger? way := by
  cases found : scene.cell? way with
  | some cell =>
    rw [logger?_of_cell found, logger?_of_cell (same.trans found), unchanged cell found]
  | none =>
    have bare := same.trans found
    cases way with
    | call name =>
      simp only [cell?] at found bare
      simp only [logger?, Shared.loggerOf, found, bare]
    | handle number =>
      simp only [cell?] at found bare
      simp only [logger?, found, bare, Option.map_none]

end Scene

end CallJournal
