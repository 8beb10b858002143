import Reconcile.Proofs.Disk.Targets
import Reconcile.Store.PropertyFile

/-!
Flushes of a property file. A flush fails only where its temporary file cannot be created, or where
that file cannot take the name of the store; otherwise the store holds what was rendered.
-/

namespace Reconcile

namespace Disk

theorem createFile_ok {disk after : Disk} {path : Path} (created : disk.createFile path = .ok after) :
    ∃ directory name, Ends disk path directory name ∧ SameDirectories disk after ∧
      after.node? (directory ++ [name]) = some (.file []) ∧
      after = disk.set (directory ++ [name]) (.file []) := by
  simp only [createFile, bind, Except.bind, pure, Except.pure] at created
  cases target : disk.fileTarget path with
  | error error => simp [target] at created
  | ok location =>
    obtain ⟨directory, name, ends, rfl, file⟩ := fileTarget_ok target
    simp only [target, Except.ok.injEq] at created
    subst created
    exact ⟨directory, name, ends, sameDirectories_set file _, node?_set_self ends.held _ _, rfl⟩

section

variable {disk after : Disk} {path : Path} {directory : Location} {name : String} {content : Bytes}
  (ends : Ends disk path directory name)

include ends

theorem append_eq {old : Bytes} (there : disk.node? (directory ++ [name]) = some (.file old)) :
    disk.append path content = .ok (disk.set (directory ++ [name]) (.file (old ++ content))) := by
  simp [append, ends.fileTarget_eq (not_holdsDirectory_of_file there), there, bind, Except.bind, pure,
    Except.pure]

theorem renameFile_eq (there : disk.node? (directory ++ [name]) = some (.file content))
    (target : Path) : disk.renameFile path target =
      (disk.fileTarget target).map fun new =>
        (disk.erase (directory ++ [name])).set new (.file content) := by
  simp only [renameFile, ends.fileContent_eq there,
    ends.fileTarget_eq (not_holdsDirectory_of_file there), bind, Except.bind, pure, Except.pure]
  cases disk.fileTarget target <;> rfl

end

theorem renameFile_ok {disk after : Disk} {path target : Path} {content : Bytes}
    (read : disk.fileContent path = .ok content) (renamed : disk.renameFile path target = .ok after) :
    ∃ above last, Ends after target above last ∧
      after.node? (above ++ [last]) = some (.file content) := by
  obtain ⟨directory, name, ends, there⟩ := fileContent_ok read
  rw [renameFile_eq ends there] at renamed
  cases found : disk.fileTarget target with
  | error error => rw [found] at renamed; cases renamed
  | ok location =>
    obtain ⟨above, last, new, rfl, free⟩ := fileTarget_ok found
    rw [found] at renamed
    cases renamed
    have file := not_holdsDirectory_of_file there
    have kept : Sustains disk ((disk.erase (directory ++ [name])).set (above ++ [last])
        (.file content)) :=
      fun _ held => holdsDirectory_set (not_prefix_of_file free held) _ (sustains_erase file _ held)
    exact ⟨above, last, new.sustained kept,
      node?_set_self (sustains_erase file _ new.held) last (.file content)⟩

end Disk

namespace DiskAction

theorem runAll_of_ok {position : Nat} {action : DiskAction} {disk between : Disk}
    (ran : action.run disk = .ok between) (rest : List DiskAction) :
    runAll none position (action :: rest) disk = runAll none (position + 1) rest between := by
  simp only [runAll, Option.filter_none, ran]

theorem runAll_of_error {position : Nat} {action : DiskAction} {disk : Disk} {error : DiskError}
    (ran : action.run disk = .error error) (rest : List DiskAction) :
    runAll none position (action :: rest) disk = (.error error, disk) := by
  simp only [runAll, Option.filter_none, ran]

theorem runAll_ok {mishap : Option Mishap} {position : Nat} {actions : List DiskAction}
    {disk after : Disk} (ran : runAll mishap position actions disk = (.ok (), after)) :
    runAll none position actions disk = (.ok (), after) := by
  induction actions generalizing position disk with
  | nil => exact ran
  | cons action rest ih =>
    rw [runAll] at ran
    split at ran
    · cases ran
    · split at ran
      · cases ran
      · rename_i next
        rw [runAll_of_ok next]
        exact ih ran

end DiskAction

namespace PropertyFile

def preparations (store : PropertyFile) : List DiskAction :=
  [.create (temporaryPath store.path), .append (temporaryPath store.path) store.content,
    .syncFile (temporaryPath store.path)]

/-- What a flush does up to the point where the store has its new file. -/
def moves (store : PropertyFile) : List DiskAction :=
  store.preparations ++ [.rename (temporaryPath store.path) store.path]

def waits (store : PropertyFile) : List DiskAction :=
  match store.path.parent? with
  | some above => if above.text = "" then [] else [.syncDirectory above]
  | none => []

theorem flushActions_eq (store : PropertyFile) : store.flushActions = store.moves ++ store.waits := rfl

theorem waits_eq (store : PropertyFile) :
    store.waits = [] ∨ ∃ above, store.waits = [.syncDirectory above] := by
  unfold waits
  split
  · rename_i above parent
    split
    · exact .inl rfl
    · exact .inr ⟨above, rfl⟩
  · exact .inl rfl

theorem runAll_waits {store : PropertyFile} {disk : Disk} {directory : Location} {name : String}
    (ends : Disk.Ends disk store.path directory name) (position : Nat) :
    DiskAction.runAll none position store.waits disk = (.ok (), disk) := by
  unfold waits
  split
  · rename_i above parent
    split
    · rfl
    · rename_i given
      have there : disk.isDirectory above = true :=
        (Disk.isDirectory_above ends parent).resolve_left fun top => given (by simp [Path.text, top])
      have synced : (DiskAction.syncDirectory above).run disk = .ok disk := by
        rw [DiskAction.run, if_pos there]
      exact DiskAction.runAll_of_ok synced []
  · rfl

/-- How a flush goes: the temporary file could not be created, or not renamed, or the store holds
what was rendered. -/
inductive Flushes (store : PropertyFile) (disk : Disk) : Except StoreError Unit × Disk → Prop
  | uncreated {cause : DiskError} (failed : disk.createFile (temporaryPath store.path) = .error cause) :
      Flushes store disk (.error (.cannotFlush store.path cause), disk)
  | unrenamed {created : Disk} {location : Location} {cause : DiskError}
      (made : disk.createFile (temporaryPath store.path) = .ok created)
      (target : disk.fileTarget (temporaryPath store.path) = .ok location)
      (failed : (created.set location (.file store.content)).fileTarget store.path = .error cause) :
      Flushes store disk
        (.error (.cannotFlush store.path cause), created.set location (.file store.content))
  | saved {created after : Disk} {location above : Location} {last : String}
      (made : disk.createFile (temporaryPath store.path) = .ok created)
      (target : disk.fileTarget (temporaryPath store.path) = .ok location)
      (usable : ∃ new, (created.set location (.file store.content)).fileTarget store.path = .ok new)
      (ends : Disk.Ends after store.path above last)
      (holds : after.node? (above ++ [last]) = some (.file store.content)) :
      Flushes store disk (.ok (), after)

structure Prepares (store : PropertyFile) (disk created : Disk) (directory : Location)
    (name : String) (written : Disk) : Prop where
  target : disk.fileTarget (temporaryPath store.path) = .ok (directory ++ [name])
  wrote : created.set (directory ++ [name]) (.file store.content) = written
  appends : (DiskAction.append (temporaryPath store.path) store.content).run created = .ok written
  synced : (DiskAction.syncFile (temporaryPath store.path)).run written = .ok written
  ends : Disk.Ends written (temporaryPath store.path) directory name
  filled : written.node? (directory ++ [name]) = some (.file store.content)

theorem prepares {store : PropertyFile} {disk created : Disk}
    (create : disk.createFile (temporaryPath store.path) = .ok created) :
    ∃ directory name written, Prepares store disk created directory name written := by
  obtain ⟨directory, name, ends, same, blank, made⟩ := Disk.createFile_ok create
  have reached := ends.sustained same.sustains
  have free := Disk.not_holdsDirectory_of_file blank
  have filled := Disk.node?_set_self reached.held name (.file store.content)
  have within := Disk.sameDirectories_set free store.content
  have arrived := reached.sustained within.sustains
  refine ⟨directory, name, created.set (directory ++ [name]) (.file store.content), ?_⟩
  exact {
    target := ends.fileTarget_eq fun held => free (same _ ▸ held)
    wrote := rfl
    appends := Disk.append_eq reached blank
    synced := by
      rw [DiskAction.run, arrived.fileContent_eq filled]
      rfl
    ends := arrived
    filled }

theorem flushes (store : PropertyFile) (disk : Disk) : Flushes store disk (store.flush disk) := by
  rw [flush, flushActions_eq, moves, preparations]
  simp only [List.cons_append, List.nil_append]
  cases create : disk.createFile (temporaryPath store.path) with
  | error cause =>
    have creates : (DiskAction.create (temporaryPath store.path)).run disk = .error cause := create
    rw [DiskAction.runAll_of_error creates]
    exact .uncreated create
  | ok created =>
    obtain ⟨directory, name, written, ready⟩ := prepares create
    have creates : (DiskAction.create (temporaryPath store.path)).run disk = .ok created := create
    have renames := Disk.renameFile_eq ready.ends ready.filled store.path
    rw [DiskAction.runAll_of_ok creates, DiskAction.runAll_of_ok ready.appends,
      DiskAction.runAll_of_ok ready.synced]
    cases rename : written.renameFile (temporaryPath store.path) store.path with
    | error cause =>
      have moves : (DiskAction.rename (temporaryPath store.path) store.path).run written =
          .error cause := rename
      rw [DiskAction.runAll_of_error moves]
      have failed : written.fileTarget store.path = .error cause := by
        rw [rename] at renames
        cases found : written.fileTarget store.path with
        | ok location => rw [found] at renames; cases renames
        | error error => rw [found] at renames; cases renames; rfl
      obtain rfl := ready.wrote
      exact .unrenamed create ready.target failed
    | ok after =>
      obtain ⟨above, last, final, holds⟩ :=
        Disk.renameFile_ok (ready.ends.fileContent_eq ready.filled) rename
      have usable : ∃ new, written.fileTarget store.path = .ok new := by
        rw [rename] at renames
        cases found : written.fileTarget store.path with
        | ok location => exact ⟨location, rfl⟩
        | error error => rw [found] at renames; cases renames
      have moves : (DiskAction.rename (temporaryPath store.path) store.path).run written =
          .ok after := rename
      rw [DiskAction.runAll_of_ok moves, runAll_waits final]
      obtain rfl := ready.wrote
      exact .saved create ready.target usable final holds

/-- What a flush meets on its way: its two files, of which the second is looked for once the first
is written. -/
def meets (store : PropertyFile) (disk : Disk) : Except DiskError Location := do
  let created ← disk.createFile (temporaryPath store.path)
  let location ← disk.fileTarget (temporaryPath store.path)
  (created.set location (.file store.content)).fileTarget store.path

theorem Flushes.outcome_eq {store : PropertyFile} {disk : Disk}
    {left : Except StoreError Unit × Disk} (went : Flushes store disk left) :
    left.1 = ((store.meets disk).map fun _ => ()).mapError (.cannotFlush store.path) := by
  cases went with
  | @uncreated cause failed =>
    have met : store.meets disk = .error cause := by simp [meets, failed, bind, Except.bind]
    rw [met]
    rfl
  | @unrenamed created location cause made target failed =>
    have met : store.meets disk = .error cause := by
      simp [meets, made, target, failed, bind, Except.bind]
    rw [met]
    rfl
  | saved made target usable ends holds =>
    obtain ⟨new, usable⟩ := usable
    have met : store.meets disk = .ok new := by
      simp [meets, made, target, usable, bind, Except.bind]
    rw [met]
    rfl

theorem calm_outcome {first second : PropertyFile} (path : first.path = second.path) (disk : Disk) :
    (first.flush disk).1 = (second.flush disk).1 := by
  have targets : ∀ (created : Disk) (location : Location) (target : Path),
      (created.set location (.file first.content)).fileTarget target =
        (created.set location (.file second.content)).fileTarget target :=
    fun created location => (Disk.alike_set created location _ _).fileTarget_eq
  rw [(first.flushes disk).outcome_eq, (second.flushes disk).outcome_eq]
  simp only [meets, path, targets]

/-- A mishap that strikes before the file has its new name is met by every flush whose temporary file
can be created. -/
theorem flush_of_early {strike : Mishap} (store : PropertyFile) (disk : Disk)
    (early : strike.position < store.moves.length) :
    (store.flush disk (some strike)).1 = .error (.cannotFlush store.path
      (if strike.position = 0 then strike.error
      else
        match disk.createFile (temporaryPath store.path) with
        | .error cause => cause
        | .ok _ => strike.error)) := by
  obtain ⟨position, error, bytes⟩ := strike
  have before : position < 4 := early
  rw [flush, flushActions_eq, moves, preparations]
  simp only [List.cons_append, List.nil_append, DiskAction.runAll, Option.filter_some]
  cases create : disk.createFile (temporaryPath store.path) with
  | error cause =>
    have creates : (DiskAction.create (temporaryPath store.path)).run disk = .error cause := create
    simp only [creates]
    by_cases first : position = 0
    · subst first
      rfl
    · simp [first]
  | ok created =>
    obtain ⟨directory, name, written, ready⟩ := prepares create
    have creates : (DiskAction.create (temporaryPath store.path)).run disk = .ok created := create
    have position : position = 0 ∨ position = 1 ∨ position = 2 ∨ position = 3 := by omega
    rcases position with rfl | rfl | rfl | rfl
    all_goals simp [creates, ready.appends, ready.synced]

end PropertyFile

end Reconcile
