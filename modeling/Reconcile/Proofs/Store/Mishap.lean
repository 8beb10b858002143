import Reconcile.Proofs.Store.Restart

/-!
Flushes that fail on the way, by the state of the disk or by a mishap. Up to the renaming a flush
writes its temporary file only, so that the file of the store stays as it was. What comes after is
too late for that: a flush that is struck while it waits for the directory has failed, and the file is
the new one.
-/

namespace Reconcile

/-! ### The temporary file -/

namespace Path

theorem last_join {upper lower : Path} (given : lower.segments ≠ []) :
    (upper.join lower).segments.getLast? = lower.segments.getLast? := by
  have last : ∀ segments : List String,
      (segments ++ lower.segments).getLast? = lower.segments.getLast? := by
    intro segments
    rw [List.getLast?_append, List.getLast?_eq_some_getLast given]
    rfl
  unfold join
  split
  · rfl
  · split
    · exact last _
    · exact last _

theorem slashless_of_ofText {text segment : String} (member : segment ∈ (ofText text).segments) :
    '/' ∉ segment.toList := by
  obtain ⟨piece, cut, rfl⟩ := List.mem_map.mp member
  rw [String.toList_ofList]
  exact Text.not_mem_of_mem_segments cut

theorem ofText_slashless {text : String} (slashless : '/' ∉ text.toList) :
    (ofText text).segments = [text] := by
  rw [ofText, Text.segments_of_not_mem slashless, List.map_singleton, String.ofList_toList]

theorem slashless_append {name ending : String} (slashless : '/' ∉ name.toList)
    (plain : '/' ∉ ending.toList) : '/' ∉ (name ++ ending).toList := by
  rw [String.toList_append, List.mem_append, not_or]
  exact ⟨slashless, plain⟩

end Path

namespace PropertyFile

theorem last_temporaryPath {path : Path} {directories : List String} {name : String}
    (cut : path.segments = directories ++ [name]) (named : Path.isBlank name = false)
    (inward : name ≠ "..") : (temporaryPath path).segments.getLast? ≠ some name := by
  have called := Path.fileName?_concat cut named inward
  have given : (Path.ofText (name ++ ".tmp")).segments ≠ [] := by
    simp [Path.ofText, Text.segments_ne_nil]
  have last : (temporaryPath path).segments.getLast? =
      (Path.ofText (name ++ ".tmp")).segments.getLast? := by
    rw [temporaryPath, called, Path.withFileName, called]
    exact Path.last_join given
  rw [last]
  intro same
  have slashless := Path.slashless_of_ofText (List.mem_of_getLast? same)
  have whole : (Path.ofText (name ++ ".tmp")).segments = [name ++ ".tmp"] :=
    Path.ofText_slashless (Path.slashless_append slashless (by decide))
  rw [whole, List.getLast?_singleton] at same
  have longer := congrArg String.length (Option.some.inj same)
  rw [String.length_append] at longer
  have extension : (".tmp" : String).length = 4 := rfl
  omega

end PropertyFile

/-! ### Disks with the same file -/

/-- A path leads to a file on one disk as it does on the other, and to the same bytes. -/
def Disk.Spares (path : Path) (disk after : Disk) : Prop :=
  ∀ content, after.fileContent path = .ok content ↔ disk.fileContent path = .ok content

namespace Disk.Spares

variable {path : Path} {disk between after : Disk} {content : Bytes} {location : Location}

theorem refl (path : Path) (disk : Disk) : Spares path disk disk := fun _ => Iff.rfl

theorem trans (first : Spares path disk between) (second : Spares path between after) :
    Spares path disk after := fun content => (second content).trans (first content)

theorem set (target : disk.fileTarget (PropertyFile.temporaryPath path) = .ok location) :
    Spares path disk (disk.set location (.file content)) := by
  obtain ⟨directory, name, temporary, rfl, file⟩ := fileTarget_ok target
  have same := sameDirectories_set file content
  have named := temporary.cut
  -- The two files differ in their names, and none lies below the other.
  have outside : ∀ {above last}, Ends disk path above last →
      ¬ directory ++ [name] <+: above ++ [last] := by
    intro above last ends within
    rcases List.prefix_concat_iff.mp within with equal | upper
    · have equal : name = last := by simpa using congrArg List.getLast? equal
      refine PropertyFile.last_temporaryPath ends.cut ends.named ends.inward ?_
      rw [named, List.getLast?_concat, equal]
    · exact not_prefix_of_file file ends.held upper
  intro held
  rw [fileContent_iff, fileContent_iff]
  constructor
  · rintro ⟨above, last, ends, there⟩
    have began := ends.sustained same.symm.sustains
    rw [node?, top_set] at there
    exact ⟨above, last, began, (Node.find?_replace_file (outside began)).mp there⟩
  · rintro ⟨above, last, ends, there⟩
    refine ⟨above, last, ends.sustained same.sustains, ?_⟩
    rw [node?, top_set]
    exact (Node.find?_replace_file (outside ends)).mpr there

theorem createFile (created : disk.createFile (PropertyFile.temporaryPath path) = .ok after) :
    Spares path disk after := by
  unfold Disk.createFile at created
  cases target : disk.fileTarget (PropertyFile.temporaryPath path) with
  | error error => simp [target, bind, Except.bind] at created
  | ok location =>
    simp only [target, bind, Except.bind, pure, Except.pure, Except.ok.injEq] at created
    rw [← created]
    exact set target

theorem append (appended : disk.append (PropertyFile.temporaryPath path) content = .ok after) :
    Spares path disk after := by
  unfold Disk.append at appended
  cases target : disk.fileTarget (PropertyFile.temporaryPath path) with
  | error error => simp [target, bind, Except.bind] at appended
  | ok location =>
    simp only [target, bind, Except.bind, pure, Except.pure] at appended
    split at appended
    · rw [← Except.ok.inj appended]
      exact set target
    · cases appended

end Disk.Spares

/-! ### Sequences of actions -/

namespace DiskAction

structure Harmless (path : Path) (action : DiskAction) : Prop where
  run : ∀ {disk after}, action.run disk = .ok after → Disk.Spares path disk after
  interrupted : ∀ written disk, Disk.Spares path disk (action.interrupted written disk)

variable {mishap : Option Mishap} {actions : List DiskAction}

theorem runAll_append (mishap : Option Mishap) (position : Nat) (first rest : List DiskAction)
    (disk : Disk) : runAll mishap position (first ++ rest) disk =
      match runAll mishap position first disk with
      | (.ok (), between) => runAll mishap (position + first.length) rest between
      | (.error error, left) => (.error error, left) := by
  induction first generalizing position disk with
  | nil => rfl
  | cons action others ih =>
    rw [List.cons_append, runAll, runAll]
    cases mishap.filter fun strike => strike.position == position with
    | some strike => rfl
    | none =>
      cases action.run disk with
      | error error => rfl
      | ok between =>
        dsimp only
        rw [ih, List.length_cons, Nat.add_right_comm, Nat.add_assoc]

theorem runAll_spares {path : Path} (harmless : ∀ action ∈ actions, action.Harmless path)
    (position : Nat) (disk : Disk) :
    Disk.Spares path disk (runAll mishap position actions disk).2 := by
  induction actions generalizing position disk with
  | nil => exact .refl path disk
  | cons action rest ih =>
    have first := harmless action List.mem_cons_self
    rw [runAll]
    cases mishap.filter fun strike => strike.position == position with
    | some strike => exact first.interrupted strike.written disk
    | none =>
      cases ran : action.run disk with
      | error error => exact .refl path disk
      | ok between =>
        have later := ih (fun other member => harmless other (List.mem_cons_of_mem _ member))
        exact (first.run ran).trans (later (position + 1) between)

theorem runAll_missed {strike : Mishap} {position : Nat} (disk : Disk)
    (missed : strike.position < position ∨ position + actions.length ≤ strike.position) :
    runAll (some strike) position actions disk = runAll none position actions disk := by
  induction actions generalizing position disk with
  | nil => rfl
  | cons action rest ih =>
    rw [List.length_cons] at missed
    have misses : (some strike).filter (fun strike => strike.position == position) = none := by
      simp only [Option.filter_some, beq_iff_eq, ite_eq_right_iff]
      omega
    rw [runAll, runAll, misses, Option.filter_none]
    cases action.run disk with
    | error error => rfl
    | ok between => exact ih between (by omega)

variable {path : Path}

theorem harmless_create : (create (PropertyFile.temporaryPath path)).Harmless path where
  run := Disk.Spares.createFile
  interrupted _ disk := .refl path disk

theorem harmless_append (content : Bytes) :
    (append (PropertyFile.temporaryPath path) content).Harmless path where
  run := Disk.Spares.append
  interrupted written disk := by
    rw [interrupted]
    cases part : disk.append (PropertyFile.temporaryPath path) (content.take written) with
    | error error => exact .refl path disk
    | ok after => exact Disk.Spares.append part

theorem harmless_syncFile (other : Path) : (syncFile other).Harmless path where
  run {disk after} ran := by
    rw [run] at ran
    cases read : disk.fileContent other with
    | error error => rw [read] at ran; cases ran
    | ok content =>
      rw [read] at ran
      cases ran
      exact .refl path disk
  interrupted _ disk := .refl path disk

end DiskAction

/-! ### Flushes -/

namespace PropertyFile

open DiskAction

variable {store : PropertyFile} {disk after : Disk} {mishap : Option Mishap}

theorem preparations_harmless : ∀ action ∈ store.preparations, action.Harmless store.path := by
  intro action member
  simp only [preparations, List.mem_cons, List.not_mem_nil, or_false] at member
  rcases member with rfl | rfl | rfl
  · exact harmless_create
  · exact harmless_append store.content
  · exact harmless_syncFile _

theorem spares_of_moves {cause : DiskError}
    (failed : runAll mishap 0 store.moves disk = (.error cause, after)) :
    Disk.Spares store.path disk after := by
  have spared : Disk.Spares store.path disk (runAll mishap 0 store.preparations disk).2 :=
    runAll_spares preparations_harmless 0 disk
  rw [moves, runAll_append] at failed
  cases prepared : runAll mishap 0 store.preparations disk with
  | mk outcome between =>
    rw [prepared] at failed spared
    cases outcome with
    | error error =>
      cases failed
      exact spared
    | ok value =>
      dsimp only at failed
      rw [runAll] at failed
      split at failed
      · cases failed
        exact spared
      · split at failed
        · cases failed
          exact spared
        · cases failed

theorem ends_of_moves (moved : runAll mishap 0 store.moves disk = (.ok (), after)) :
    ∃ directory name, Disk.Ends after store.path directory name := by
  rw [moves, runAll_append] at moved
  cases prepared : runAll mishap 0 store.preparations disk with
  | mk outcome between =>
    rw [prepared] at moved
    cases outcome with
    | error error => cases moved
    | ok value =>
      dsimp only at moved
      rw [runAll] at moved
      split at moved
      · cases moved
      · split at moved
        · cases moved
        · rename_i renamed
          obtain rfl := (Prod.mk.inj moved).2
          have renamed : between.renameFile (temporaryPath store.path) store.path = .ok _ := renamed
          cases read : between.fileContent (temporaryPath store.path) with
          | error error => simp [Disk.renameFile, read, bind, Except.bind] at renamed
          | ok content =>
            obtain ⟨above, last, ends, -⟩ := Disk.renameFile_ok read renamed
            exact ⟨above, last, ends⟩

theorem flush_eq (store : PropertyFile) (disk : Disk) (mishap : Option Mishap) :
    store.flush disk mishap =
      match runAll mishap 0 store.moves disk with
      | (.ok (), between) =>
        ((runAll mishap store.moves.length store.waits between).1.mapError (.cannotFlush store.path),
          (runAll mishap store.moves.length store.waits between).2)
      | (.error cause, left) => (.error (.cannotFlush store.path cause), left) := by
  rw [flush, flushActions_eq, runAll_append, Nat.zero_add]
  cases runAll mishap 0 store.moves disk with
  | mk outcome between =>
    cases outcome with
    | error error => rfl
    | ok value =>
      dsimp only
      generalize runAll mishap store.moves.length store.waits between = left
      obtain ⟨outcome, last⟩ := left
      cases outcome <;> rfl

/-- A mishap strikes a flush of the store while it waits for the directory. -/
def StrikesWait (store : PropertyFile) (strike : Mishap) : Prop :=
  ∃ above, store.flushActions[strike.position]? = some (.syncDirectory above)

theorem strikesWait_iff {strike : Mishap} : store.StrikesWait strike ↔
    strike.position = store.moves.length ∧ store.waits ≠ [] := by
  have four : store.moves.length = 4 := rfl
  unfold StrikesWait
  rw [flushActions_eq, four]
  generalize strike.position = position
  constructor
  · rintro ⟨above, struck⟩
    rcases store.waits_eq with none | ⟨there, some⟩
    · rw [none] at struck
      rcases position with _ | _ | _ | _ | later
      all_goals cases struck
    · rw [some] at struck
      rcases position with _ | _ | _ | _ | _ | later
      case succ.succ.succ.succ.zero => exact ⟨rfl, by simp [some]⟩
      all_goals cases struck
  · rintro ⟨rfl, waiting⟩
    obtain ⟨above, some⟩ := store.waits_eq.resolve_left waiting
    rw [some]
    exact ⟨above, rfl⟩

theorem outside_waits {strike : Mishap} (missed : ¬ store.StrikesWait strike) :
    strike.position < store.moves.length ∨
      store.moves.length + store.waits.length ≤ strike.position := by
  rw [strikesWait_iff, not_and, Classical.not_not] at missed
  rcases store.waits_eq with none | ⟨above, some⟩
  · rw [none, List.length_nil]
    omega
  · have elsewhere : strike.position ≠ store.moves.length := by
      intro here
      rw [missed here] at some
      cases some
    rw [some, List.length_singleton]
    omega

theorem moves_of_strikesWait {strike : Mishap} (strikes : store.StrikesWait strike) (disk : Disk) :
    runAll (some strike) 0 store.moves disk = runAll none 0 store.moves disk := by
  obtain ⟨position, -⟩ := strikesWait_iff.mp strikes
  exact runAll_missed disk (.inr (by omega))

/-- A mishap at the wait fails a flush that goes well otherwise, and takes nothing back. -/
theorem flush_of_strikesWait {strike : Mishap} (strikes : store.StrikesWait strike)
    (flushed : store.flush disk = (.ok (), after)) :
    store.flush disk (some strike) = (.error (.cannotFlush store.path strike.error), after) := by
  obtain ⟨position, waiting⟩ := strikesWait_iff.mp strikes
  obtain ⟨above, waits⟩ := store.waits_eq.resolve_left waiting
  rw [flush_eq] at flushed ⊢
  rw [moves_of_strikesWait strikes]
  cases moved : runAll none 0 store.moves disk with
  | mk outcome between =>
    rw [moved] at flushed
    cases outcome with
    | error error => cases flushed
    | ok value =>
      obtain ⟨directory, name, ends⟩ := ends_of_moves moved
      dsimp only at flushed ⊢
      rw [runAll_waits ends] at flushed
      obtain rfl : between = after := (Prod.mk.inj flushed).2
      have struck : runAll (some strike) store.moves.length store.waits between =
          (.error strike.error, between) := by
        rw [waits, runAll, Option.filter_some, if_pos (beq_iff_eq.mpr position)]
        rfl
      rw [struck]
      rfl

/-- A mishap at the wait never comes to a flush that fails by itself. -/
theorem flush_of_failed {strike : Mishap} {cause : StoreError} (strikes : store.StrikesWait strike)
    (failed : store.flush disk = (.error cause, after)) :
    store.flush disk (some strike) = (.error cause, after) := by
  rw [flush_eq] at failed ⊢
  rw [moves_of_strikesWait strikes]
  cases moved : runAll none 0 store.moves disk with
  | mk outcome between =>
    rw [moved] at failed
    cases outcome with
    | error error => exact failed
    | ok value =>
      obtain ⟨directory, name, ends⟩ := ends_of_moves moved
      dsimp only at failed
      rw [runAll_waits ends] at failed
      cases failed

theorem runAll_waits_missed {directory : Location} {name : String}
    (ends : Disk.Ends disk store.path directory name)
    (missed : ∀ strike, mishap = some strike → ¬ store.StrikesWait strike) :
    runAll mishap store.moves.length store.waits disk = (.ok (), disk) := by
  rw [← runAll_waits ends store.moves.length]
  cases mishap with
  | none => rfl
  | some strike => exact runAll_missed disk (outside_waits (missed strike rfl))

theorem flush_of_missed {strike : Mishap} (store : PropertyFile) (disk : Disk)
    (late : store.moves.length ≤ strike.position) (missed : ¬ store.StrikesWait strike) :
    store.flush disk (some strike) = store.flush disk := by
  have beyond : store.flushActions.length ≤ strike.position := by
    rw [flushActions_eq, List.length_append]
    exact (outside_waits missed).resolve_left (Nat.not_lt.mpr late)
  rw [flush, flush, runAll_missed disk (.inr (by omega))]

theorem spares_of_missed {cause : StoreError}
    (missed : ∀ strike, mishap = some strike → ¬ store.StrikesWait strike)
    (failed : store.flush disk mishap = (.error cause, after)) :
    Disk.Spares store.path disk after := by
  rw [flush_eq] at failed
  cases moved : runAll mishap 0 store.moves disk with
  | mk outcome between =>
    rw [moved] at failed
    cases outcome with
    | error error =>
      obtain rfl : between = after := (Prod.mk.inj failed).2
      exact spares_of_moves moved
    | ok value =>
      obtain ⟨directory, name, ends⟩ := ends_of_moves moved
      dsimp only at failed
      rw [runAll_waits_missed ends missed] at failed
      cases failed

/-- A flush gets through to its wait, and is struck there. -/
def StruckLate (store : PropertyFile) (disk : Disk) (mishap : Option Mishap) : Prop :=
  (store.flush disk).1 = .ok () ∧ ∃ strike, mishap = some strike ∧ store.StrikesWait strike

theorem content_of_struckLate {outcome : Except StoreError Unit}
    (late : store.StruckLate disk mishap) (flushed : store.flush disk mishap = (outcome, after)) :
    after.fileContent store.path = .ok store.content := by
  obtain ⟨goes, strike, rfl, strikes⟩ := late
  cases calm : store.flush disk with
  | mk result last =>
    rw [calm] at goes
    obtain rfl : result = .ok () := goes
    rw [flush_of_strikesWait strikes calm] at flushed
    obtain rfl : last = after := (Prod.mk.inj flushed).2
    obtain ⟨directory, name, ends, filled⟩ := flush_ok calm
    exact ends.fileContent_eq filled

theorem spares_of_not_struckLate {cause : StoreError} (early : ¬ store.StruckLate disk mishap)
    (failed : store.flush disk mishap = (.error cause, after)) :
    Disk.Spares store.path disk after := by
  have unstruck : ∀ strike : Mishap, none = some strike → ¬ store.StrikesWait strike := by
    intro strike same
    cases same
  cases mishap with
  | none => exact spares_of_missed unstruck failed
  | some strike =>
    rcases Classical.em (store.StrikesWait strike) with strikes | misses
    -- A mishap that was to strike the wait, but the flush failed by itself before.
    · cases calm : store.flush disk with
      | mk outcome last =>
        cases outcome with
        | ok value => exact absurd ⟨by rw [calm], strike, rfl, strikes⟩ early
        | error error =>
          rw [flush_of_failed strikes calm] at failed
          obtain rfl : last = after := (Prod.mk.inj failed).2
          exact spares_of_missed unstruck calm
    · refine spares_of_missed ?_ failed
      rintro other same
      rw [← Option.some.inj same]
      exact misses

/-- Whether a flush succeeds, and how it fails, does not depend on the entries. -/
theorem flush_outcome {first second : PropertyFile} (path : first.path = second.path) (disk : Disk)
    (mishap : Option Mishap) : (first.flush disk mishap).1 = (second.flush disk mishap).1 := by
  have calm := calm_outcome path disk
  cases mishap with
  | none => exact calm
  | some strike =>
    have waits : first.waits = second.waits := by rw [PropertyFile.waits, PropertyFile.waits, path]
    have strikes : first.StrikesWait strike ↔ second.StrikesWait strike := by
      rw [strikesWait_iff, strikesWait_iff, waits]
      rfl
    rcases Nat.lt_or_ge strike.position 4 with early | late
    · rw [flush_of_early first disk early, flush_of_early second disk early, path]
    · rcases Classical.em (first.StrikesWait strike) with struck | missed
      · cases one : first.flush disk with
        | mk outcome after =>
          cases two : second.flush disk with
          | mk result left =>
            obtain rfl : outcome = result := by simpa only [one, two] using calm
            cases outcome with
            | ok value =>
              rw [flush_of_strikesWait struck one, flush_of_strikesWait (strikes.mp struck) two, path]
            | error cause =>
              rw [flush_of_failed struck one, flush_of_failed (strikes.mp struck) two]
      · rw [flush_of_missed first disk late missed,
          flush_of_missed second disk late (mt strikes.mpr missed)]
        exact calm

/-- A flush that fails, by the state of the disk or by a mishap at any of its actions, spares the file
of the store: what could be read of it still can, with the same bytes, and nothing else. The one
exception is a mishap while the flush waits for the directory. By then the file holds the live
entries, although the flush fails; so it is spared only if it held them before. -/
theorem failed_flush_spares {cause : StoreError}
    (failed : store.flush disk mishap = (.error cause, after)) :
    (store.StruckLate disk mishap → after.fileContent store.path = .ok store.content) ∧
    (Disk.Spares store.path disk after ↔
      (store.StruckLate disk mishap → disk.fileContent store.path = .ok store.content)) := by
  refine ⟨fun late => content_of_struckLate late failed, ?_⟩
  -- Struck late, the file holds the live entries whatever it held, so that only the same bytes do.
  constructor
  · intro spared late
    exact (spared store.content).mp (content_of_struckLate late failed)
  · intro before
    rcases Classical.em (store.StruckLate disk mishap) with late | early
    · intro content
      rw [content_of_struckLate late failed, before late]
    · exact spares_of_not_struckLate early failed

/-! ### A flush of one change -/

def edited : PropertyFile :=
  { path := ⟨["", "room", "contact.dat"]⟩, table := Table.ofList [("a", "2")] }

def editedDisk : Disk :=
  { entries := [("room", .directory [("contact.dat", .file (.ofText "a=1\n"))])] }

/-- The disk runs full in the middle of the temporary file. -/
def fullDisk : Mishap := { position := 1, error := .system 28, written := 2 }

/-- The directory may be written, but not be opened. -/
def closedDirectory : Mishap := { position := 4, error := .system 13 }

def cutDisk : Disk :=
  { entries := [("room", .directory
      [("contact.dat", .file (.ofText "a=1\n")), ("contact.dat.tmp", .file (.ofText "a="))])] }

def movedDisk : Disk :=
  { entries := [("room", .directory [("contact.dat", .file (.ofText "a=2\n"))])] }

theorem edited_flush_fails :
    (edited.flush editedDisk (some fullDisk) =
        (.error (.cannotFlush edited.path (.system 28)), cutDisk) ∧
      Disk.Spares edited.path editedDisk cutDisk) ∧
    edited.flush editedDisk (some closedDirectory) =
        (.error (.cannotFlush edited.path (.system 13)), movedDisk) ∧
      movedDisk.fileContent edited.path = .ok edited.content := by
  have full : edited.flush editedDisk (some fullDisk) =
      (.error (.cannotFlush edited.path (.system 28)), cutDisk) := rfl
  have closed : edited.flush editedDisk (some closedDirectory) =
      (.error (.cannotFlush edited.path (.system 13)), movedDisk) := rfl
  refine ⟨⟨full, ?_⟩, closed, ?_⟩
  · refine (failed_flush_spares full).2.mpr ?_
    rintro ⟨-, strike, same, above, strikes⟩
    obtain rfl := Option.some.inj same
    cases strikes
  · exact (failed_flush_spares closed).1 ⟨rfl, closedDirectory, rfl, ⟨["", "room"]⟩, rfl⟩

/-- The flush failed, and the file has changed. -/
theorem failed_flush_replaces_file :
    edited.flush editedDisk (some closedDirectory) =
        (.error (.cannotFlush edited.path (.system 13)), movedDisk) ∧
      editedDisk.fileContent edited.path = .ok (.ofText "a=1\n") ∧
      movedDisk.fileContent edited.path = .ok (.ofText "a=2\n") ∧
      Bytes.ofText "a=1\n" ≠ Bytes.ofText "a=2\n" := by
  refine ⟨rfl, rfl, rfl, ?_⟩
  decide +kernel

end PropertyFile

end Reconcile
