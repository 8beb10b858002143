import Reconcile.Proofs.Disk.Targets

/-!
Frames of disk operations. A path leads to one location only, whatever the disk holds, and an
operation leaves everything as it is but the files at the locations of its paths.
-/

namespace Reconcile

/-! ### Locations of paths -/

namespace Path

def follow (here : Location) (segment : String) : Location :=
  if isBlank segment then here
  else if segment = ".." then here.dropLast
  else here ++ [segment]

/-- The one location that a path can lead to. -/
def location (path : Path) : Location := path.segments.foldl follow []

theorem follow_named {here : Location} {name : String} (named : isBlank name = false)
    (inward : name ≠ "..") : follow here name = here ++ [name] := by
  rw [follow, named, if_neg Bool.false_ne_true, if_neg inward]

theorem foldl_follow_trimmed (segments : List String) (here : Location) :
    (trimmed segments).foldl follow here = segments.foldl follow here := by
  cases segments with
  | nil => rfl
  | cons first rest =>
    rw [trimmed, List.foldl_cons, List.foldl_cons]
    generalize follow here first = there
    -- Segments are dropped at the end, so that the induction goes from there.
    obtain ⟨rest, rfl⟩ : ∃ reversed, rest = List.reverse reversed := ⟨_, rest.reverse_reverse.symm⟩
    rw [List.reverse_reverse, List.foldl_reverse, List.foldl_reverse]
    induction rest with
    | nil => rfl
    | cons last others ih =>
      rw [List.dropWhile_cons]
      split
      · rename_i blank
        rw [ih, List.foldr_cons, follow, if_pos blank]
      · rfl

end Path

namespace Disk

variable {disk between after : Disk} {path : Path} {location : Location}

theorem enter_ok {here next : Location} {segment : String}
    (entered : disk.enter here segment = .ok next) : next = Path.follow here segment := by
  unfold enter at entered
  unfold Path.follow
  split
  · rename_i blank
    rw [if_pos blank] at entered
    exact (Except.ok.inj entered).symm
  · rename_i named
    rw [if_neg named] at entered
    split
    · rename_i upwards
      rw [if_pos upwards] at entered
      exact (Except.ok.inj entered).symm
    · rename_i downwards
      rw [if_neg downwards] at entered
      cases stepped : descend ((disk.node? here).getD default) segment with
      | error error => simp [stepped, Except.map] at entered
      | ok below =>
        rw [stepped] at entered
        exact (Except.ok.inj entered).symm

theorem walk_ok {segments : List String} (walked : disk.walk segments = .ok location) :
    location = segments.foldl Path.follow [] := by
  rw [walk_eq_foldlM] at walked
  generalize ([] : Location) = here at walked ⊢
  induction segments generalizing here with
  | nil => exact (Except.ok.inj walked).symm
  | cons segment rest ih =>
    rw [List.foldlM_cons] at walked
    cases entered : disk.enter here segment with
    | error error => rw [entered] at walked; cases walked
    | ok next =>
      rw [entered] at walked
      rw [List.foldl_cons, ← enter_ok entered]
      exact ih next walked

theorem Ends.location_eq {directory : Location} {name : String}
    (ends : Ends disk path directory name) : path.location = directory ++ [name] := by
  rw [Path.location, ends.cut, List.foldl_append, ← walk_ok ends.walked]
  exact Path.follow_named ends.named ends.inward

theorem fileTarget_location (target : disk.fileTarget path = .ok location) :
    location = path.location ∧ ¬ disk.holdsDirectory location := by
  obtain ⟨directory, name, ends, rfl, file⟩ := fileTarget_ok target
  exact ⟨ends.location_eq.symm, file⟩

/-! ### Frames -/

structure Confined (changed added : List Location) (disk after : Disk) : Prop where
  /-- Everything that was there still is, but for the files at the first places. -/
  kept : ∀ location node, disk.node? location = some node →
    (location ∈ changed → node.isDirectory = true) →
      (after.node? location).map Node.shown = some node.shown
  /-- Every file was there, but for those at the second places. -/
  made : ∀ location content, after.node? location = some (.file content) →
    (∀ place ∈ added, ¬ place <+: location) → disk.node? location = some (.file content)

namespace Confined

variable {changed added more others : List Location}

theorem refl (changed added : List Location) (disk : Disk) : Confined changed added disk disk where
  kept location node there _ := by rw [there, Option.map_some]
  made _ _ there _ := there

theorem trans (first : Confined changed added disk between)
    (second : Confined changed added between after) : Confined changed added disk after where
  kept location node there spared := by
    obtain ⟨other, held, same⟩ := Option.map_eq_some_iff.mp (first.kept location node there spared)
    rw [← same]
    refine second.kept location other held fun member => ?_
    rw [← Node.shown_eq_none, same, Node.shown_eq_none]
    exact spared member
  made location content there apart :=
    first.made location content (second.made location content there apart) apart

theorem mono (confined : Confined changed added disk after) (fewer : changed ⊆ more)
    (less : added ⊆ others) : Confined more others disk after where
  kept location node there spared :=
    confined.kept location node there fun member => spared (fewer member)
  made location content there apart :=
    confined.made location content there fun place member => apart place (less member)

theorem sustains (confined : Confined changed added disk after) : Sustains disk after := by
  intro location held
  obtain ⟨node, there⟩ := exists_node_of_holdsDirectory held
  have directory : node.isDirectory = true := by
    rw [holdsDirectory, there] at held
    exact held
  have shows := confined.kept location node there fun _ => directory
  rw [Node.shown_eq_none.mpr directory] at shows
  exact Node.holdsDirectory_iff.mpr shows

theorem file (confined : Confined changed added disk after) {content : Bytes}
    (elsewhere : location ∉ changed) (there : disk.node? location = some (.file content)) :
    after.node? location = some (.file content) :=
  Node.shown_eq_some.mp (confined.kept location _ there fun member => absurd member elsewhere)

theorem fileContent (confined : Confined changed added disk after) {content : Bytes}
    (elsewhere : path.location ∉ changed) (read : disk.fileContent path = .ok content) :
    after.fileContent path = .ok content := by
  obtain ⟨directory, name, ends, there⟩ := fileContent_ok read
  rw [ends.location_eq] at elsewhere
  exact (ends.sustained confined.sustains).fileContent_eq (confined.file elsewhere there)

end Confined

/-! ### Operations -/

theorem holdsDirectory_of_below {place : Location} {name : String} {rest : List String} {node : Node}
    (there : disk.node? (place ++ name :: rest) = some node) : disk.holdsDirectory place := by
  rw [node?, Node.find?_append] at there
  obtain ⟨above, held, below⟩ := Option.bind_eq_some_iff.mp there
  rw [holdsDirectory, node?, held]
  cases above with
  | directory entries => rfl
  | file content => simp [Node.find?, Node.child?, Node.entries] at below

theorem not_prefix_of_kept {place : Location} {changed : List Location} {node : Node}
    (file : ¬ disk.holdsDirectory place) (member : place ∈ changed)
    (there : disk.node? location = some node)
    (spared : location ∈ changed → node.isDirectory = true) : ¬ place <+: location := by
  rintro ⟨lower, rfl⟩
  cases lower with
  | nil =>
    rw [List.append_nil] at there spared
    refine file ?_
    rw [holdsDirectory, there]
    exact spared member
  | cons name rest => exact file (holdsDirectory_of_below there)

theorem confined_set (file : ¬ disk.holdsDirectory location) (node : Node) :
    Confined [location] [location] disk (disk.set location node) where
  kept other held there spared := by
    have outside := not_prefix_of_kept file (List.mem_singleton_self location) there spared
    rw [node?, top_set, Node.shown_replace outside, ← node?, there, Option.map_some]
  made other content there apart := by
    rw [node?, top_set] at there
    exact (Node.find?_replace_file (apart location (List.mem_singleton_self location))).mp there

theorem confined_createFile (created : disk.createFile path = .ok after) :
    Confined [path.location] [path.location] disk after := by
  unfold createFile at created
  cases target : disk.fileTarget path with
  | error error => simp [target, bind, Except.bind] at created
  | ok location =>
    simp only [target, bind, Except.bind, pure, Except.pure, Except.ok.injEq] at created
    obtain ⟨rfl, file⟩ := fileTarget_location target
    rw [← created]
    exact confined_set file _

theorem confined_append {content : Bytes} (appended : disk.append path content = .ok after) :
    Confined [path.location] [path.location] disk after := by
  unfold append at appended
  cases target : disk.fileTarget path with
  | error error => simp [target, bind, Except.bind] at appended
  | ok location =>
    simp only [target, bind, Except.bind, pure, Except.pure] at appended
    obtain ⟨rfl, file⟩ := fileTarget_location target
    split at appended
    · rw [← Except.ok.inj appended]
      exact confined_set file _
    · cases appended

theorem confined_renameFile {source target : Path}
    (renamed : disk.renameFile source target = .ok after) :
    Confined [source.location, target.location] [source.location, target.location] disk after := by
  cases read : disk.fileContent source with
  | error error => simp [renameFile, read, bind, Except.bind] at renamed
  | ok content =>
    cases old : disk.fileTarget source with
    | error error => simp [renameFile, read, old, bind, Except.bind] at renamed
    | ok before =>
      cases new : disk.fileTarget target with
      | error error => simp [renameFile, read, old, new, bind, Except.bind] at renamed
      | ok place =>
        simp only [renameFile, read, old, new, bind, Except.bind, pure, Except.pure,
          Except.ok.injEq] at renamed
        -- Neither of the two places was a directory, so that nothing lay below them.
        obtain ⟨rfl, left⟩ := fileTarget_location old
        obtain ⟨rfl, reached⟩ := fileTarget_location new
        subst renamed
        constructor
        · intro location node there spared
          have first := not_prefix_of_kept left List.mem_cons_self there spared
          have second := not_prefix_of_kept reached (List.mem_cons_of_mem _ List.mem_cons_self) there
            spared
          rw [node?, top_set, Node.shown_replace second, top_erase, Node.shown_replace first, ← node?,
            there, Option.map_some]
        · intro location held there apart
          have second := apart _ (List.mem_cons_of_mem _ List.mem_cons_self)
          rw [node?, top_set, Node.find?_replace_file second, top_erase,
            Node.find?_replace_file (apart _ List.mem_cons_self)] at there
          exact there

/-! ### Openings -/

theorem parentOf_held {directory : Location} {name : String}
    (parent : disk.parentOf path = .ok (directory, name)) : disk.holdsDirectory directory := by
  simp only [parentOf, bind, Except.bind, pure, Except.pure] at parent
  cases checked : checkPath path with
  | error error => simp [checked] at parent
  | ok _ =>
    cases walked : disk.walk path.segments.dropLast with
    | error error => simp [checked, walked] at parent
    | ok here =>
      simp only [checked, walked, Except.ok.injEq, Prod.mk.injEq] at parent
      rw [← parent.1]
      exact (walk_sustained (fun _ held => held) walked).2

theorem confined_set_directory {above : Location} {name : String} (held : disk.holdsDirectory above)
    (free : disk.node? (above ++ [name]) = none) :
    Confined [] [] disk (disk.set (above ++ [name]) (.directory [])) where
  kept location node there _ := by
    have outside : ¬ above ++ [name] <+: location := by
      rintro ⟨lower, rfl⟩
      rw [node?, Node.find?_append, ← node?, free] at there
      cases there
    rw [node?, top_set, Node.shown_replace outside, ← node?, there, Option.map_some]
  made location content there _ := by
    have outside : ¬ above ++ [name] <+: location := by
      rintro ⟨lower, rfl⟩
      rw [node?, Node.find?_append, ← node?, node?_set_self held] at there
      cases lower <;> cases there
    rw [node?, top_set] at there
    exact (Node.find?_replace_file outside).mp there

theorem confined_makeDirectory (made : disk.makeDirectory path = .ok after) :
    Confined [] [] disk after := by
  cases parent : disk.parentOf (withoutSlash path) with
  | error error => simp [makeDirectory, parent, bind, Except.bind] at made
  | ok ending =>
    obtain ⟨above, name⟩ := ending
    simp only [makeDirectory, parent, bind, Except.bind, pure, Except.pure] at made
    split at made
    · cases made
    · split at made
      · cases made
      · split at made
        · cases made
        · rename_i free
          rw [Option.not_isSome_iff_eq_none] at free
          rw [← Except.ok.inj made]
          exact confined_set_directory (parentOf_held parent) free

theorem confined_makeDirectoriesWithin (bound : Nat) (path : Path) (disk : Disk) :
    Confined [] [] disk (disk.makeDirectoriesWithin bound path).2 := by
  induction bound generalizing path disk with
  | zero => exact .refl [] [] disk
  | succ bound ih =>
    rw [makeDirectoriesWithin]
    split
    · exact .refl [] [] disk
    · dsimp only
      split
      · exact confined_makeDirectory ‹_›
      · have above : Confined [] [] disk
            ((path.parent?.map (disk.makeDirectoriesWithin bound)).getD (.ok (), disk)).2 := by
          cases path.parent? with
          | none => exact .refl [] [] disk
          | some upper => exact ih upper disk
        split
        · exact above
        · split
          · exact above.trans (confined_makeDirectory ‹_›)
          · exact above
      · exact .refl [] [] disk

theorem confined_makeAbove (disk : Disk) (path : Path) :
    Confined [] [] disk (disk.makeAbove path).2 := by
  rw [makeAbove]
  split
  · exact .refl [] [] disk
  · exact confined_makeDirectoriesWithin _ _ disk

theorem confined_openOrCreate {content : Bytes}
    (opened : disk.openOrCreate path = .ok (content, after)) :
    Confined [] [path.location] disk after := by
  unfold openOrCreate at opened
  cases target : disk.fileTarget path with
  | error error => simp [target, bind, Except.bind] at opened
  | ok location =>
    simp only [target, bind, Except.bind, pure, Except.pure] at opened
    obtain ⟨rfl, file⟩ := fileTarget_location target
    split at opened
    · obtain ⟨-, rfl⟩ := Prod.mk.inj (Except.ok.inj opened)
      exact .refl _ _ disk
    · rename_i missing
      obtain ⟨-, rfl⟩ := Prod.mk.inj (Except.ok.inj opened)
      have set := confined_set file (.file [])
      refine ⟨fun location node there _ => set.kept location node there fun member => ?_, set.made⟩
      rw [List.mem_singleton.mp member] at there
      cases node with
      | file held => exact absurd there (missing held)
      | directory entries => rfl

end Disk

/-! ### Actions -/

namespace DiskAction

def locations : DiskAction → List Location
  | create path => [path.location]
  | append path _ => [path.location]
  | rename source target => [source.location, target.location]
  | syncFile _ => []
  | syncDirectory _ => []

theorem confined_run {action : DiskAction} {disk after : Disk} (ran : action.run disk = .ok after) :
    Disk.Confined action.locations action.locations disk after := by
  cases action with
  | create path => exact Disk.confined_createFile ran
  | append path content => exact Disk.confined_append ran
  | rename source target => exact Disk.confined_renameFile ran
  | syncFile path =>
    rw [run] at ran
    cases read : disk.fileContent path with
    | error error => rw [read] at ran; cases ran
    | ok content =>
      rw [read] at ran
      cases ran
      exact .refl _ _ disk
  | syncDirectory path =>
    rw [run] at ran
    split at ran
    · cases ran
      exact .refl _ _ disk
    · cases ran

theorem confined_interrupted (action : DiskAction) (written : Nat) (disk : Disk) :
    Disk.Confined action.locations action.locations disk (action.interrupted written disk) := by
  cases action with
  | append path content =>
    rw [interrupted]
    cases part : disk.append path (content.take written) with
    | error error => exact .refl _ _ disk
    | ok after => exact Disk.confined_append part
  | create path => exact .refl _ _ disk
  | rename source target => exact .refl _ _ disk
  | syncFile path => exact .refl _ _ disk
  | syncDirectory path => exact .refl _ _ disk

end DiskAction

end Reconcile
