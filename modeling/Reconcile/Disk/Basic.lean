import Reconcile.Disk.Path
import Reconcile.Disk.Tree
import Reconcile.Failure

/-!
The disk. Paths are followed segment by segment as a system does it, so that the first obstacle on
the way decides the failure. A walk keeps the directories that it came through at hand;
`walk_eq_foldlM` says that it ends where it would when every step looked from the top. Beside the
tree stand the failures to come that the tree does not explain, such as a directory that may be
written but not opened.
-/

namespace Reconcile

/-- A failure from outside: which action of a sequence it strikes, and how many bytes get through
when that action is a write. -/
structure Mishap where
  position : Nat
  error : DiskError
  written : Nat := 0
  deriving DecidableEq, Inhabited

structure Disk where
  entries : List (String × Node) := []
  /-- What strikes the flushes to come, one after the other. Later ones are not struck. -/
  mishaps : List (Option Mishap) := []
  deriving Inhabited

namespace Disk

def top (disk : Disk) : Node := .directory disk.entries

def node? (disk : Disk) (location : Location) : Option Node := disk.top.find? location

/-- Replaces what a location holds, or adds to the directory above it. -/
def set (disk : Disk) (location : Location) (node : Node) : Disk :=
  { disk with entries := (disk.top.replace (some node) location).entries }

def erase (disk : Disk) (location : Location) : Disk :=
  { disk with entries := (disk.top.replace none location).entries }

def takeMishap (disk : Disk) : Option Mishap × Disk :=
  (disk.mishaps.head?.join, { disk with mishaps := disk.mishaps.tail })

def holdsDirectory (disk : Disk) (location : Location) : Bool :=
  (disk.node? location).any Node.isDirectory

/-! ### Following paths -/

def maxNameBytes : Nat := 255

/-- The bytes of a path that the system no longer takes. -/
def maxPathBytes : Nat := 4096

/-- Goes into the directory that the present one holds under a name. -/
def descend (here : Node) (name : String) : Except DiskError Node :=
  if maxNameBytes < name.utf8ByteSize then .error .nameTooLong
  else
    match here.child? name with
    | none => .error .noEntry
    | some (.file _) => .error .notDirectory
    | some (.directory entries) => .ok (.directory entries)

def enter (disk : Disk) (here : Location) (segment : String) : Except DiskError Location :=
  if Path.isBlank segment then .ok here
  else if segment = ".." then .ok here.dropLast
  else (descend ((disk.node? here).getD default) segment).map fun _ => here ++ [segment]

/-- The directories that a walk came through, the last one first, each with its name. -/
abbrev Trail := List (String × Node)

def Trail.location (trail : Trail) : Location := (trail.map Prod.fst).reverse

def here (disk : Disk) : Trail → Node
  | [] => disk.top
  | (_, node) :: _ => node

def advance (disk : Disk) (trail : Trail) (segment : String) : Except DiskError Trail :=
  if Path.isBlank segment then .ok trail
  else if segment = ".." then .ok trail.tail
  else (descend (disk.here trail) segment).map fun node => (segment, node) :: trail

def walk (disk : Disk) (segments : List String) : Except DiskError Location :=
  (segments.foldlM disk.advance []).map Trail.location

def Leads (disk : Disk) : Trail → Prop
  | [] => True
  | (name, node) :: outer =>
    disk.Leads outer ∧ (disk.here outer).child? name = some node

theorem node?_location {disk : Disk} {trail : Trail} (leads : disk.Leads trail) :
    disk.node? trail.location = some (disk.here trail) := by
  induction trail with
  | nil => rfl
  | cons step outer ih =>
    have above := ih leads.1
    simp only [node?, Trail.location] at above ⊢
    simp only [List.map_cons, List.reverse_cons, Node.find?_append, above]
    simpa [Node.find?, here] using leads.2

theorem leads_tail {disk : Disk} {trail : Trail} (leads : disk.Leads trail) :
    disk.Leads trail.tail := by
  cases trail with
  | nil => exact leads
  | cons step outer => exact leads.1

theorem child?_of_descend {here next : Node} {name : String}
    (entered : descend here name = .ok next) : here.child? name = some next := by
  unfold descend at entered
  split at entered
  · cases entered
  · split at entered
    · cases entered
    · cases entered
    · rename_i found
      cases entered
      exact found

theorem advance_location {disk : Disk} {trail : Trail} (leads : disk.Leads trail)
    (segment : String) :
    (disk.advance trail segment).map Trail.location = disk.enter trail.location segment := by
  unfold advance enter
  split
  · rfl
  · split
    · cases trail <;> simp [Except.map, Trail.location]
    · rw [node?_location leads, Option.getD_some]
      cases descend (disk.here trail) segment <;> simp [Except.map, Trail.location]

theorem leads_advance {disk : Disk} {trail next : Trail} (leads : disk.Leads trail)
    {segment : String} (advanced : disk.advance trail segment = .ok next) : disk.Leads next := by
  unfold advance at advanced
  split at advanced
  · cases advanced
    exact leads
  · split at advanced
    · cases advanced
      exact leads_tail leads
    · cases entered : descend (disk.here trail) segment with
      | error error => simp [entered, Except.map] at advanced
      | ok node =>
        simp only [entered, Except.map, Except.ok.injEq] at advanced
        subst advanced
        exact ⟨leads, child?_of_descend entered⟩

theorem foldlM_advance {disk : Disk} (segments : List String) {trail : Trail}
    (leads : disk.Leads trail) :
    (segments.foldlM disk.advance trail).map Trail.location =
      segments.foldlM disk.enter trail.location := by
  induction segments generalizing trail with
  | nil => rfl
  | cons segment rest ih =>
    simp only [List.foldlM_cons, ← advance_location leads]
    cases advanced : disk.advance trail segment with
    | error error => rfl
    | ok next => exact ih (leads_advance leads advanced)

theorem walk_eq_foldlM (disk : Disk) (segments : List String) :
    disk.walk segments = segments.foldlM disk.enter [] :=
  foldlM_advance segments trivial

/-- Refuses a path that the system does not take as an argument. -/
def checkPath (path : Path) : Except DiskError Unit :=
  if path.segments.any fun segment => segment.toList.contains '\x00' then .error .zeroInPath
  else if maxPathBytes ≤ path.text.utf8ByteSize then .error .nameTooLong
  else if path.segments = [""] then .error .noEntry
  else .ok ()

/-- The end of a path: the directory that the rest leads to, and the last segment. -/
def parentOf (disk : Disk) (path : Path) : Except DiskError (Location × String) := do
  checkPath path
  return (← disk.walk path.segments.dropLast, path.segments.getLast?.getD "")

def withoutSlash (path : Path) : Path :=
  ⟨(path.segments.reverse.dropWhile fun segment => segment == "").reverse⟩

def isDirectory (disk : Disk) (path : Path) : Bool :=
  (do checkPath path; disk.walk path.segments).isOk

/-- The location of a file to be written: a named one, and not that of a directory. -/
def fileTarget (disk : Disk) (path : Path) : Except DiskError Location := do
  let (directory, _) ← disk.parentOf (withoutSlash path)
  let name := path.segments.getLast?.getD ""
  if Path.isBlank name || name == ".." then throw .isDirectory
  if maxNameBytes < name.utf8ByteSize then throw .nameTooLong
  if disk.holdsDirectory (directory ++ [name]) then throw .isDirectory
  return directory ++ [name]

/-! ### Operations -/

def makeDirectory (disk : Disk) (path : Path) : Except DiskError Disk := do
  let (directory, name) ← disk.parentOf (withoutSlash path)
  if Path.isBlank name || name == ".." then throw .alreadyExists
  if maxNameBytes < name.utf8ByteSize then throw .nameTooLong
  if (disk.node? (directory ++ [name])).isSome then throw .alreadyExists
  return disk.set (directory ++ [name]) (.directory [])

/-- Creates a directory together with all that is missing above it, going up at most `bound`
levels. What is a directory already is left as it is. -/
def makeDirectoriesWithin (disk : Disk) : Nat → Path → Except DiskError Unit × Disk
  | 0, _ => (.ok (), disk)
  | bound + 1, path =>
    if path.segments = [""] then (.ok (), disk)
    else
      let settle (error : DiskError) (disk : Disk) : Except DiskError Unit × Disk :=
        (if disk.isDirectory path then .ok () else .error error, disk)
      match disk.makeDirectory path with
      | .ok disk => (.ok (), disk)
      | .error .noEntry =>
        let (above, disk) :=
          (path.parent?.map (disk.makeDirectoriesWithin bound)).getD (.ok (), disk)
        match above with
        | .error error => (.error error, disk)
        | .ok () =>
          match disk.makeDirectory path with
          | .ok disk => (.ok (), disk)
          | .error error => settle error disk
      | .error error => settle error disk

/-- Creates a directory together with all that is missing above it. A path has no more levels than
segments. -/
def makeDirectories (disk : Disk) (path : Path) : Except DiskError Unit × Disk :=
  disk.makeDirectoriesWithin path.segments.length path

def makeAbove (disk : Disk) (path : Path) : Except DiskError Unit × Disk :=
  match path.parent? with
  | none => (.ok (), disk)
  | some above => disk.makeDirectories above

/-- Opens a file for reading and appending, and creates it when it is missing. -/
def openOrCreate (disk : Disk) (path : Path) : Except DiskError (Bytes × Disk) := do
  let location ← disk.fileTarget path
  match disk.node? location with
  | some (.file content) => return (content, disk)
  | _ => return ([], disk.set location (.file []))

def createFile (disk : Disk) (path : Path) : Except DiskError Disk := do
  return disk.set (← disk.fileTarget path) (.file [])

def fileContent (disk : Disk) (path : Path) : Except DiskError Bytes := do
  let (directory, name) ← disk.parentOf path
  if maxNameBytes < name.utf8ByteSize then throw .nameTooLong
  if Path.isBlank name || name == ".." then throw .isDirectory
  match disk.node? (directory ++ [name]) with
  | some (.file content) => return content
  | some (.directory _) => throw .isDirectory
  | none => throw .noEntry

def append (disk : Disk) (path : Path) (content : Bytes) : Except DiskError Disk := do
  let location ← disk.fileTarget path
  match disk.node? location with
  | some (.file old) => return disk.set location (.file (old ++ content))
  | _ => throw .noEntry

/-- Gives a file the name of another path, whose file it replaces. -/
def renameFile (disk : Disk) (source target : Path) : Except DiskError Disk := do
  let content ← disk.fileContent source
  let old ← disk.fileTarget source
  let new ← disk.fileTarget target
  return (disk.erase old).set new (.file content)

def writeFile (disk : Disk) (path : Path) (content : Bytes) : Except DiskError Disk := do
  (← disk.createFile path).append path content

/-- Writes a whole file below directories that may be missing. Without success the disk is left as
far as it came. -/
def saveFile (disk : Disk) (path : Path) (content : Bytes) : Disk :=
  let disk := (disk.makeAbove path).2
  (disk.writeFile path content).toOption.getD disk

/-- Removes a file, or a directory with all that it holds. Only a directory may be named with a
slash at its end. -/
def remove (disk : Disk) (path : Path) : Except DiskError Disk := do
  let (directory, name) ← disk.parentOf (withoutSlash path)
  match disk.node? (directory ++ [name]) with
  | some (.directory _) => return disk.erase (directory ++ [name])
  | some (.file _) =>
    if withoutSlash path ≠ path then throw .notDirectory
    return disk.erase (directory ++ [name])
  | none => throw .noEntry

/-- Everything below a directory, as relative paths in the order of their texts. Directories end
in a slash. -/
def listing (disk : Disk) (path : Path) : List String :=
  match disk.walk path.segments with
  | .error _ => []
  | .ok location =>
    let entries := ((disk.node? location).map Node.entries).getD []
    (Node.listingOf "" entries).mergeSort fun a b => !decide (b < a)

end Disk

end Reconcile
