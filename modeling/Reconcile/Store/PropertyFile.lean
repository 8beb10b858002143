import Reconcile.Disk.Action
import Reconcile.Failure
import Reconcile.Store.PropertyText

/-!
The store in a property file. The whole file is read when the store is opened; changes stay in
memory until a flush, which writes a temporary file beside it and renames that one over it.
-/

namespace Reconcile

/-- A store whose durable copy is the property text in a file. -/
structure PropertyFile where
  path : Path
  table : Table := Table.empty
  deriving DecidableEq, Inhabited

namespace PropertyFile

def cacheDirectory : String := "item_cache"

def cacheExtension : String := ".dat"

def cacheFile (configuration : Path) (name : String) : Path :=
  configuration / cacheDirectory / (name ++ cacheExtension)

def isPlainName (name : String) : Bool :=
  name != "" && name != "." && name != ".." &&
    name.toList.all fun c => c != '/' && c != '\\' && c != '\x00'

/-- Opens the store at a path, and creates the file and the directories above it when they are
missing. The numbers of the lines that hold no entry come with it. -/
def openAt (path : Path) (disk : Disk) :
    Except StoreError (PropertyFile × List Nat) × Disk :=
  match disk.makeAbove path with
  | (.error cause, disk) => (.error (.cannotOpen path cause), disk)
  | (.ok (), disk) =>
    match disk.openOrCreate path with
    | .error cause => (.error (.cannotOpen path cause), disk)
    | .ok (content, disk) =>
      match content.text? with
      | none => (.error (.cannotOpen path .notText), disk)
      | some text =>
        let reading := PropertyText.read text
        (.ok ({ path, table := reading.table }, reading.malformed), disk)

/-- Opens the cache of a source. A name that could leave the cache directory is refused before
anything is created. -/
def openNamed (configuration : Path) (name : String) (disk : Disk) :
    Except StoreError (PropertyFile × List Nat) × Disk :=
  if isPlainName name then openAt (cacheFile configuration name) disk
  else (.error (.invalidName name), disk)

def temporaryPath (path : Path) : Path := path.withFileName (path.fileName?.getD "" ++ ".tmp")

def content (store : PropertyFile) : Bytes := .ofText (PropertyText.render store.table)

def flushActions (store : PropertyFile) : List DiskAction :=
  let temporary := temporaryPath store.path
  [.create temporary, .append temporary store.content, .syncFile temporary,
    .rename temporary store.path] ++
    match store.path.parent? with
    | some above => if above.text = "" then [] else [.syncDirectory above]
    | none => []

def flush (store : PropertyFile) (disk : Disk) (mishap : Option Mishap := none) :
    Except StoreError Unit × Disk :=
  match DiskAction.runAll mishap 0 store.flushActions disk with
  | (.ok (), disk) => (.ok (), disk)
  | (.error cause, disk) => (.error (.cannotFlush store.path cause), disk)

end PropertyFile

end Reconcile
