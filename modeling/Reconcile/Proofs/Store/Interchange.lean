import Reconcile.Proofs.Store.Durable

/-!
Stores as maps. Behind its requests a store is two lists of entries, the live ones and those that a
restart brings back. Either store represents such a pair and answers from it, so that nobody can tell
a store in a file from one in memory, as long as the file can be written.
-/

namespace Reconcile

inductive StoreRequest where
  | get (key : String)
  | set (key value : String)
  | remove (key : String)
  | contains (key : String)
  | entries
  | size
  | clear
  | flush
  /-- Closes the store, and opens it again over what is durable of it. -/
  | restart
  deriving DecidableEq, Inhabited

inductive StoreAnswer where
  | done
  | found (value : Option String)
  | truth (holds : Bool)
  | listed (entries : List (String × String))
  | counted (size : Nat)
  | failed (cause : StoreError)
  deriving DecidableEq, Inhabited

/-- A flush was let down by the file system. -/
def StoreAnswer.unflushed : StoreAnswer → Bool
  | failed (.cannotFlush ..) => true
  | _ => false

abbrev StoreReport := StoreAnswer × List (String × String)

namespace Backing

def perform (backing : Backing) (disk : Disk) : StoreRequest → StoreAnswer × Backing × Disk
  | .get key => (.found (backing.live.get? key), backing, disk)
  | .set key value => (.done, backing.setLive (backing.live.insert key value), disk)
  | .remove key =>
    let (removed, table) := backing.live.erase key
    (.truth removed, backing.setLive table, disk)
  | .contains key => (.truth (backing.live.get? key).isSome, backing, disk)
  | .entries => (.listed backing.live.toList, backing, disk)
  | .size => (.counted backing.live.size, backing, disk)
  | .clear => (.done, backing.setLive backing.live.clear, disk)
  | .flush =>
    match backing.flush disk with
    | (.ok (), backing, disk) => (.done, backing, disk)
    | (.error cause, backing, disk) => (.failed cause, backing, disk)
  | .restart =>
    match backing.restart disk with
    | (.ok backing, disk) => (.done, backing, disk)
    | (.error cause, disk) => (.failed cause, backing, disk)

def serve : List StoreRequest → Backing → Disk → List StoreReport
  | [], _, _ => []
  | request :: rest, backing, disk =>
    let (answer, backing, disk) := backing.perform disk request
    (answer, backing.live.toList) :: serve rest backing disk

end Backing

structure Shelf where
  live : List (String × String) := []
  durable : List (String × String) := []
  deriving DecidableEq, Inhabited

namespace Shelf

def perform (shelf : Shelf) : StoreRequest → StoreAnswer × Shelf
  | .get key => (.found (shelf.live.lookup key), shelf)
  | .set key value => (.done, { shelf with live := Entries.place key value shelf.live })
  | .remove key =>
    (.truth (shelf.live.lookup key).isSome, { shelf with live := Entries.without key shelf.live })
  | .contains key => (.truth (shelf.live.lookup key).isSome, shelf)
  | .entries => (.listed shelf.live, shelf)
  | .size => (.counted shelf.live.length, shelf)
  | .clear => (.done, { shelf with live := [] })
  | .flush => (.done, { shelf with durable := shelf.live })
  | .restart => (.done, { shelf with live := shelf.durable })

def serve : List StoreRequest → Shelf → List StoreReport
  | [], _ => []
  | request :: rest, shelf =>
    let (answer, shelf) := shelf.perform request
    (answer, shelf.live) :: serve rest shelf

end Shelf

namespace Backing

variable {backing : Backing} {disk : Disk} {shelf : Shelf} {entries : List (String × String)}

/-- A restart brings the given entries back. A store in memory does not refuse to flush them. -/
inductive Secures (disk : Disk) (entries : List (String × String)) : Backing → Prop
  | memory {store : MemoryStore} (accepts : store.rejecting = false)
      (kept : store.durable.toList = entries) : Secures disk entries (.memory store)
  | file {store : PropertyFile} {content : Bytes} {text : String}
      (read : disk.fileContent store.path = .ok content) (encoded : content.text? = some text)
      (kept : (PropertyText.parse text).toList = entries) : Secures disk entries (.file store)

structure Represents (backing : Backing) (disk : Disk) (shelf : Shelf) : Prop where
  live : backing.live.toList = shelf.live
  durable : backing.Secures disk shelf.durable

/-! ### One request -/

theorem live_setLive (backing : Backing) (table : Table) : (backing.setLive table).live = table := by
  cases backing <;> rfl

theorem Secures.setLive (secures : backing.Secures disk entries) (table : Table) :
    (backing.setLive table).Secures disk entries := by
  cases secures with
  | memory accepts kept => exact .memory accepts kept
  | file read encoded kept => exact .file read encoded kept

namespace Represents

theorem setLive (represents : backing.Represents disk shelf) {table : Table}
    (same : table.toList = entries) :
    (backing.setLive table).Represents disk { shelf with live := entries } := by
  refine ⟨?_, represents.durable.setLive table⟩
  rw [live_setLive]
  exact same

theorem flush (represents : backing.Represents disk shelf)
    (goes : ∀ path cause, (backing.flush disk).1 ≠ .error (.cannotFlush path cause)) :
    ∃ flushed after, backing.flush disk = (.ok (), flushed, after) ∧
      flushed.Represents after { shelf with durable := shelf.live } := by
  obtain ⟨live, durable⟩ := represents
  cases durable with
  | @memory store accepts kept =>
    have flushes : store.flush =
        (.ok (), { store with durable := store.live, flushes := store.flushes + 1 }) := by
      rw [MemoryStore.flush, accepts]
      rfl
    exact ⟨.memory { store with durable := store.live, flushes := store.flushes + 1 }, disk,
      by rw [Backing.flush, flushes], live, .memory accepts live⟩
  | @file store _ _ read encoded kept =>
    cases written : store.flush disk.takeMishap.2 disk.takeMishap.1 with
    | mk outcome after =>
      have flushes : (Backing.file store).flush disk = (outcome, .file store, after) := by
        simp only [Backing.flush, written]
      cases outcome with
      | ok value =>
        obtain ⟨directory, name, ends, filled⟩ := PropertyFile.flush_ok written
        obtain ⟨rendered, -⟩ := PropertyText.toList_read_render store.table
        exact ⟨_, after, flushes, live,
          .file (ends.fileContent_eq filled) (Bytes.text?_ofText _) (rendered.trans live)⟩
      | error cause =>
        unfold PropertyFile.flush at written
        split at written
        · cases written
        · cases written
          rw [flushes] at goes
          exact absurd rfl (goes _ _)

theorem restart (represents : backing.Represents disk shelf) :
    ∃ reopened, backing.restart disk = (.ok reopened, disk) ∧
      reopened.Represents disk { shelf with live := shelf.durable } := by
  obtain ⟨live, durable⟩ := represents
  cases durable with
  | memory accepts kept => exact ⟨_, rfl, kept, .memory accepts kept⟩
  | @file store content text read encoded kept =>
    have opened := PropertyFile.openAt_of_fileContent read encoded
    exact ⟨.file { store with table := PropertyText.parse text }, by rw [Backing.restart, opened],
      kept, .file read encoded kept⟩

/-- A store answers a request as the pair of lists does that it represents, and represents the pair
that the request leaves. -/
theorem perform (represents : backing.Represents disk shelf) (request : StoreRequest)
    (goes : (backing.perform disk request).1.unflushed = false) :
    ∃ left after, backing.perform disk request = ((shelf.perform request).1, left, after) ∧
      left.Represents after (shelf.perform request).2 := by
  obtain ⟨live, durable⟩ := id represents
  cases request with
  | get key =>
    refine ⟨backing, disk, ?_, represents⟩
    rw [Backing.perform, Table.get?_eq_lookup, live]
    rfl
  | contains key =>
    refine ⟨backing, disk, ?_, represents⟩
    rw [Backing.perform, Table.get?_eq_lookup, live]
    rfl
  | entries =>
    refine ⟨backing, disk, ?_, represents⟩
    rw [Backing.perform, live]
    rfl
  | size =>
    refine ⟨backing, disk, ?_, represents⟩
    rw [Backing.perform, Table.size_eq_length, live]
    rfl
  | set key value =>
    have placed := backing.live.toList_insert key value
    rw [live] at placed
    exact ⟨_, disk, rfl, represents.setLive placed⟩
  | remove key =>
    have taken := backing.live.toList_erase key
    have erased := backing.live.erase_eq_isSome key
    rw [live] at taken erased
    refine ⟨_, disk, ?_, represents.setLive taken⟩
    rw [Backing.perform]
    dsimp only
    rw [erased]
    rfl
  | clear => exact ⟨_, disk, rfl, represents.setLive backing.live.toList_clear⟩
  | flush =>
    have unfailing : ∀ path cause, (backing.flush disk).1 ≠ .error (.cannotFlush path cause) := by
      intro path cause failed
      cases flushed : backing.flush disk with
      | mk outcome rest =>
        rw [flushed] at failed
        obtain rfl : outcome = _ := failed
        rw [Backing.perform, flushed] at goes
        cases goes
    obtain ⟨left, after, flushes, holds⟩ := represents.flush unfailing
    refine ⟨left, after, ?_, holds⟩
    rw [Backing.perform, flushes]
    rfl
  | restart =>
    obtain ⟨left, restarts, holds⟩ := represents.restart
    refine ⟨left, disk, ?_, holds⟩
    rw [Backing.perform, restarts]
    rfl

/-! ### Sequences of requests -/

theorem serve (represents : backing.Represents disk shelf) (requests : List StoreRequest)
    (goes : ∀ report ∈ backing.serve requests disk, report.1.unflushed = false) :
    backing.serve requests disk = shelf.serve requests := by
  -- The store, the disk and the pair move on together; the answers are those of the pair.
  induction requests generalizing backing disk shelf with
  | nil => rfl
  | cons request rest ih =>
    have first := goes _ List.mem_cons_self
    obtain ⟨left, after, performs, holds⟩ := represents.perform request first
    have runs : backing.serve (request :: rest) disk =
        ((shelf.perform request).1, left.live.toList) :: left.serve rest after := by
      rw [Backing.serve, performs]
    rw [runs] at goes ⊢
    rw [holds.live, ih holds fun report member => goes report (List.mem_cons_of_mem _ member)]
    rfl

end Represents

theorem perform_memory (store : MemoryStore) (disk : Disk) (request : StoreRequest) :
    ∃ answer left, (memory store).perform disk request = (answer, memory left, disk) ∧
      answer.unflushed = false := by
  cases request with
  | flush =>
    cases refuses : store.rejecting with
    | true =>
      exact ⟨.failed (.rejected MemoryStore.rejection), store,
        by simp [perform, flush, MemoryStore.flush, refuses], rfl⟩
    | false =>
      exact ⟨.done, { store with durable := store.live, flushes := store.flushes + 1 },
        by simp [perform, flush, MemoryStore.flush, refuses], rfl⟩
  | _ => exact ⟨_, _, rfl, rfl⟩

theorem serve_memory (store : MemoryStore) (disk : Disk) (requests : List StoreRequest) :
    ∀ report ∈ (memory store).serve requests disk, report.1.unflushed = false := by
  induction requests generalizing store with
  | nil => exact nofun
  | cons request rest ih =>
    obtain ⟨answer, left, performs, unfailing⟩ := perform_memory store disk request
    intro report member
    rw [serve, performs] at member
    rcases List.mem_cons.mp member with rfl | later
    · exact unfailing
    · exact ih left report later

end Backing

/-! ### Two stores -/

theorem Disk.openOrCreate_missing {disk after : Disk} {path : Path} {content : Bytes}
    (opened : disk.openOrCreate path = .ok (content, after))
    (missing : ∀ content, disk.fileContent path ≠ .ok content) : content = [] := by
  cases target : disk.fileTarget path with
  | error cause => simp [openOrCreate, target, bind, Except.bind] at opened
  | ok location =>
    obtain ⟨directory, name, ends, rfl, -⟩ := fileTarget_ok target
    simp only [openOrCreate, target, bind, Except.bind, pure, Except.pure] at opened
    split at opened
    · rename_i there
      exact absurd (ends.fileContent_eq there) (missing _)
    · cases opened
      rfl

/-- A store that is opened on a missing file is empty. From then on it and one that starts in memory
give the same answers and show the same entries, request by request, as long as the file system lets
no flush down; restarts need no such condition. -/
theorem stores_interchange {path : Path} {disk made opened : Disk} {content : Bytes}
    (directories : disk.makeAbove path = (.ok (), made))
    (created : made.openOrCreate path = .ok (content, opened))
    (missing : ∀ content, made.fileContent path ≠ .ok content) :
    PropertyFile.openAt path disk = (.ok ({ path }, []), opened) ∧
      ∀ (requests : List StoreRequest) (elsewhere : Disk),
        (∀ report ∈ (Backing.file { path }).serve requests opened, report.1.unflushed = false) →
        (Backing.file { path }).serve requests opened =
          (Backing.memory {}).serve requests elsewhere := by
  obtain rfl := Disk.openOrCreate_missing created missing
  have blank : Bytes.text? [] = some "" := Bytes.text?_ofText ""
  constructor
  · rw [PropertyFile.openAt, directories]
    dsimp only
    rw [created]
    dsimp only
    rw [blank]
    rfl
  · intro requests elsewhere goes
    have read := Disk.fileContent_of_openOrCreate created
    have filed : (Backing.file { path }).Represents opened {} := ⟨rfl, .file read blank rfl⟩
    have remembered : (Backing.memory {}).Represents elsewhere {} := ⟨rfl, .memory rfl rfl⟩
    have unfailing := Backing.serve_memory {} elsewhere requests
    calc (Backing.file { path }).serve requests opened
      _ = ({} : Shelf).serve requests := filed.serve requests goes
      _ = (Backing.memory {}).serve requests elsewhere :=
        (remembered.serve requests unfailing).symm

def roomPath : Path := ⟨["", "room", "contact.dat"]⟩

def room : Disk := { entries := [("room", .directory [])] }

def roomRequests : List StoreRequest :=
  [.set "a" "1", .set "b=" "x\n2", .flush, .remove "a", .contains "a", .restart, .get "a", .size,
    .clear, .flush, .restart, .entries]

theorem requests_of_room_alike :
    PropertyFile.openAt roomPath {} =
        (.ok ({ path := roomPath }, []),
          { entries := [("room", .directory [("contact.dat", .file [])])] }) ∧
      (Backing.file { path := roomPath }).serve roomRequests
          { entries := [("room", .directory [("contact.dat", .file [])])] } =
        (Backing.memory {}).serve roomRequests {} := by
  have directories : ({} : Disk).makeAbove roomPath = (.ok (), room) := rfl
  have created : room.openOrCreate roomPath =
      .ok ([], { entries := [("room", .directory [("contact.dat", .file [])])] }) := rfl
  have missing : ∀ content, room.fileContent roomPath ≠ .ok content := by
    intro content read
    have absent : (room.fileContent roomPath).isOk = false := by decide +kernel
    rw [read] at absent
    cases absent
  obtain ⟨opens, alike⟩ := stores_interchange directories created missing
  exact ⟨opens, alike roomRequests {} (by decide +kernel)⟩

end Reconcile
