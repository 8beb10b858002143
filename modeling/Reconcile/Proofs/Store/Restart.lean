import Reconcile.Proofs.Store.Flush
import Reconcile.Proofs.Store.RoundTrip
import Reconcile.Store.Cache

/-!
Restarts. A store that is opened again holds what the last flush made durable: `restart_commit`
says that a cache which was committed comes back with its entries, in their order.
-/

namespace Reconcile

namespace PropertyFile

theorem flush_unstruck {store : PropertyFile} {disk after : Disk} {mishap : Option Mishap}
    (flushed : store.flush disk mishap = (.ok (), after)) : store.flush disk = (.ok (), after) := by
  unfold flush at flushed ⊢
  split at flushed
  · rename_i ran
    cases flushed
    rw [DiskAction.runAll_ok ran]
  · cases flushed

theorem flush_ok {store : PropertyFile} {disk after : Disk} {mishap : Option Mishap}
    (flushed : store.flush disk mishap = (.ok (), after)) :
    ∃ directory name, Disk.Ends after store.path directory name ∧
      after.node? (directory ++ [name]) = some (.file store.content) := by
  have went := store.flushes disk
  rw [flush_unstruck flushed] at went
  cases went with
  | saved _ _ _ ends holds => exact ⟨_, _, ends, holds⟩

/-- What the store at a path opens with when its file holds the given bytes. -/
def opened (path : Path) (content : Bytes) : Except StoreError (PropertyFile × List Nat) :=
  match content.text? with
  | none => .error (.cannotOpen path .notText)
  | some text =>
    .ok ({ path, table := PropertyText.parse text }, (PropertyText.read text).malformed)

theorem openAt_of_file {path : Path} {disk : Disk} {content : Bytes}
    (read : disk.fileContent path = .ok content) : openAt path disk = (opened path content, disk) := by
  obtain ⟨directory, name, ends, there⟩ := Disk.fileContent_ok read
  have file := Disk.not_holdsDirectory_of_file there
  have reads : disk.openOrCreate path = .ok (content, disk) := by
    simp [Disk.openOrCreate, ends.fileTarget_eq file, there, bind, Except.bind, pure, Except.pure]
  rw [openAt, Disk.makeAbove_of_ends ends]
  simp only [reads, opened, PropertyText.parse]
  cases content.text? <;> rfl

theorem openAt_of_fileContent {path : Path} {disk : Disk} {content : Bytes} {text : String}
    (read : disk.fileContent path = .ok content) (encoded : content.text? = some text) :
    openAt path disk =
      (.ok ({ path, table := PropertyText.parse text }, (PropertyText.read text).malformed), disk) := by
  rw [openAt_of_file read, opened, encoded]

theorem openAt_flush {store : PropertyFile} {disk after : Disk} {mishap : Option Mishap}
    (flushed : store.flush disk mishap = (.ok (), after)) :
    ∃ reopened, openAt store.path after = (.ok (reopened, []), after) ∧
      reopened.path = store.path ∧ reopened.table.toList = store.table.toList := by
  obtain ⟨directory, name, ends, filled⟩ := flush_ok flushed
  obtain ⟨entries, clean⟩ := PropertyText.toList_read_render store.table
  have opened := openAt_of_fileContent (ends.fileContent_eq filled) (Bytes.text?_ofText _)
  rw [clean] at opened
  exact ⟨_, opened, rfl, entries⟩

end PropertyFile

namespace Backing

def restart (backing : Backing) (disk : Disk) : Except StoreError Backing × Disk :=
  match backing with
  | memory store => (.ok (memory { store with live := store.durable }), disk)
  | file store =>
    match PropertyFile.openAt store.path disk with
    | (.ok (store, _), disk) => (.ok (file store), disk)
    | (.error error, disk) => (.error error, disk)

theorem restart_flush {backing flushed : Backing} {disk after : Disk}
    (made : backing.flush disk = (.ok (), flushed, after)) :
    flushed.live = backing.live ∧ ∃ reopened, flushed.restart after = (.ok reopened, after) ∧
      reopened.live.toList = backing.live.toList := by
  cases backing with
  | memory store =>
    simp only [flush, MemoryStore.flush] at made
    split at made
    · cases made
    · cases made
      exact ⟨rfl, _, rfl, rfl⟩
  | file store =>
    cases written : store.flush disk.takeMishap.2 disk.takeMishap.1 with
    | mk outcome left =>
      simp only [flush, written, Prod.mk.injEq] at made
      obtain ⟨rfl, rfl, rfl⟩ := made
      obtain ⟨reopened, opened, _, entries⟩ := PropertyFile.openAt_flush written
      refine ⟨rfl, file reopened, ?_, entries⟩
      rw [restart, opened]

theorem flush_error {backing flushed : Backing} {disk after : Disk} {error : StoreError}
    (made : backing.flush disk = (.error error, flushed, after)) : flushed = backing := by
  cases backing with
  | memory store =>
    simp only [flush, MemoryStore.flush] at made
    split at made
    · cases made
      rfl
    · cases made
  | file store =>
    simp only [flush, Prod.mk.injEq] at made
    exact made.2.1.symm

end Backing

namespace SignatureCache

def restart (cache : SignatureCache) (disk : Disk) : Except StoreError SignatureCache × Disk :=
  match cache.backing.restart disk with
  | (.ok backing, disk) => (.ok { cache with backing }, disk)
  | (.error error, disk) => (.error error, disk)

/-- A commit that succeeds keeps the live entries, and a restart finds them again. -/
theorem restart_commit {cache committed : SignatureCache} {disk after : Disk}
    (made : cache.commit disk = (.ok (), committed, after)) :
    committed.snapshot = cache.snapshot ∧
      ∃ reopened, committed.restart after = (.ok reopened, after) ∧
        reopened.snapshot = cache.snapshot := by
  cases flushed : cache.backing.flush disk with
  | mk outcome left =>
    obtain ⟨backing, disk⟩ := left
    simp only [commit, flushed, Prod.mk.injEq] at made
    obtain ⟨rfl, rfl, rfl⟩ := made
    obtain ⟨live, reopened, opened, entries⟩ := Backing.restart_flush flushed
    refine ⟨?_, { cache with backing := reopened }, ?_, ?_⟩
    · rw [snapshot, table, live]
      rfl
    · rw [restart, opened]
    · rw [snapshot, table, entries]
      rfl

theorem commit_error {cache committed : SignatureCache} {disk after : Disk} {error : StoreError}
    (made : cache.commit disk = (.error error, committed, after)) : committed = cache := by
  cases flushed : cache.backing.flush disk with
  | mk outcome left =>
    obtain ⟨backing, disk⟩ := left
    simp only [commit, flushed, Prod.mk.injEq] at made
    obtain ⟨rfl, rfl, rfl⟩ := made
    rw [Backing.flush_error flushed]

end SignatureCache

end Reconcile
