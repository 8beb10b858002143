import Reconcile.Content
import Reconcile.Store.PropertyFile

/-!
The signature cache of a source: the signature of every item as of its last confirmed sync, over a
property file or a store in memory. Changes show at once and become durable with a commit. The
store in memory keeps the live table and the copy of it that the last flush made, so that a change
can be told from a committed change.
-/

namespace Reconcile

structure MemoryStore where
  live : Table := Table.empty
  durable : Table := Table.empty
  rejecting : Bool := false
  flushes : Nat := 0
  deriving DecidableEq, Inhabited

namespace MemoryStore

def ofList (entries : List (String × String)) : MemoryStore :=
  { live := Table.ofList entries, durable := Table.ofList entries }

def rejection : String := "in-memory store set to reject"

def flush (store : MemoryStore) : Except StoreError Unit × MemoryStore :=
  if store.rejecting then (.error (.rejected rejection), store)
  else (.ok (), { store with durable := store.live, flushes := store.flushes + 1 })

end MemoryStore

inductive Ownership where
  | owned
  | shared
  deriving DecidableEq, Inhabited

def Ownership.name : Ownership → String
  | owned => "Owned"
  | shared => "Shared"

inductive Backing where
  | memory (store : MemoryStore)
  | file (store : PropertyFile)
  deriving DecidableEq, Inhabited

namespace Backing

def live : Backing → Table
  | memory store => store.live
  | file store => store.table

def setLive (table : Table) : Backing → Backing
  | memory store => memory { store with live := table }
  | file store => file { store with table }

def flush (backing : Backing) (disk : Disk) : Except StoreError Unit × Backing × Disk :=
  match backing with
  | memory store =>
    let (outcome, store) := store.flush
    (outcome, memory store, disk)
  | file store =>
    let (mishap, disk) := disk.takeMishap
    let (outcome, disk) := store.flush disk mishap
    (outcome, file store, disk)

end Backing

structure SignatureCache where
  ownership : Ownership := .owned
  backing : Backing
  deriving DecidableEq, Inhabited

namespace SignatureCache

def table (cache : SignatureCache) : Table := cache.backing.live

def update (cache : SignatureCache) (change : Table → Table) : SignatureCache :=
  { cache with backing := cache.backing.setLive (change cache.table) }

def get? (cache : SignatureCache) (key : String) : Option Signature :=
  (cache.table.get? key).map Signature.mk

def put (cache : SignatureCache) (key : String) (signature : Signature) : SignatureCache :=
  cache.update fun table => table.insert key signature.text

def remove (cache : SignatureCache) (key : String) : Bool × SignatureCache :=
  ((cache.table.erase key).1, cache.update fun table => (table.erase key).2)

def clear (cache : SignatureCache) : SignatureCache := cache.update Table.clear

def snapshot (cache : SignatureCache) : List (String × Signature) :=
  cache.table.toList.map fun entry => (entry.1, ⟨entry.2⟩)

def size (cache : SignatureCache) : Nat := cache.table.size

def isEmpty (cache : SignatureCache) : Bool := cache.size == 0

def commit (cache : SignatureCache) (disk : Disk) :
    Except StoreError Unit × SignatureCache × Disk :=
  let (outcome, backing, disk) := cache.backing.flush disk
  (outcome, { cache with backing }, disk)

def describe (cache : SignatureCache) : String :=
  "SignatureStore \x7b ownership: " ++ cache.ownership.name ++ ", len: " ++ cache.size.repr ++
    " \x7d"

/-! ### Entries -/

theorem nodup_snapshot (cache : SignatureCache) : (cache.snapshot.map Prod.fst).Nodup := by
  rw [snapshot, List.map_map]
  exact cache.table.nodup_keys

theorem table_update (cache : SignatureCache) (change : Table → Table) :
    (cache.update change).table = change cache.table := by
  unfold update table Backing.live Backing.setLive
  cases cache.backing <;> rfl

theorem get?_eq_lookup (cache : SignatureCache) (key : String) :
    cache.get? key = cache.snapshot.lookup key := by
  rw [get?, Table.get?_eq_lookup]
  exact (Entries.lookup_map Signature.mk key cache.table.toList).symm

theorem snapshot_put (cache : SignatureCache) (key : String) (signature : Signature) :
    (cache.put key signature).snapshot = Entries.place key signature cache.snapshot := by
  rw [snapshot, put, table_update, Table.toList_insert]
  exact Entries.map_place Signature.mk key signature.text cache.table.toList

theorem snapshot_remove (cache : SignatureCache) (key : String) :
    (cache.remove key).2.snapshot = Entries.without key cache.snapshot := by
  rw [snapshot, remove, table_update, Table.toList_erase]
  exact Entries.map_without Signature.mk key cache.table.toList

@[simp] theorem snapshot_clear (cache : SignatureCache) : cache.clear.snapshot = [] := by
  rw [snapshot, clear, table_update, Table.toList_clear]
  rfl

end SignatureCache

end Reconcile
