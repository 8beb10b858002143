import Reconcile.Proofs.Store.Mishap

/-!
Durable entries: those that would be left of a cache if nothing but its store outlived the process.
Changes of the cache do not touch them, a commit makes them the live ones, and a restart reads nothing
else. A commit that fails leaves them as they were, unless it was struck late: then they are the live
ones, as if it had gone well.
-/

namespace Reconcile

theorem Disk.fileContent_of_openOrCreate {disk after : Disk} {path : Path} {content : Bytes}
    (opened : disk.openOrCreate path = .ok (content, after)) :
    after.fileContent path = .ok content := by
  cases target : disk.fileTarget path with
  | error cause => simp [openOrCreate, target, bind, Except.bind] at opened
  | ok location =>
    obtain ⟨directory, name, ends, rfl, file⟩ := fileTarget_ok target
    cases there : disk.node? (directory ++ [name]) with
    | none =>
      simp only [openOrCreate, target, there, bind, Except.bind, pure, Except.pure, Except.ok.injEq,
        Prod.mk.injEq] at opened
      obtain ⟨rfl, rfl⟩ := opened
      have reached := ends.sustained (sameDirectories_set file []).sustains
      exact reached.fileContent_eq (node?_set_self ends.held name (.file []))
    | some node =>
      cases node with
      | directory entries => simp [holdsDirectory, there, Node.isDirectory] at file
      | file old =>
        simp only [openOrCreate, target, there, bind, Except.bind, pure, Except.pure,
          Except.ok.injEq, Prod.mk.injEq] at opened
        obtain ⟨rfl, rfl⟩ := opened
        exact ends.fileContent_eq there

namespace PropertyFile

/-- The table in the file of a path, which is empty if there is no text to read. -/
def saved (path : Path) (disk : Disk) : Table :=
  match disk.fileContent path with
  | .ok content => (content.text?.map PropertyText.parse).getD Table.empty
  | .error _ => Table.empty

theorem saved_of_spares {path : Path} {disk after : Disk} (spared : Disk.Spares path disk after) :
    saved path after = saved path disk := by
  simp only [saved]
  cases read : after.fileContent path with
  | ok content => rw [(spared content).mp read]
  | error cause =>
    cases before : disk.fileContent path with
    | error error => rfl
    | ok content =>
      rw [(spared content).mpr before] at read
      cases read

theorem saved_of_fileContent {store : PropertyFile} {disk : Disk}
    (read : disk.fileContent store.path = .ok store.content) :
    (saved store.path disk).toList = store.table.toList := by
  simp only [saved, read, content, Bytes.text?_ofText, Option.map_some, Option.getD_some,
    PropertyText.parse]
  exact (PropertyText.toList_read_render store.table).1

theorem saved_of_openAt {path : Path} {disk after : Disk} {store : PropertyFile}
    {malformed : List Nat} (opened : openAt path disk = (.ok (store, malformed), after)) :
    store.path = path ∧ saved path after = store.table := by
  rw [openAt] at opened
  split at opened
  · cases opened
  · split at opened
    · cases opened
    · rename_i reads
      split at opened
      · cases opened
      · rename_i text
        cases opened
        refine ⟨rfl, ?_⟩
        simp only [saved, Disk.fileContent_of_openOrCreate reads, text]
        rfl

end PropertyFile

namespace SignatureCache

/-- The entries of a cache that its store holds for good. -/
def durable (cache : SignatureCache) (disk : Disk) : List (String × Signature) :=
  let table :=
    match cache.backing with
    | .memory store => store.durable
    | .file store => PropertyFile.saved store.path disk
  table.toList.map fun entry => (entry.1, ⟨entry.2⟩)

variable {cache committed reopened : SignatureCache} {disk after : Disk}

theorem nodup_durable (cache : SignatureCache) (disk : Disk) :
    ((cache.durable disk).map Prod.fst).Nodup := by
  rw [durable, List.map_map]
  exact Table.nodup_keys _

theorem durable_update (cache : SignatureCache) (change : Table → Table) (disk : Disk) :
    (cache.update change).durable disk = cache.durable disk := by
  obtain ⟨ownership, backing⟩ := cache
  cases backing <;> rfl

theorem update_update (cache : SignatureCache) (first second : Table → Table) :
    (cache.update first).update second = cache.update (second ∘ first) := by
  obtain ⟨ownership, backing⟩ := cache
  cases backing <;> rfl

theorem update_id (cache : SignatureCache) : cache.update id = cache := by
  obtain ⟨ownership, backing⟩ := cache
  cases backing <;> rfl

theorem commit_update (cache : SignatureCache) (first second : Table → Table) (disk : Disk) :
    ((cache.update first).commit disk).1 = ((cache.update second).commit disk).1 := by
  obtain ⟨ownership, backing⟩ := cache
  cases backing with
  | memory store =>
    simp only [commit, update, Backing.setLive, Backing.flush, MemoryStore.flush]
    cases store.rejecting <;> rfl
  | file store =>
    have path : { store with table := first store.table }.path =
        { store with table := second store.table }.path := rfl
    exact PropertyFile.flush_outcome path disk.takeMishap.2 disk.takeMishap.1

/-- The next commit of a cache gets through to the wait for the directory, and is struck there. -/
def StruckLate (cache : SignatureCache) (disk : Disk) : Prop :=
  match cache.backing with
  | .memory _ => False
  | .file store => store.StruckLate disk.takeMishap.2 disk.takeMishap.1

theorem flush_of_commit {ownership : Ownership} {store : PropertyFile}
    {outcome : Except StoreError Unit}
    (made : commit ⟨ownership, .file store⟩ disk = (outcome, committed, after)) :
    store.flush disk.takeMishap.2 disk.takeMishap.1 = (outcome, after) ∧
      committed = ⟨ownership, .file store⟩ := by
  simp only [commit, Backing.flush, Prod.mk.injEq] at made
  exact ⟨Prod.ext made.1 made.2.2, made.2.1.symm⟩

theorem durable_of_commit (made : cache.commit disk = (.ok (), committed, after)) :
    committed.durable after = cache.snapshot := by
  obtain ⟨ownership, backing⟩ := cache
  cases backing with
  | memory store =>
    simp only [commit, Backing.flush, MemoryStore.flush] at made
    split at made
    · cases made
    · cases made
      rfl
  | file store =>
    obtain ⟨flushed, rfl⟩ := flush_of_commit made
    obtain ⟨directory, name, ends, filled⟩ := PropertyFile.flush_ok flushed
    exact congrArg (List.map _) (PropertyFile.saved_of_fileContent (ends.fileContent_eq filled))

/-- A commit that is struck late has failed, and its entries are durable all the same. -/
theorem durable_of_struckLate {outcome : Except StoreError Unit} (late : cache.StruckLate disk)
    (made : cache.commit disk = (outcome, committed, after)) :
    committed.durable after = cache.snapshot := by
  obtain ⟨ownership, backing⟩ := cache
  cases backing with
  | memory store => cases late
  | file store =>
    obtain ⟨flushed, rfl⟩ := flush_of_commit made
    exact congrArg (List.map _)
      (PropertyFile.saved_of_fileContent (PropertyFile.content_of_struckLate late flushed))

theorem durable_of_refused {cause : StoreError} (early : ¬ cache.StruckLate disk)
    (refused : cache.commit disk = (.error cause, committed, after)) :
    committed.durable after = cache.durable disk := by
  obtain rfl := commit_error refused
  obtain ⟨ownership, backing⟩ := committed
  cases backing with
  | memory store => rfl
  | file store =>
    obtain ⟨flushed, -⟩ := flush_of_commit refused
    have spared := PropertyFile.saved_of_spares (PropertyFile.spares_of_not_struckLate early flushed)
    simp only [durable, spared]
    rfl

/-- Whatever comes of a commit, the durable entries are those from before it or the live ones. -/
theorem durable_after_commit {outcome : Except StoreError Unit}
    (made : cache.commit disk = (outcome, committed, after)) :
    committed.durable after = cache.durable disk ∨ committed.durable after = cache.snapshot := by
  cases outcome with
  | ok value => exact .inr (durable_of_commit made)
  | error cause =>
    rcases Classical.em (cache.StruckLate disk) with late | early
    · exact .inr (durable_of_struckLate late made)
    · exact .inl (durable_of_refused early made)

theorem snapshot_restart (opened : cache.restart disk = (.ok reopened, after)) :
    reopened.snapshot = cache.durable after := by
  obtain ⟨ownership, backing⟩ := cache
  cases backing with
  | memory store =>
    cases opened
    rfl
  | file store =>
    cases found : PropertyFile.openAt store.path disk with
    | mk outcome left =>
      simp only [restart, Backing.restart, found] at opened
      cases outcome with
      | error cause => cases opened
      | ok read =>
        obtain ⟨store, malformed⟩ := read
        cases opened
        obtain ⟨-, same⟩ := PropertyFile.saved_of_openAt found
        simp only [durable, same]
        rfl

end SignatureCache

end Reconcile
