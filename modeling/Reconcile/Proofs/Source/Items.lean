import Reconcile.Proofs.Change.Partition
import Reconcile.Source.Outgoing

/-!
The items of a source. Each key of a stream gives at most one item, and those of a partition are
deletions exactly where the key is no longer handed out.
-/

namespace Reconcile

variable {P : Type} [Provider P]

def readItem (provider : P) (state : Finding) (key : String) : Option OutgoingItem :=
  (Provider.content provider key).value.toOption.map fun content =>
    { key, content := some content, state }

namespace ItemStream

def item? (provider : P) : ItemStream → String → Option OutgoingItem
  | .full, key => readItem provider .full key
  | .bucket .added, key => readItem provider .added key
  | .bucket .updated, key => readItem provider .updated key
  | .bucket .deleted, key => some { key, content := none, state := .deleted }

def bucketItems (provider : P) (changes : ChangeSet) (buckets : List ChangeBucket) :
    List OutgoingItem :=
  buckets.flatMap fun bucket =>
    (bucket.keys changes).filterMap ((ItemStream.bucket bucket).item? provider)

def state : ItemStream → Finding
  | .full => .full
  | .bucket found => found.state

variable {replies : List (Reply String)} {previous : List (String × Signature)} {provider : P}
  {changes : ChangeSet} {item : OutgoingItem}

theorem of_readItem {state : Finding} {key : String} (reads : readItem provider state key = some item) :
    item.key = key ∧ item.state = state := by
  obtain ⟨content, _, rfl⟩ := Option.map_eq_some_iff.mp reads
  exact ⟨rfl, rfl⟩

theorem of_item? {stream : ItemStream} {key : String} (reads : stream.item? provider key = some item) :
    item.key = key ∧ item.state = stream.state := by
  match stream with
  | .full => exact of_readItem reads
  | .bucket .added => exact of_readItem reads
  | .bucket .updated => exact of_readItem reads
  | .bucket .deleted =>
    obtain rfl := Option.some.inj reads
    exact ⟨rfl, rfl⟩

theorem bucket_of_mem {buckets : List ChangeBucket}
    (member : item ∈ bucketItems provider changes buckets) :
    ∃ bucket : ChangeBucket, item.state = bucket.state ∧ item.key ∈ bucket.keys changes := by
  obtain ⟨bucket, _, streamed⟩ := List.mem_flatMap.mp member
  obtain ⟨key, listed, reads⟩ := List.mem_filterMap.mp streamed
  obtain ⟨rfl, state⟩ := of_item? reads
  exact ⟨bucket, state, listed⟩

theorem sent_of_mem (found : ChangeBucket) {key : String} (listed : key ∈ found.keys changes)
    (reads : (ItemStream.bucket found).item? provider key = some item) :
    key ∈ (bucketItems provider changes ChangeBucket.all).map OutgoingItem.key := by
  have every : found ∈ ChangeBucket.all := by cases found <;> decide
  refine List.mem_map.mpr ⟨item, List.mem_flatMap.mpr ⟨found, every, ?_⟩, (of_item? reads).1⟩
  exact List.mem_filterMap.mpr ⟨key, listed, reads⟩

theorem deleted_iff_missing {answers : ScanAnswers}
    (member : item ∈ bucketItems provider (ChangeScan.partition answers replies previous)
      ChangeBucket.all) :
    item.state = .deleted ↔ item.key ∉ ChangeScan.present replies := by
  obtain ⟨bucket, state, listed⟩ := bucket_of_mem member
  rw [state]
  cases bucket with
  | added => simp [ChangeBucket.state, (ChangeScan.mem_added.mp listed).1]
  | updated => simp [ChangeBucket.state, (ChangeScan.mem_updated.mp listed).1]
  | deleted => simp [ChangeBucket.state, (ChangeScan.mem_deleted.mp listed).2.1]

theorem keys_filterMap_sublist (stream : ItemStream) (keys : List String) :
    ((keys.filterMap (stream.item? provider)).map OutgoingItem.key).Sublist keys := by
  induction keys with
  | nil => exact .slnil
  | cons key rest ih =>
    rw [List.filterMap_cons]
    cases reads : stream.item? provider key with
    | none => exact ih.cons key
    | some item =>
      rw [List.map_cons, (of_item? reads).1]
      exact ih.cons_cons key

/-- Each key of a change set gives at most one item, in the order of the buckets. -/
theorem keys_bucketItems_sublist (buckets : List ChangeBucket) :
    ((bucketItems provider changes buckets).map OutgoingItem.key).Sublist
      (buckets.flatMap fun bucket => bucket.keys changes) := by
  induction buckets with
  | nil => exact .slnil
  | cons bucket rest ih =>
    rw [bucketItems, List.flatMap_cons, List.map_append, List.flatMap_cons]
    exact (keys_filterMap_sublist _ _).append ih

theorem nodup_buckets {answers : ScanAnswers} (distinct : (previous.map Prod.fst).Nodup) :
    (ChangeBucket.all.flatMap fun bucket =>
      bucket.keys (ChangeScan.partition answers replies previous)).Nodup := by
  have present : (ChangeScan.present replies).Nodup := ChangeScan.nodup_present
  have missing := ChangeScan.nodup_missing distinct (ChangeScan.present replies)
  simp only [ChangeBucket.all, ChangeBucket.keys, List.flatMap_cons, List.flatMap_nil,
    List.append_nil, List.nodup_append]
  refine ⟨present.filter _, ⟨present.filter _, missing.filter _, ?_⟩, ?_⟩
  · rintro key updated _ deleted rfl
    exact (ChangeScan.mem_deleted.mp deleted).2.1 (ChangeScan.mem_updated.mp updated).1
  · rintro key added _ later rfl
    obtain ⟨listed, unknown⟩ := ChangeScan.mem_added.mp added
    rcases List.mem_append.mp later with updated | deleted
    · obtain ⟨_, _, known, _⟩ := ChangeScan.mem_updated.mp updated
      rw [unknown] at known
      cases known
    · exact (ChangeScan.mem_deleted.mp deleted).2.1 listed

end ItemStream

end Reconcile
