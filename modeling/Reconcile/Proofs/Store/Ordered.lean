import Reconcile.Store.Table

/-!
The table through a history of writes. Whatever was inserted, erased and cleared before, the table
shows the list of entries on which the same writes were made one by one; its index and its slots lead
to each other; and the next number to give out is the count of the keys that were new when they came.
-/

namespace Reconcile

inductive TableWrite where
  | insert (key value : String)
  | erase (key : String)
  | clear
  deriving DecidableEq, Inhabited

namespace TableWrite

def apply (table : Table) : TableWrite → Table
  | insert key value => table.insert key value
  | erase key => (table.erase key).2
  | clear => table.clear

def applyTo (entries : List (String × String)) : TableWrite → List (String × String)
  | insert key value => Entries.place key value entries
  | erase key => Entries.without key entries
  | clear => []

def isFresh (entries : List (String × String)) : TableWrite → Bool
  | insert key _ => (entries.lookup key).isNone
  | erase _ => false
  | clear => false

def applyAllTo (entries : List (String × String)) (writes : List TableWrite) :
    List (String × String) :=
  writes.foldl applyTo entries

/-- How many of some writes bring a key that has no entry by then. -/
def freshCount : List (String × String) → List TableWrite → Nat
  | _, [] => 0
  | entries, write :: rest =>
    (if write.isFresh entries then 1 else 0) + freshCount (write.applyTo entries) rest

end TableWrite

namespace Table

def writeAll (table : Table) (writes : List TableWrite) : Table := writes.foldl TableWrite.apply table

structure Linked (table : Table) : Prop where
  /-- The index leads a key to a number exactly where the slot of the number holds the key. -/
  inverse : ∀ key number, table.index.lookup key = some number ↔
    ∃ value, table.slot? number = some ⟨number, key, value⟩
  /-- No number that the index gives leads to a missing slot. -/
  whole : ∀ key, (table.find? key).isSome = (table.index.lookup key).isSome
  indexed : (table.index.map Prod.fst).Nodup
  ascending : table.slots.Pairwise fun left right => left.number < right.number
  below : ∀ number slot, table.slot? number = some slot → slot.number = number ∧ number < table.nextSlot

variable {table : Table}

theorem slot?_eq_some {number : Nat} {slot : Slot} :
    table.slot? number = some slot ↔ slot ∈ table.slots ∧ slot.number = number := by
  constructor
  · intro found
    have numbered := List.find?_some found
    exact ⟨List.mem_of_find?_eq_some found, by simpa using numbered⟩
  · rintro ⟨used, rfl⟩
    exact slot?_of_mem used

theorem linked (table : Table) : table.Linked where
  inverse key number := by
    rw [lookup_index]
    constructor
    · rintro ⟨slot, used, rfl, rfl⟩
      exact ⟨slot.value, slot?_eq_some.mpr ⟨used, rfl⟩⟩
    · rintro ⟨value, found⟩
      obtain ⟨used, -⟩ := slot?_eq_some.mp found
      exact ⟨_, used, rfl, rfl⟩
  whole key := by
    cases listed : table.index.lookup key with
    | none =>
      rw [find?, listed]
      rfl
    | some number =>
      obtain ⟨slot, used, named, -⟩ := lookup_index.mp listed
      rw [find?_eq_some.mpr ⟨used, named⟩]
      rfl
  indexed := table.index_distinct
  ascending := table.ascending
  below number slot found := by
    obtain ⟨used, rfl⟩ := slot?_eq_some.mp found
    exact ⟨rfl, table.below slot used⟩

/-! ### One write -/

theorem toList_apply (table : Table) (write : TableWrite) :
    (write.apply table).toList = write.applyTo table.toList := by
  cases write with
  | insert key value => exact toList_insert table key value
  | erase key => exact toList_erase table key
  | clear => rfl

/-- A number is given out for a key that has no entry, and for no other one. -/
theorem nextSlot_apply (table : Table) (write : TableWrite) :
    (write.apply table).nextSlot =
      table.nextSlot + if write.isFresh table.toList then 1 else 0 := by
  cases write with
  | insert key value =>
    have known : (table.toList.lookup key).isNone = (table.find? key).isNone := by
      rw [← get?_eq_lookup, get?, Option.isNone_map]
    show (table.insert key value).nextSlot =
      table.nextSlot + if (table.toList.lookup key).isNone then 1 else 0
    rw [known, insert]
    split
    · rename_i slot found
      have held : ¬(table.find? key).isNone := by simp [found]
      rw [if_neg held]
      rfl
    · rename_i missing
      have new : (table.find? key).isNone := by simp [missing]
      rw [if_pos new]
      rfl
  | erase key =>
    show (table.erase key).2.nextSlot = table.nextSlot
    rw [erase]
    split <;> rfl
  | clear => rfl

/-! ### A history of writes -/

theorem toList_writeAll (table : Table) (writes : List TableWrite) :
    (table.writeAll writes).toList = TableWrite.applyAllTo table.toList writes := by
  induction writes generalizing table with
  | nil => rfl
  | cons write rest ih =>
    show ((write.apply table).writeAll rest).toList =
      TableWrite.applyAllTo (write.applyTo table.toList) rest
    rw [ih, toList_apply]

theorem nextSlot_writeAll (table : Table) (writes : List TableWrite) :
    (table.writeAll writes).nextSlot =
      table.nextSlot + TableWrite.freshCount table.toList writes := by
  induction writes generalizing table with
  | nil => rfl
  | cons write rest ih =>
    show ((write.apply table).writeAll rest).nextSlot = _
    rw [ih, toList_apply, nextSlot_apply, TableWrite.freshCount, Nat.add_assoc]

/-- After any writes the table is the list of entries on which the same writes were made: reads find
what a look through the list finds, the size is its length, no key has two entries, and a key is
erased exactly where it has one. Index and slots lead to each other, so that no key is led to a missing
slot; and the next number is above all in use. It is the count of the keys that were new when they
were inserted, so that it fits into a machine word where these do. -/
theorem writes_keep_order (writes : List TableWrite) :
    let table := empty.writeAll writes
    let entries := TableWrite.applyAllTo [] writes
    table.toList = entries ∧ table.keys = entries.map Prod.fst ∧ (entries.map Prod.fst).Nodup ∧
      (∀ key, table.get? key = entries.lookup key) ∧
      table.size = entries.length ∧ table.isEmpty = entries.isEmpty ∧
      (∀ key, (table.erase key).1 = true ↔ key ∈ entries.map Prod.fst) ∧
      table.Linked ∧ table.nextSlot = TableWrite.freshCount [] writes := by
  intro table entries
  have shown : table.toList = entries := toList_writeAll empty writes
  have counted : table.size = entries.length := by rw [size_eq_length, shown]
  refine ⟨shown, ?_, ?_, fun key => ?_, counted, ?_, fun key => ?_, table.linked, ?_⟩
  · rw [← shown, toList, keys, List.map_map]
    rfl
  · rw [← shown]
    exact table.nodup_keys
  · rw [get?_eq_lookup, shown]
  · rw [isEmpty, counted]
    cases entries <;> rfl
  · rw [erase_eq_isSome, shown, Entries.isSome_lookup]
  · exact (nextSlot_writeAll empty writes).trans (Nat.zero_add _)

/-- An erased key that is inserted again comes last. -/
example : (empty.writeAll [.insert "a" "1", .insert "b" "2", .erase "a", .insert "b" "3",
    .insert "a" "1"]).toList = [("b", "3"), ("a", "1")] := by decide

end Table

end Reconcile
