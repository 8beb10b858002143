import Reconcile.Entries

/-!
The insertion-ordered table of texts. Every key holds a numbered slot; a new key takes the next
number, a replaced value stays in the slot of its key, and a freed slot is never used again. The
entries in the order of their slots are the contents of the table, and every operation is one on
that list: `toList_insert`, `toList_erase`, `toList_clear`, `get?_eq_lookup`.
-/

namespace Reconcile

structure Slot where
  number : Nat
  key : String
  value : String
  deriving DecidableEq, Inhabited

/-- A table: the slots in use in ascending order, the slot number of each key, and the next
number to give out. -/
structure Table where
  slots : List Slot := []
  index : List (String × Nat) := []
  nextSlot : Nat := 0
  ascending : slots.Pairwise fun left right => left.number < right.number := by simp
  /-- Every number in use was given out. -/
  below : ∀ slot ∈ slots, slot.number < nextSlot := by simp
  /-- The index lists exactly the slots in use. -/
  indexed : index.Perm (slots.map fun slot => (slot.key, slot.number)) := by simp
  /-- No key holds two slots. -/
  distinct : (slots.map Slot.key).Nodup := by simp
  deriving DecidableEq

instance : Inhabited Table := ⟨{}⟩

namespace Table

def empty : Table := {}

def slot? (table : Table) (number : Nat) : Option Slot :=
  table.slots.find? fun slot => slot.number == number

def find? (table : Table) (key : String) : Option Slot :=
  (table.index.lookup key).bind table.slot?

def get? (table : Table) (key : String) : Option String :=
  (table.find? key).map Slot.value

/-! ### The index and the slots -/

theorem index_distinct (table : Table) : (table.index.map Prod.fst).Nodup := by
  have keys := table.indexed.map Prod.fst
  rw [List.map_map] at keys
  exact keys.nodup_iff.mpr table.distinct

theorem lookup_index {table : Table} {key : String} {number : Nat} :
    table.index.lookup key = some number ↔
      ∃ slot ∈ table.slots, slot.key = key ∧ slot.number = number := by
  rw [Entries.lookup_eq_some table.index_distinct, table.indexed.mem_iff, List.mem_map]
  simp only [Prod.mk.injEq]

theorem eq_of_number {table : Table} {left right : Slot} (first : left ∈ table.slots)
    (second : right ∈ table.slots) (same : left.number = right.number) : left = right := by
  obtain ⟨i, low, rfl⟩ := List.mem_iff_getElem.mp first
  obtain ⟨j, high, rfl⟩ := List.mem_iff_getElem.mp second
  have ascending := List.pairwise_iff_getElem.mp table.ascending
  rcases Nat.lt_trichotomy i j with before | equal | after
  · have := ascending i j low high before
    omega
  · subst equal
    rfl
  · have := ascending j i high low after
    omega

theorem slot?_of_mem {table : Table} {slot : Slot} (used : slot ∈ table.slots) :
    table.slot? slot.number = some slot := by
  cases found : table.slot? slot.number with
  | none => simpa using List.find?_eq_none.mp found slot used
  | some other =>
    have number := List.find?_some found
    rw [eq_of_number (List.mem_of_find?_eq_some found) used (by simpa using number)]

theorem find?_eq_some {table : Table} {key : String} {slot : Slot} :
    table.find? key = some slot ↔ slot ∈ table.slots ∧ slot.key = key := by
  rw [find?, Option.bind_eq_some_iff]
  constructor
  · rintro ⟨number, listed, found⟩
    obtain ⟨other, used, named, rfl⟩ := lookup_index.mp listed
    rw [slot?_of_mem used] at found
    exact Option.some.inj found ▸ ⟨used, named⟩
  · rintro ⟨used, named⟩
    exact ⟨slot.number, lookup_index.mpr ⟨slot, used, named, rfl⟩, slot?_of_mem used⟩

theorem number_eq_iff {table : Table} {left right : Slot} (first : left ∈ table.slots)
    (second : right ∈ table.slots) : left.number = right.number ↔ left.key = right.key := by
  constructor
  · intro number
    rw [eq_of_number first second number]
  · intro key
    have both := find?_eq_some.mpr ⟨first, key⟩
    rw [find?_eq_some.mpr ⟨second, rfl⟩] at both
    rw [Option.some.inj both]

theorem find?_eq_none {table : Table} {key : String} (missing : table.find? key = none) :
    key ∉ table.slots.map Slot.key := by
  rintro member
  obtain ⟨slot, used, named⟩ := List.mem_map.mp member
  rw [find?_eq_some.mpr ⟨used, named⟩] at missing
  cases missing

theorem lookup_index_none {table : Table} {key : String} (missing : table.index.lookup key = none) :
    key ∉ table.slots.map Slot.key :=
  find?_eq_none (by rw [find?, missing, Option.bind_none])

/-! ### Writes -/

def Slot.refill (number : Nat) (value : String) (slot : Slot) : Slot :=
  if slot.number = number then { slot with value } else slot

theorem refill_number (number : Nat) (value : String) (slot : Slot) :
    (Slot.refill number value slot).number = slot.number := by
  rw [Slot.refill]
  split <;> rfl

theorem refill_key (number : Nat) (value : String) (slot : Slot) :
    (Slot.refill number value slot).key = slot.key := by
  rw [Slot.refill]
  split <;> rfl

def refill (table : Table) (number : Nat) (value : String) : Table where
  slots := table.slots.map (Slot.refill number value)
  index := table.index
  nextSlot := table.nextSlot
  ascending := by simpa [List.pairwise_map, refill_number] using table.ascending
  below := by simpa [refill_number] using table.below
  indexed := by simpa [Function.comp_def, refill_number, refill_key] using table.indexed
  distinct := by simpa [Function.comp_def, refill_key] using table.distinct

def append (table : Table) (key value : String) (new : table.find? key = none) : Table where
  slots := table.slots ++ [⟨table.nextSlot, key, value⟩]
  index := (key, table.nextSlot) :: table.index.filter fun entry => entry.1 != key
  nextSlot := table.nextSlot + 1
  ascending := by
    refine List.pairwise_append.mpr ⟨table.ascending, List.pairwise_singleton _ _, ?_⟩
    intro slot used next last
    rw [List.mem_singleton.mp last]
    exact table.below slot used
  below := by
    intro slot member
    rcases List.mem_append.mp member with used | last
    · exact Nat.lt_succ_of_lt (table.below slot used)
    · rw [List.mem_singleton.mp last]
      exact Nat.lt_succ_self _
  indexed := by
    have kept : table.index.filter (fun entry => entry.1 != key) = table.index := by
      refine List.filter_eq_self.mpr fun entry listed => bne_iff_ne.mpr fun same => ?_
      obtain ⟨slot, used, rfl⟩ := List.mem_map.mp (table.indexed.mem_iff.mp listed)
      exact find?_eq_none new (List.mem_map.mpr ⟨slot, used, same⟩)
    rw [kept, List.map_append]
    exact (table.indexed.cons _).trans (List.perm_append_singleton _ _).symm
  distinct := by
    rw [List.map_append, List.nodup_append]
    refine ⟨table.distinct, by simp, ?_⟩
    intro held member fresh last
    rw [List.map_singleton, List.mem_singleton] at last
    subst last
    rintro rfl
    exact find?_eq_none new member

/-- Replaces the value of a key in its slot, or gives a new key the next slot. -/
def insert (table : Table) (key value : String) : Table :=
  match found : table.find? key with
  | some slot => table.refill slot.number value
  | none => table.append key value found

theorem numbers_of_key {table : Table} {key : String} {number : Nat}
    (listed : table.index.lookup key = some number) :
    table.slots.filter (fun slot => slot.number != number) =
      table.slots.filter fun slot => slot.key != key := by
  obtain ⟨slot, used, rfl, rfl⟩ := lookup_index.mp listed
  refine List.filter_congr fun other member => ?_
  rw [Bool.eq_iff_iff, bne_iff_ne, bne_iff_ne]
  exact not_congr (number_eq_iff member used)

def free (table : Table) (key : String) (number : Nat)
    (listed : table.index.lookup key = some number) : Table where
  slots := table.slots.filter fun slot => slot.number != number
  index := table.index.filter fun entry => entry.1 != key
  nextSlot := table.nextSlot
  ascending := table.ascending.filter _
  below slot member := table.below slot (List.mem_filter.mp member).1
  indexed := by
    rw [numbers_of_key listed]
    have kept := table.indexed.filter fun entry => entry.1 != key
    rwa [List.filter_map] at kept
  distinct := table.distinct.sublist (List.filter_sublist.map _)

def erase (table : Table) (key : String) : Bool × Table :=
  match listed : table.index.lookup key with
  | none => (false, table)
  | some number => ((table.slot? number).isSome, table.free key number listed)

def clear (table : Table) : Table := { nextSlot := table.nextSlot }

/-! ### Contents -/

def toList (table : Table) : List (String × String) :=
  table.slots.map fun slot => (slot.key, slot.value)

def keys (table : Table) : List String := table.slots.map Slot.key

def size (table : Table) : Nat := table.index.length

def isEmpty (table : Table) : Bool := table.size == 0

def ofList (entries : List (String × String)) : Table :=
  entries.foldl (fun table entry => table.insert entry.1 entry.2) empty

theorem nodup_keys (table : Table) : (table.toList.map Prod.fst).Nodup := by
  rw [toList, List.map_map]
  exact table.distinct

theorem get?_eq_lookup (table : Table) (key : String) :
    table.get? key = table.toList.lookup key := by
  rw [get?]
  cases found : table.find? key with
  | none =>
    have absent := find?_eq_none found
    symm
    rw [Option.map_none, ← Option.not_isSome_iff_eq_none, Entries.isSome_lookup, toList, List.map_map]
    exact absent
  | some slot =>
    obtain ⟨used, rfl⟩ := find?_eq_some.mp found
    symm
    rw [Option.map_some, Entries.lookup_eq_some table.nodup_keys]
    exact List.mem_map.mpr ⟨slot, used, rfl⟩

theorem size_eq_length (table : Table) : table.size = table.toList.length := by
  have listed := table.indexed.length_eq
  rw [List.length_map] at listed
  rw [size, toList, List.length_map, listed]

theorem erase_eq_isSome (table : Table) (key : String) :
    (table.erase key).1 = (table.toList.lookup key).isSome := by
  rw [← get?_eq_lookup, get?, Option.isSome_map, find?, erase]
  split
  · rename_i missing
    rw [missing]
    rfl
  · rename_i number listed
    show (table.slot? number).isSome = _
    rw [listed]
    rfl

@[simp] theorem toList_clear (table : Table) : table.clear.toList = [] := rfl

theorem toList_refill {table : Table} {slot : Slot} (used : slot ∈ table.slots) (value : String) :
    (table.refill slot.number value).toList = Entries.place slot.key value table.toList := by
  have known : slot.key ∈ table.toList.map Prod.fst := by
    rw [toList, List.map_map]
    exact List.mem_map_of_mem used
  rw [Entries.place_of_mem table.nodup_keys known, toList, toList, refill, List.map_map, List.map_map]
  refine List.map_congr_left fun other member => ?_
  simp only [Function.comp_apply, Slot.refill]
  by_cases same : other.number = slot.number
  · rw [eq_of_number member used same, if_pos rfl, if_pos rfl]
  · rw [if_neg same, if_neg (mt (number_eq_iff member used).mpr same)]

theorem toList_insert (table : Table) (key value : String) :
    (table.insert key value).toList = Entries.place key value table.toList := by
  rw [insert]
  split
  · rename_i slot found
    obtain ⟨used, rfl⟩ := find?_eq_some.mp found
    exact toList_refill used value
  · rename_i missing
    have absent : key ∉ table.toList.map Prod.fst := by
      rw [toList, List.map_map]
      exact find?_eq_none missing
    rw [Entries.place_of_not_mem absent, toList, append, List.map_append]
    rfl

theorem toList_erase (table : Table) (key : String) :
    (table.erase key).2.toList = Entries.without key table.toList := by
  rw [erase]
  split
  · rename_i missing
    symm
    refine List.filter_eq_self.mpr fun entry member => bne_iff_ne.mpr fun same => ?_
    obtain ⟨slot, used, rfl⟩ := List.mem_map.mp member
    exact lookup_index_none missing (List.mem_map.mpr ⟨slot, used, same⟩)
  · rename_i number listed
    show (table.slots.filter fun slot => slot.number != number).map _ = _
    rw [numbers_of_key listed, toList, Entries.without, List.filter_map]
    rfl

theorem toList_ofList {entries : List (String × String)} (distinct : (entries.map Prod.fst).Nodup) :
    (ofList entries).toList = entries := by
  have step : ∀ (later : List (String × String)) (table : Table),
      ((table.toList ++ later).map Prod.fst).Nodup →
      (later.foldl (fun table entry => table.insert entry.1 entry.2) table).toList =
        table.toList ++ later := by
    intro later
    induction later with
    | nil => intro table _; simp
    | cons entry rest ih =>
      intro table distinct
      have absent : entry.1 ∉ table.toList.map Prod.fst := by
        rw [List.map_append, List.nodup_append] at distinct
        exact fun member => distinct.2.2 _ member _ List.mem_cons_self rfl
      have grown : (table.insert entry.1 entry.2).toList = table.toList ++ [entry] := by
        rw [toList_insert, Entries.place_of_not_mem absent]
      rw [List.foldl_cons, ih _ (by rwa [grown, List.append_assoc]), grown, List.append_assoc]
      rfl
  exact step entries empty distinct

end Table

end Reconcile
