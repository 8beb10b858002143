/-!
Lists of entries by key, in the order in which the keys were first seen. A replaced value stays in
the place of the old one. `lookup_place` and `lookup_without` say what the two writes do to a read.
-/

namespace Reconcile.Entries

variable {α β : Type} [DecidableEq α]

/-- Replaces the value of a key in its place, or adds an entry at the end. -/
def place (key : α) (value : β) : List (α × β) → List (α × β)
  | [] => [(key, value)]
  | entry :: rest => if entry.1 = key then (key, value) :: rest else entry :: place key value rest

def without (key : α) (entries : List (α × β)) : List (α × β) :=
  entries.filter fun entry => entry.1 != key

theorem lookup_cons (entry : α × β) (rest : List (α × β)) (key : α) :
    (entry :: rest).lookup key = if key = entry.1 then some entry.2 else rest.lookup key := by
  rw [List.lookup_cons]
  by_cases same : key = entry.1
  · simp [same]
  · rw [beq_false_of_ne same, if_neg same]

theorem lookup_place (key other : α) (value : β) (entries : List (α × β)) :
    (place key value entries).lookup other =
      if other = key then some value else entries.lookup other := by
  induction entries with
  | nil => exact lookup_cons _ _ _
  | cons entry rest ih =>
    rw [place]
    by_cases same : entry.1 = key
    · rw [if_pos same, lookup_cons, lookup_cons, same]
      split <;> rfl
    · rw [if_neg same, lookup_cons, lookup_cons, ih]
      by_cases found : other = entry.1
      · rw [if_pos found, if_neg (found ▸ same), if_pos found]
      · rw [if_neg found, if_neg found]

theorem lookup_without (key other : α) (entries : List (α × β)) :
    (without key entries).lookup other = if other = key then none else entries.lookup other := by
  induction entries with
  | nil => simp [without]
  | cons entry rest ih =>
    rw [without, List.filter_cons, lookup_cons]
    by_cases same : entry.1 = key
    · rw [same, bne_self_eq_false, if_neg Bool.false_ne_true, ← without, ih]
      split <;> rfl
    · rw [bne_iff_ne.mpr same, if_pos rfl, lookup_cons, ← without, ih]
      by_cases found : other = entry.1
      · rw [if_pos found, if_neg (found ▸ same), if_pos found]
      · rw [if_neg found, if_neg found]

theorem isSome_lookup {key : α} {entries : List (α × β)} :
    (entries.lookup key).isSome ↔ key ∈ entries.map Prod.fst := by
  simp [List.lookup_isSome_iff]

theorem lookup_eq_some {key : α} {value : β} {entries : List (α × β)}
    (distinct : (entries.map Prod.fst).Nodup) :
    entries.lookup key = some value ↔ (key, value) ∈ entries := by
  induction entries with
  | nil => simp
  | cons entry rest ih =>
    rw [List.map_cons, List.nodup_cons] at distinct
    rw [lookup_cons, List.mem_cons]
    by_cases same : key = entry.1
    · subst same
      have absent : (entry.1, value) ∉ rest :=
        fun member => distinct.1 (List.mem_map.mpr ⟨_, member, rfl⟩)
      simp [absent, Prod.ext_iff, eq_comm]
    · simp [same, ih distinct.2, Prod.ext_iff]

theorem place_of_not_mem {key : α} {value : β} {entries : List (α × β)}
    (absent : key ∉ entries.map Prod.fst) : place key value entries = entries ++ [(key, value)] := by
  induction entries with
  | nil => rfl
  | cons entry rest ih =>
    simp only [List.map_cons, List.mem_cons, not_or] at absent
    rw [place, if_neg (Ne.symm absent.1), ih absent.2, List.cons_append]

theorem place_of_mem {key : α} {value : β} {entries : List (α × β)}
    (distinct : (entries.map Prod.fst).Nodup) (known : key ∈ entries.map Prod.fst) :
    place key value entries =
      entries.map fun entry => if entry.1 = key then (key, value) else entry := by
  induction entries with
  | nil => cases known
  | cons entry rest ih =>
    rw [List.map_cons, List.nodup_cons] at distinct
    rw [place, List.map_cons]
    by_cases same : entry.1 = key
    · have others : rest.map (fun entry => if entry.1 = key then (key, value) else entry) = rest := by
        refine (List.map_congr_left fun other member => if_neg fun equal => distinct.1 ?_).trans
          (List.map_id rest)
        exact same ▸ equal ▸ List.mem_map_of_mem member
      rw [if_pos same, if_pos same, others]
    · have later := (List.mem_cons.mp known).resolve_left (Ne.symm same)
      rw [if_neg same, if_neg same, ih distinct.2 later]

theorem filter_place (keep : α → Bool) {key : α} (dropped : keep key = false) (value : β)
    (entries : List (α × β)) :
    (place key value entries).filter (fun entry => keep entry.1) =
      entries.filter fun entry => keep entry.1 := by
  induction entries with
  | nil => simp [place, dropped]
  | cons entry rest ih =>
    rw [place]
    by_cases same : entry.1 = key
    · simp [same, dropped]
    · simp [same, List.filter_cons, ih]

theorem nodup_eraseDups (keys : List α) : keys.eraseDups.Nodup := by
  induction length : keys.length using Nat.strongRecOn generalizing keys with
  | ind bound ih =>
    cases keys with
    | nil => exact List.nodup_nil
    | cons key rest =>
      have fewer : (rest.filter fun other => !other == key).length < bound :=
        length ▸ Nat.lt_succ_of_le (List.length_filter_le _ rest)
      rw [List.eraseDups_cons, List.nodup_cons, List.mem_eraseDups]
      exact ⟨by simp, ih _ fewer _ rfl⟩

theorem lookup_map {γ : Type} (f : β → γ) (key : α) (entries : List (α × β)) :
    (entries.map fun entry => (entry.1, f entry.2)).lookup key = (entries.lookup key).map f := by
  induction entries with
  | nil => rfl
  | cons entry rest ih =>
    rw [List.map_cons, lookup_cons, lookup_cons, ih]
    split <;> rfl

theorem map_place {γ : Type} (f : β → γ) (key : α) (value : β) (entries : List (α × β)) :
    (place key value entries).map (fun entry => (entry.1, f entry.2)) =
      place key (f value) (entries.map fun entry => (entry.1, f entry.2)) := by
  induction entries with
  | nil => rfl
  | cons entry rest ih =>
    rw [List.map_cons, place, place]
    by_cases same : entry.1 = key
    · simp [same]
    · simp [same, ih]

theorem map_without {γ : Type} (f : β → γ) (key : α) (entries : List (α × β)) :
    (without key entries).map (fun entry => (entry.1, f entry.2)) =
      without key (entries.map fun entry => (entry.1, f entry.2)) := by
  simp [without, List.filter_map, Function.comp_def]

end Reconcile.Entries
