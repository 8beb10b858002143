import Mathlib.Data.List.Induction
import Mathlib.Data.List.Nodup
import Reconcile.Entries

/-!
Entries that are placed one after the other. Every key stands where it was first placed, with the
value that was placed last.
-/

namespace Reconcile.Entries

variable {α β : Type} [DecidableEq α]

def placeAll (written entries : List (α × β)) : List (α × β) :=
  written.foldl (fun entries entry => place entry.1 entry.2 entries) entries

theorem placeAll_concat (written entries : List (α × β)) (entry : α × β) :
    placeAll (written ++ [entry]) entries = place entry.1 entry.2 (placeAll written entries) := by
  simp [placeAll]

theorem place_eq_set {key : α} {old : β} {entries : List (α × β)}
    (distinct : (entries.map Prod.fst).Nodup) {spot : Nat} (there : entries[spot]? = some (key, old))
    (value : β) : place key value entries = entries.set spot (key, value) := by
  induction entries generalizing spot with
  | nil => simp at there
  | cons entry rest ih =>
    rw [List.map_cons, List.nodup_cons] at distinct
    cases spot with
    | zero =>
      obtain rfl : entry = (key, old) := by simpa using there
      simp [place]
    | succ spot =>
      have later : rest[spot]? = some (key, old) := by simpa using there
      have apart : entry.1 ≠ key := by
        rintro rfl
        exact distinct.1 (List.mem_map.mpr ⟨_, List.mem_of_getElem? later, rfl⟩)
      rw [place, if_neg apart, ih distinct.2 later, List.set_cons_succ]

theorem keys_place (key : α) (value : β) (entries : List (α × β)) :
    (place key value entries).map Prod.fst =
      if key ∈ entries.map Prod.fst then entries.map Prod.fst else entries.map Prod.fst ++ [key] := by
  induction entries with
  | nil => simp [place]
  | cons entry rest ih =>
    by_cases same : entry.1 = key
    · simp [place, same]
    · rw [place, if_neg same, List.map_cons, ih, List.map_cons]
      simp only [List.mem_cons, Ne.symm same, false_or]
      split <;> simp

theorem nodup_place {entries : List (α × β)} (distinct : (entries.map Prod.fst).Nodup) (key : α)
    (value : β) : ((place key value entries).map Prod.fst).Nodup := by
  rw [keys_place]
  split
  · exact distinct
  · rename_i new
    rw [← List.concat_eq_append]
    exact List.Nodup.concat new distinct

theorem nodup_without {entries : List (α × β)} (distinct : (entries.map Prod.fst).Nodup) (key : α) :
    ((without key entries).map Prod.fst).Nodup :=
  distinct.sublist (List.filter_sublist.map _)

theorem getElem?_place {key : α} {entries : List (α × β)} {spot : Nat} {entry : α × β}
    (there : entries[spot]? = some entry) (apart : entry.1 ≠ key) (value : β) :
    (place key value entries)[spot]? = some entry := by
  induction entries generalizing spot with
  | nil => simp at there
  | cons first rest ih =>
    rw [place]
    cases spot with
    | zero =>
      obtain rfl : first = entry := by simpa using there
      rw [if_neg apart]
      rfl
    | succ spot =>
      have later : rest[spot]? = some entry := by simpa using there
      split
      · exact later
      · exact ih later

theorem eraseDups_concat (keys : List α) (key : α) :
    (keys ++ [key]).eraseDups = if key ∈ keys then keys.eraseDups else keys.eraseDups ++ [key] := by
  rw [List.eraseDups_append]
  by_cases known : key ∈ keys
  · simp [List.removeAll, known]
  · simp [List.removeAll, known, List.eraseDups_cons]

theorem keys_placeAll (written : List (α × β)) :
    (placeAll written []).map Prod.fst = (written.map Prod.fst).eraseDups := by
  induction written using List.reverseRecOn with
  | nil => rfl
  | append_singleton written entry ih =>
    rw [placeAll_concat, keys_place, List.map_append, List.map_singleton, eraseDups_concat, ih]
    simp only [List.mem_eraseDups]

theorem lookup_placeAll (written : List (α × β)) (key : α) :
    (placeAll written []).lookup key =
      (written.filter fun entry => entry.1 == key).getLast?.map Prod.snd := by
  induction written using List.reverseRecOn with
  | nil => rfl
  | append_singleton written entry ih =>
    rw [placeAll_concat, lookup_place, List.filter_append, ih]
    by_cases same : key = entry.1
    · simp [same]
    · simp [same, Ne.symm same]

end Reconcile.Entries
