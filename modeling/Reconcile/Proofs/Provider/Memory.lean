import Std.Data.String.ToNat
import Reconcile.Proofs.Provider.Laws
import Reconcile.Proofs.Source.Scanning
import Reconcile.Proofs.Source.Silent
import Reconcile.Provider.Memory

/-!
The provider in memory as a map. Its writes are those of a map from keys to content, a key that it
makes up is a free one, and none of its replies asks for a sync to be cancelled.
-/

namespace Reconcile.MemoryProvider

def handedOut (provider : MemoryProvider) : List (Reply String) :=
  provider.items.map fun item => { value := item.1 }

theorem keys_eq (provider : MemoryProvider) :
    (Provider.keys provider).value = .ok provider.handedOut := rfl

theorem scanCancels_eq (provider : MemoryProvider) (previous : List (String × Signature)) :
    SourceM.scanCancels provider provider.handedOut previous = false := by
  have none : ∀ {α : Type} (list : List α), (list.any fun _ => false) = false :=
    fun list => List.any_eq_false.mpr fun _ _ => Bool.false_ne_true
  have handed : provider.handedOut.any Reply.cancels = false := by
    rw [handedOut, List.any_map]
    exact none _
  have signed : ∀ key, ((SourceM.scanAnswers provider).signature key).cancels = false := fun _ => rfl
  have confirmed : ∀ key, ((SourceM.scanAnswers provider).confirmsDeletion key).cancels = false :=
    fun _ => rfl
  rw [SourceM.scanCancels, ChangeScan.cancels, handed]
  simp only [signed, confirmed, Bool.and_false, none]
  rfl

theorem silent : Silent fun _ : MemoryProvider => True where
  keys _ _ := rfl
  handsOut provider replies _ handed reply member := by
    obtain rfl := Except.ok.inj handed
    obtain ⟨item, -, rfl⟩ := List.mem_map.mp member
    rfl
  content _ _ _ := rfl
  signature _ _ _ := rfl
  confirms _ _ _ := rfl
  insert _ _ _ := ⟨rfl, trivial⟩
  update _ _ _ _ := ⟨rfl, trivial⟩
  delete _ _ _ := ⟨rfl, trivial⟩

/-! ### Made up keys -/

theorem localKey_inj {first second : Nat} : localKey first = localKey second ↔ first = second := by
  rw [localKey, localKey, String.append_right_inj, Nat.repr_inj]

theorem taken_of_firstFree {provider : MemoryProvider} (attempts id : Nat)
    (taken : (provider.get? (localKey (provider.firstFree attempts id))).isSome)
    (step : Nat) (bound : step ≤ attempts) : (provider.get? (localKey (id + step))).isSome := by
  induction attempts generalizing id step with
  | zero =>
    obtain rfl := Nat.le_zero.mp bound
    exact taken
  | succ attempts ih =>
    rw [firstFree] at taken
    split at taken
    · rename_i first
      cases step with
      | zero => exact first
      | succ step =>
        have later := ih (id + 1) taken step (Nat.le_of_succ_le_succ bound)
        rwa [Nat.add_assoc, Nat.add_comm 1] at later
    · rename_i free
      exact absurd taken free

def candidates (provider : MemoryProvider) : List String :=
  (List.range (provider.items.length + 1)).map fun step => localKey (provider.lastId + 1 + step)

theorem nodup_candidates (provider : MemoryProvider) : provider.candidates.Nodup := by
  refine List.pairwise_map.mpr (List.nodup_range.imp fun different same => different ?_)
  exact Nat.add_left_cancel (localKey_inj.mp same)

/-- There are more candidates than items, so that a key which is made up is free. -/
theorem get?_nextId (provider : MemoryProvider) : provider.get? (localKey provider.nextId) = none := by
  rw [← Option.not_isSome_iff_eq_none]
  intro taken
  have all : provider.candidates ⊆ provider.items.map Prod.fst := by
    intro key member
    obtain ⟨step, listed, rfl⟩ := List.mem_map.mp member
    have bound := Nat.le_of_lt_succ (List.mem_range.mp listed)
    exact Entries.isSome_lookup.mp (taken_of_firstFree _ _ taken step bound)
  have bound := provider.nodup_candidates.length_le_of_subset all
  rw [candidates, List.length_map, List.length_map, List.length_range] at bound
  exact Nat.not_succ_le_self _ bound

/-! ### Writes -/

structure Wrote (before after : MemoryProvider) (key : String) (content : Option Bytes) : Prop where
  get? : ∀ other, after.get? other = if other = key then content else before.get? other
  unreadable : after.unreadable = before.unreadable
  vetoed : after.vetoed = before.vetoed

variable {provider : MemoryProvider} {key : String} {content : Bytes} {refusal : Refusal}

theorem insert_ok (done : (provider.insert content).1 = .ok key) :
    Wrote provider (provider.insert content).2 key (some content) := by
  unfold insert at *
  split at done
  · cases done
  · rename_i room
    obtain rfl := Except.ok.inj done
    rw [if_neg room]
    refine ⟨fun other => ?_, rfl, rfl⟩
    show (provider.items ++ [(localKey provider.nextId, content)]).lookup other = _
    have free : provider.items.lookup (localKey provider.nextId) = none := provider.get?_nextId
    rw [List.lookup_append, Entries.lookup_cons]
    by_cases same : other = localKey provider.nextId
    · rw [if_pos same, if_pos same, same, free, Option.none_or]
    · rw [if_neg same, if_neg same, List.lookup_nil, Option.or_none]
      rfl

theorem insert_error (failed : (provider.insert content).1 = .error refusal) :
    (provider.insert content).2 = provider := by
  unfold insert at *
  split at failed
  · rw [if_pos ‹_›]
  · cases failed

theorem update_ok (done : (provider.update key content).1 = .ok ()) :
    Wrote provider (provider.update key content).2 key (some content) := by
  unfold update at *
  split at done
  · cases done
  · split at done
    · rw [if_neg ‹_›, if_pos ‹_›]
      exact ⟨fun other => Entries.lookup_place key other content _, rfl, rfl⟩
    · cases done

theorem update_error (failed : (provider.update key content).1 = .error refusal) :
    (provider.update key content).2 = provider := by
  unfold update at *
  split at failed
  · rw [if_pos ‹_›]
  · split at failed
    · cases failed
    · rw [if_neg ‹_›, if_neg ‹_›]

theorem wrote_delete (provider : MemoryProvider) (key : String) :
    Wrote provider (provider.delete key).2 key none :=
  ⟨fun other => Entries.lookup_without key other _, rfl, rfl⟩

theorem delete_error (failed : (provider.delete key).1 = .error refusal) :
    (provider.delete key).2 = provider := by
  unfold delete remove at *
  dsimp only at failed ⊢
  split at failed
  · cases failed
  · rename_i kept
    rw [bne_iff_ne, Decidable.not_not] at kept
    have same : Entries.without key provider.items = provider.items :=
      List.filter_sublist.eq_of_length kept
    rw [same]

theorem Wrote.present {before after : MemoryProvider} {key : String} {content : Bytes}
    (wrote : Wrote before after key (some content)) (other : String) :
    (after.get? other).isSome ↔ other = key ∨ (before.get? other).isSome := by
  rw [wrote.get?]
  split
  · simp [*]
  · simp [*]

theorem Wrote.absent {before after : MemoryProvider} {key : String} (wrote : Wrote before after key none)
    (other : String) : (after.get? other).isSome ↔ other ≠ key ∧ (before.get? other).isSome := by
  rw [wrote.get?]
  split
  · simp [*]
  · simp [*]

theorem actsAsMap : ActsAsMap fun (provider : MemoryProvider) key => (provider.get? key).isSome where
  keys provider replies handed key := by
    obtain rfl := Except.ok.inj handed
    rw [List.map_map]
    exact Entries.isSome_lookup
  insert_ok _ _ _ done := (insert_ok done).present
  insert_error provider content _ refused other := by
    show ((provider.insert content).2.get? other).isSome ↔ _
    rw [insert_error refused]
  update_ok _ _ _ done := (update_ok done).present
  update_error provider key content _ refused other := by
    show ((provider.update key content).2.get? other).isSome ↔ _
    rw [update_error refused]
  delete_ok provider key _ := (wrote_delete provider key).absent
  delete_error provider key _ refused other := by
    show ((provider.delete key).2.get? other).isSome ↔ _
    rw [delete_error refused]

theorem refusesWhole : RefusesWhole MemoryProvider where
  insert _ _ _ := insert_error
  update _ _ _ _ := update_error
  delete _ _ _ := delete_error

end Reconcile.MemoryProvider
