import Reconcile.Proofs.Source.Elementary
import Reconcile.Proofs.Store.Durable

/-!
What stays unsaved. An open sync changes the live entries of its cache and nothing else of it, so that
nothing is made durable on the way, and whether its end can commit was settled when it began.
-/

namespace Reconcile

variable {P : Type}

/-- Nothing was made durable between two states of a source: at most the entries of its cache were
changed. -/
structure Unsaved (before after : Station P) : Prop where
  disk : after.host.disk = before.host.disk
  updated : ∀ cache, before.source.cache = .ok cache →
    ∃ change, after.source.cache = .ok (cache.update change)

namespace Unsaved

variable {before between after other : Station P} {cache : SignatureCache}

theorem of_within {parts : List Part} (within : Within parts before after) (disk : .disk ∉ parts)
    (cache : .cache ∉ parts) : Unsaved before after where
  disk := within.disk disk
  updated held cached := by
    refine ⟨id, ?_⟩
    rw [held.update_id, within.cache cache]
    exact cached

theorem trans (first : Unsaved before between) (second : Unsaved between after) :
    Unsaved before after where
  disk := second.disk.trans first.disk
  updated cache cached := by
    obtain ⟨change, held⟩ := first.updated cache cached
    obtain ⟨further, kept⟩ := second.updated _ held
    exact ⟨further ∘ change, kept.trans (congrArg _ (cache.update_update change further))⟩

theorem elementary : Elementary (Unsaved (P := P)) where
  refl station := of_within (Within.refl station : Within [] _ _) List.not_mem_nil List.not_mem_nil
  trans := trans
  aside within := of_within within (by simp) (by simp)
  updated {station cache} cached change := by
    refine ⟨rfl, fun held same => ⟨change, ?_⟩⟩
    rw [cached] at same
    cases same
    rfl
  recorded station side command verdict := by
    have records : Stays (P := P) [.report] (SourceM.record side command verdict) :=
      SourceM.stays_record (by simp) _ _ _
    exact of_within (records.within (SourceM.record_eq _ _ _ _)) (by simp) (by simp)
  failed station error := by
    have records : Stays (P := P) [.report] (SourceM.recordFault error) :=
      SourceM.stays_recordFault (by simp) error
    exact of_within (records.within (SourceM.recordFault_eq error station)) (by simp) (by simp)

theorem durable (unsaved : Unsaved before after) (cached : before.source.cache = .ok cache) :
    ∃ live, after.source.cache = .ok live ∧ ∀ disk, live.durable disk = cache.durable disk := by
  obtain ⟨change, held⟩ := unsaved.updated cache cached
  exact ⟨_, held, cache.durable_update change⟩

/-- Two sources that went different ways from one, and saved nothing, can both commit or fail to do
so in the same way. -/
theorem commit_eq (first : Unsaved before after) (second : Unsaved before other)
    (cached : before.source.cache = .ok cache) {one two : SignatureCache}
    (here : after.source.cache = .ok one) (there : other.source.cache = .ok two) :
    (one.commit after.host.disk).1 = (two.commit other.host.disk).1 := by
  obtain ⟨change, held⟩ := first.updated cache cached
  obtain ⟨further, kept⟩ := second.updated cache cached
  rw [held] at here
  rw [kept] at there
  cases here
  cases there
  rw [first.disk, second.disk]
  exact cache.commit_update change further before.host.disk

end Unsaved

end Reconcile
