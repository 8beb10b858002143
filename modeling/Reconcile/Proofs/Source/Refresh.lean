import Reconcile.Proofs.Source.Stopped

/-!
The beginning of a refresh. It empties the cache for good before it deletes the local items, so that
no durable entry is left by then; where the empty cache cannot be made durable, it deletes nothing.
-/

namespace Reconcile.SourceM

variable {P : Type} [Provider P] {station opened : Station P} {cache after : SignatureCache}
  {disk : Disk} {mode : SyncMode}

theorem cached_of_start (begins : start mode station = .ok () opened) :
    station.source.report.standing ≠ .running ∧ ∃ cache, station.source.cache = .ok cache := by
  by_cases running : station.source.report.standing = .running
  · rw [start_running running] at begins
    cases begins
  · refine ⟨running, ?_⟩
    cases cached : station.source.cache with
    | ok cache => exact ⟨cache, rfl⟩
    | error cause =>
      rw [start_uncached cached running] at begins
      cases begins

/-- The rest of the beginning of a refresh, once there is no durable entry. -/
def deleteItems : SourceM P Unit := do
  expect (← write Provider.deleteAll)
  modifyReport fun report => { report with standing := .running }

theorem deleteItems_eq (station : Station P) : deleteItems station =
    match (Provider.deleteAll station.source.provider).1.value with
    | .error refusal => .error (.provider refusal)
        (station.written (Provider.deleteAll station.source.provider))
    | .ok _ => .ok () ((station.written (Provider.deleteAll station.source.provider)).reporting
        fun report => { report with standing := .running }) := by
  rw [deleteItems, bind_of_ok (write_eq _ station)]
  cases (Provider.deleteAll station.source.provider).1.value <;> rfl

/-- How the beginning of a refresh comes to delete the items: on the source as it was, but without
any entry, live or durable. -/
structure Deletes (station emptied : Station P) : Prop where
  provider : emptied.source.provider = station.source.provider
  cleared : ∃ cache, emptied.source.cache = .ok cache ∧ cache.snapshot = [] ∧
    cache.durable emptied.host.disk = []
  begins : start .refreshFromServer station = deleteItems emptied

theorem start_of_commit (cached : station.source.cache = .ok cache)
    (closed : station.source.report.standing ≠ .running)
    (made : cache.clear.commit station.host.disk = (.ok (), after, disk)) :
    Deletes station (committed (station.opened .refreshFromServer) after disk) := by
  have held : (station.opened .refreshFromServer).source.cache = .ok cache := cached
  refine ⟨rfl, ⟨after, rfl, ?_, ?_⟩, ?_⟩
  · exact (SignatureCache.restart_commit made).1.trans cache.snapshot_clear
  · exact (SignatureCache.durable_of_commit made).trans cache.snapshot_clear
  · rw [← (station.frozen_opened .refreshFromServer).disk] at made
    have wiped := wipe_of_commit held made
    rw [start_eq cached closed, if_pos rfl, deleteItems_eq]
    change wipe _ = expect (Provider.deleteAll station.source.provider).1.value _ at wiped
    change _ = match (Provider.deleteAll station.source.provider).1.value with
      | .error _ => _
      | .ok _ => _
    cases deleted : (Provider.deleteAll station.source.provider).1.value with
    | error refusal =>
      rw [deleted, expect_error] at wiped
      exact bind_of_error wiped _
    | ok _ =>
      rw [deleted, expect_ok] at wiped
      exact bind_of_ok wiped _

theorem start_of_refusal (cached : station.source.cache = .ok cache)
    (closed : station.source.report.standing ≠ .running) {cause : StoreError}
    (made : cache.clear.commit station.host.disk = (.error cause, after, disk)) :
    ∃ left, start .refreshFromServer station =
        .error (.commitFailed station.source.config.name cause) left ∧
      left.source.provider = station.source.provider ∧ left.source.cache = .ok cache.clear ∧
      left.host.disk = disk := by
  have held : (station.opened .refreshFromServer).source.cache = .ok cache := cached
  rw [← (station.frozen_opened .refreshFromServer).disk] at made
  obtain ⟨left, refused, kept, -, provider, saved⟩ := wipe_of_refusal held made
  rw [start_eq cached closed, if_pos rfl]
  exact ⟨left, bind_of_error refused _, provider, kept, saved⟩

theorem start_refreshes (cached : station.source.cache = .ok cache)
    (begins : start .refreshFromServer station = .ok () opened) :
    ∃ after disk, cache.clear.commit station.host.disk = (.ok (), after, disk) ∧
      Deletes station (committed (station.opened .refreshFromServer) after disk) ∧
      opened = ((committed (station.opened .refreshFromServer) after disk).written
        (Provider.deleteAll station.source.provider)).reporting
          fun report => { report with standing := .running } := by
  have closed := (cached_of_start begins).1
  cases made : cache.clear.commit station.host.disk with
  | mk outcome rest =>
    obtain ⟨after, disk⟩ := rest
    cases outcome with
    | error cause =>
      obtain ⟨left, refused, -⟩ := start_of_refusal cached closed made
      cases refused.symm.trans begins
    | ok _ =>
      have deletes := start_of_commit cached closed made
      refine ⟨after, disk, rfl, deletes, ?_⟩
      rw [deletes.begins, deleteItems_eq] at begins
      split at begins
      · cases begins
      · exact (EStateM.Result.ok.inj begins).2.symm

/-- A sync that begins runs on a blank report, and writes at most the provider, the cache and the
disk before. -/
theorem within_start (begins : start mode station = .ok () opened) :
    Within [.provider, .cache, .disk] (station.begun mode) opened ∧
      ∃ cache, opened.source.cache = .ok cache := by
  obtain ⟨closed, cache, cached⟩ := cached_of_start begins
  by_cases refreshes : mode = .refreshFromServer
  · subst refreshes
    obtain ⟨after, disk, -, -, rfl⟩ := start_refreshes cached begins
    generalize Provider.deleteAll station.source.provider = deleted
    have heard := Station.within_heard { (committed (station.begun .refreshFromServer) after disk) with
      source := { (station.begun .refreshFromServer).source with
        cache := .ok after, provider := deleted.2 } } deleted.1.cancels
    exact ⟨⟨heard.config, heard.flag, heard.flagShared, heard.mode, fun kept => by simp at kept,
      fun kept => by simp at kept, fun _ => rfl, fun _ => rfl, fun kept => by simp at kept,
      heard.raised⟩, after, rfl⟩
  · rw [start_ok cached closed refreshes] at begins
    obtain ⟨-, rfl⟩ := EStateM.Result.ok.inj begins
    exact ⟨.refl _, cache, cached⟩

end Reconcile.SourceM
