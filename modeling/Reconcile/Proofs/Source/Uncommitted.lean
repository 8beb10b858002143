import Reconcile.Provider.Memory
import Reconcile.Proofs.Source.Commit

/-!
Syncs that were not made durable. The live cache of a source keeps what such a sync did to it, so
that the next sync of the same source finds the changes against those entries, and not against the
durable ones.
-/

namespace Reconcile

variable {P : Type} [Provider P]

namespace SourceM

theorem wipe_refused (station : Station P) {after : Station P} {cache : SignatureCache} {name : String}
    {cause : StoreError} (cached : station.source.cache = .ok cache)
    (failed : wipe station = .error (.commitFailed name cause) after) :
    after.source.cache = .ok cache.clear ∧ after.source.report.standing = .failed := by
  cases made : cache.clear.commit station.host.disk with
  | mk outcome rest =>
    obtain ⟨committed, disk⟩ := rest
    cases outcome with
    | ok _ =>
      rw [wipe_of_commit cached made] at failed
      cases deleted : (Provider.deleteAll station.source.provider).1.value with
      | ok _ => rw [deleted] at failed; cases failed
      | error refusal => rw [deleted] at failed; cases failed
    | error cause =>
      obtain ⟨left, refused, kept, reported, _⟩ := wipe_of_refusal cached made
      rw [refused] at failed
      cases failed
      exact ⟨kept, by rw [reported]; rfl⟩

theorem start_refused {station after : Station P} {name : String} {cause : StoreError}
    (failed : start .refreshFromServer station = .error (.commitFailed name cause) after) :
    ∃ live, after.source.cache = .ok live ∧ live.snapshot = [] ∧
      after.source.report.standing ≠ .running := by
  by_cases running : station.source.report.standing = .running
  · rw [start_running running] at failed
    cases failed
  · cases cached : station.source.cache with
    | error cause =>
      rw [start_uncached cached running .refreshFromServer] at failed
      cases failed
    | ok cache =>
      rw [start_eq cached running, if_pos rfl] at failed
      rcases bind_error failed with wiped | ⟨_, _, _, ran⟩
      · obtain ⟨kept, standing⟩ := wipe_refused (station.opened _) cached wiped
        exact ⟨_, kept, cache.snapshot_clear, fun open_ => nomatch standing.symm.trans open_⟩
      · cases ran

/-- How a source is left by a sync that was not made durable, with the entries of its cache. -/
inductive LeftBehind (before after : Station P) : List (String × Signature) → Prop
  /-- The sync ended; its entries are the ones that it made. -/
  | ended {error : SyncFailure} {cache : SignatureCache} (failed : finish before = .error error after)
      (uncommitted : Uncommitted error) (cached : before.source.cache = .ok cache) :
      LeftBehind before after cache.snapshot
  /-- The sync was to refresh the local data, and did not begin. -/
  | refused {name : String} {cause : StoreError}
      (failed : start .refreshFromServer before = .error (.commitFailed name cause) after) :
      LeftBehind before after []

theorem LeftBehind.cached {before after : Station P} {entries : List (String × Signature)}
    (left : LeftBehind before after entries) :
    ∃ live, after.source.cache = .ok live ∧ live.snapshot = entries ∧
      after.source.report.standing ≠ .running := by
  cases left with
  | ended failed uncommitted cached =>
    obtain ⟨kept, closed⟩ := finish_uncommitted failed uncommitted
    exact ⟨_, kept.trans cached, rfl, closed⟩
  | refused failed => exact start_refused failed

/-- The next incremental sync of the same source finds the changes against the entries that were
left behind. A source that is opened over the durable entries finds the same change set exactly
when nothing was left behind, that is, when the two are the same; and it has the same keys to send
exactly when the two agree in what the scan asks of them. -/
theorem changes_after_uncommitted {before after : Station P} {entries : List (String × Signature)}
    (left : LeftBehind before after entries) (provider : P) (host : Host)
    (lowered : after.source.flagShared = true → host.isRaised after.source.flag = false)
    {replies : List (Reply String)} (enumerated : (Provider.keys provider).value = .ok replies)
    (quiet : scanCancels provider replies entries = false) {mode : SyncMode}
    (keeping : mode ≠ .refreshFromServer) :
    let found := ChangeScan.partition (scanAnswers provider) replies
    foundChanges mode { source := { after.source with provider }, host } = some (found entries) ∧
    ∃ live, after.source.cache = .ok live ∧ ∀ durable disk,
      live.restart host.disk = (.ok durable, disk) →
      scanCancels provider replies durable.snapshot = false →
      foundChanges mode (Source.make after.source.config provider (.ok durable) host) =
        some (found durable.snapshot) ∧
      (found entries = found durable.snapshot ↔ entries = durable.snapshot) ∧
      (ChangeScan.SendAlike (found entries) (found durable.snapshot) ↔
        ChangeScan.Agree (scanAnswers provider) replies entries durable.snapshot) := by
  obtain ⟨live, cached, held, closed⟩ := left.cached
  subst held
  have next := foundChanges_eq { source := { after.source with provider }, host }
    cached closed lowered enumerated quiet keeping
  refine ⟨next, live, cached, ?_⟩
  intro durable disk opened still
  have anew := foundChanges_eq
    (Source.make after.source.config provider (.ok durable) host) rfl
    (by intro running; cases running) (by intro shared; cases shared) enumerated still keeping
  refine ⟨anew, ?_, ChangeScan.sendAlike_iff_agree⟩
  constructor
  · intro same
    exact congrArg ChangeSet.previous same
  · intro same
    rw [same]

/-! ### A sync that is stopped after its item was answered -/

def lonely : Station MemoryProvider :=
  Source.make { name := "contact" } { items := [("a", [])] } (.ok { backing := .memory {} }) {}

/-- A sync that has its new item answered with success, and is stopped then. -/
def stopAfterVerdict : SourceM MemoryProvider Unit := do
  start .twoWay
  discard (first (.bucket .added))
  takeVerdict .add { id := "a", code := StatusCode.ok }
  let flag := (← source).flag
  modifyHost fun host => host.raise flag

/-- The cache as the stopped sync leaves it: the item is known, but not to the durable copy. -/
def answeredCache : SignatureCache :=
  { backing := .memory { live := Table.ofList [("a", (Signature.of []).text)] } }

theorem cached_stopAfterVerdict : (leaves stopAfterVerdict lonely).source.cache = .ok answeredCache := by
  have held : (leaves stopAfterVerdict lonely).source.cache.toOption = some answeredCache := by
    decide +kernel
  cases cached : (leaves stopAfterVerdict lonely).source.cache with
  | error cause => rw [cached] at held; cases held
  | ok cache => rw [cached] at held; rw [Option.some.inj held]

theorem provider_stopAfterVerdict :
    (leaves stopAfterVerdict lonely).source.provider = { items := [("a", [])] } := by
  decide +kernel

theorem changes_after_stop :
    let before := leaves stopAfterVerdict lonely
    let after := settled (unstreamed before)
    LeftBehind before after answeredCache.snapshot ∧
      foundChanges .twoWay after =
        some (ChangeScan.partition (scanAnswers after.source.provider) [{ value := "a" }]
          answeredCache.snapshot) := by
  have stopped : ¬ (leaves stopAfterVerdict lonely).Calm := by decide +kernel
  have left := LeftBehind.ended (finish_stopped stopped) .cancelled cached_stopAfterVerdict
  refine ⟨left, (changes_after_uncommitted left _ _ ?_ ?_ ?_ ?_).1⟩
  · decide +kernel
  · exact congrArg (fun provider => (Provider.keys provider).value) provider_stopAfterVerdict
  · decide +kernel
  · decide

/-- After the stop the same source no longer finds the item, which a source over the durable
entries still finds to be new. -/
theorem stopped_item_lost :
    let before := leaves stopAfterVerdict lonely
    let after := settled (unstreamed before)
    finish before = .error .cancelled after ∧
      (foundChanges .twoWay after).map ChangeSet.added = some [] ∧
      answeredCache.restart after.host.disk = (.ok { backing := .memory {} }, after.host.disk) ∧
      (foundChanges .twoWay (Source.make after.source.config after.source.provider
        (.ok { backing := .memory {} }) after.host)).map ChangeSet.added = some ["a"] := by
  have stopped : ¬ (leaves stopAfterVerdict lonely).Calm := by decide +kernel
  exact ⟨finish_stopped stopped, by decide +kernel, rfl, by decide +kernel⟩

end SourceM

end Reconcile
