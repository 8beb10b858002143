import Reconcile.Proofs.Source.Frame

/-!
Scans of a source. A sync that is begun and scans for changes finds the partition of the keys that
the provider hands out against the entries of the cache, unless a reply on the way asks for the
sync to be cancelled.
-/

namespace Reconcile

variable {P α : Type}

def Station.withCache (station : Station P) (cache : SignatureCache) : Station P :=
  { station with source := { station.source with cache := .ok cache } }

namespace SourceM

/-! ### Steps on a calm source -/

theorem source_eq (station : Station P) : source station = .ok station.source station := rfl

theorem isStopped_eq (station : Station P) :
    isStopped station = .ok (station.host.isRaised station.source.flag) station := rfl

theorem poll_of_calm {station : Station P} (calm : station.Calm) : poll station = .ok () station := by
  rw [poll, bind_of_ok (isStopped_eq _), show station.host.isRaised _ = false from calm]
  rfl

theorem poll_of_stopped {station : Station P} (stopped : ¬ station.Calm) :
    poll station = .error .cancelled station := by
  rw [Station.Calm, Bool.not_eq_false] at stopped
  rw [poll, bind_of_ok (isStopped_eq _), stopped]
  rfl

theorem hear_eq (reply : Reply α) (station : Station P) :
    hear reply station = .ok reply.value { station with
      host := if reply.cancels then station.host.raise station.source.flag else station.host } := by
  rw [hear]
  cases reply.cancels <;> rfl

theorem quiet_of_calm {reply : Reply α} {station : Station P}
    (calm : (leaves (hear reply) station).Calm) : reply.cancels = false := by
  cases cancels : reply.cancels with
  | false => rfl
  | true =>
    rw [leaves, hear_eq, cancels] at calm
    have raised := FlagBoard.isRaised_raise station.host.flags station.source.flag station.source.flag
    rw [decide_eq_true rfl, Bool.or_true] at raised
    exact absurd (calm.symm.trans raised) Bool.false_ne_true

theorem expect_ok {value : α} (station : Station P) :
    expect (.ok value) station = .ok value station := rfl

theorem expect_error (refusal : Refusal) (station : Station P) :
    expect (.error refusal : Except Refusal α) station = .error (.provider refusal) station := rfl

theorem requireRunning_ok {station : Station P} (begun : station.source.report.standing ≠ .resting)
    (operation : String) : requireRunning operation station = .ok () station := by
  rw [requireRunning, bind_of_ok (source_eq _), if_neg begun]
  rfl

theorem requireRunning_resting {station : Station P}
    (resting : station.source.report.standing = .resting) (operation : String) :
    requireRunning operation station =
      .error (.invalidTransition Standing.resting.name operation) station := by
  rw [requireRunning, bind_of_ok (source_eq _), if_pos resting]
  rfl

theorem cache_ok {station : Station P} {cache : SignatureCache}
    (cached : station.source.cache = .ok cache) : SourceM.cache station = .ok cache station := by
  rw [SourceM.cache, bind_of_ok (source_eq _), cached]
  rfl

theorem cache_missing {station : Station P} {cause : StoreError}
    (missing : station.source.cache = .error cause) : SourceM.cache station =
      .error (Source.missingCache station.source.config cause) station := by
  rw [SourceM.cache, bind_of_ok (source_eq _), missing]
  rfl

theorem setCache_eq (cache : SignatureCache) (station : Station P) :
    setCache cache station = .ok () (station.withCache cache) := rfl

theorem updateCache_ok (station : Station P) {cache : SignatureCache}
    (cached : station.source.cache = .ok cache) (change : SignatureCache → SignatureCache) :
    updateCache change station = .ok () (station.withCache (change cache)) := by
  rw [updateCache, bind_of_ok (cache_ok cached), setCache_eq]

theorem updateCache_missing (station : Station P) {cause : StoreError}
    (missing : station.source.cache = .error cause) (change : SignatureCache → SignatureCache) :
    updateCache change station =
      .error (Source.missingCache station.source.config cause) station := by
  rw [updateCache, bind_of_error (cache_missing missing)]

/-! ### Scans -/

variable [Provider P]

/-- What a provider answers to a scan. An unreadable item has the empty signature. -/
def scanAnswers (provider : P) : ScanAnswers where
  signature key := (Provider.signature provider key).map fun
    | .ok signature => signature
    | .error _ => .empty
  confirmsDeletion := Provider.confirmsDeletion provider

def scanCancels (provider : P) (replies : List (Reply String))
    (previous : List (String × Signature)) : Bool :=
  (Provider.keys provider).cancels ||
    ChangeScan.cancels (scanAnswers provider) replies previous

theorem isRaised_raiseIf (cancels : Bool) (host : Host) (flag : StopFlag) :
    (if cancels then host.raise flag else host).isRaised flag = (host.isRaised flag || cancels) := by
  cases cancels
  · exact (Bool.or_false _).symm
  · show (host.flags.raise flag).isRaised flag = (host.flags.isRaised flag || true)
    rw [FlagBoard.isRaised_raise, decide_eq_true rfl]

theorem gives_scanContext (source : Source P) (probing : Bool) :
    (scanContext source probing).Gives (scanAnswers source.provider) where
  signature key host := by
    simp only [scanContext, scanAnswers, Reply.map]
    cases (Provider.signature source.provider key).value <;> rfl
  confirms _ _ := rfl
  handOut_stops reply host := by
    have raised := isRaised_raiseIf reply.cancels host source.flag
    simp only [scanContext]
    split <;> exact raised
  repeated_stops _ _ := rfl
  signature_stops key host := by
    have raised := isRaised_raiseIf (Provider.signature source.provider key).cancels host source.flag
    simp only [scanContext, scanAnswers, Reply.map]
    split <;> exact raised
  confirms_stops key host := isRaised_raiseIf _ host source.flag

def scanResult (station : Station P) :
    Option ChangeSet × Host → EStateM.Result SyncFailure (Station P) ChangeSet
  | (some changes, host) => .ok changes { station with host }
  | (none, host) => .error .cancelled { station with host }

theorem scan_ran (station : Station P) {cache : SignatureCache} {replies : List (Reply String)}
    (cached : station.source.cache = .ok cache)
    (enumerated : (Provider.keys station.source.provider).value = .ok replies) :
    scan station = scanResult station (ChangeScan.run (scanContext station.source false) replies
      cache.snapshot (if (Provider.keys station.source.provider).cancels then
        station.host.raise station.source.flag else station.host)) := by
  rw [scan, bind_of_ok (cache_ok cached), bind_of_ok (source_eq _), bind_of_ok (hear_eq _ _),
    enumerated, bind_of_ok (expect_ok _), bind_of_ok (source_eq _), bind_of_ok (get_eq _)]
  dsimp only
  generalize ChangeScan.run (scanContext station.source false) replies cache.snapshot _ = ran
  obtain ⟨found, left⟩ := ran
  cases found <;> rfl

omit [Provider P] in
theorem leaves_scanResult (station : Station P) (found : Option ChangeSet × Host)
    {operation : SourceM P ChangeSet} (ran : operation station = scanResult station found) :
    leaves operation station = { station with host := found.2 } := by
  obtain ⟨changes, host⟩ := found
  rw [leaves, ran]
  cases changes <;> rfl

/-- A scan ends calm exactly when it began calm and no reply cancels; then it finds the partition
of the keys. Only the host is written. -/
theorem scan_eq (station : Station P) {cache : SignatureCache} {replies : List (Reply String)}
    (cached : station.source.cache = .ok cache)
    (enumerated : (Provider.keys station.source.provider).value = .ok replies) :
    ((leaves scan station).Calm ↔
      station.Calm ∧ scanCancels station.source.provider replies cache.snapshot = false) ∧
    ((leaves scan station).Calm → ∃ host, scan station =
      .ok (ChangeScan.partition (scanAnswers station.source.provider) replies cache.snapshot)
        { station with host }) := by
  have ran := scan_ran station cached enumerated
  have heard := isRaised_raiseIf (Provider.keys station.source.provider).cancels station.host
    station.source.flag
  generalize (if (Provider.keys station.source.provider).cancels then
    station.host.raise station.source.flag else station.host) = host at heard ran
  obtain ⟨ends, finds⟩ := ChangeScan.run_eq (gives_scanContext station.source false)
    cache.nodup_snapshot replies host
  have left_eq := leaves_scanResult station _ ran
  cases scanned : ChangeScan.run (scanContext station.source false) replies cache.snapshot host with
  | mk found left =>
    rw [scanned] at ends finds ran left_eq
    have calm_iff : (leaves scan station).Calm ↔
        (scanContext station.source false).isStopped left = false := by rw [left_eq]; rfl
    refine ⟨?_, fun calm => ⟨left, ?_⟩⟩
    · have began : (scanContext station.source false).isStopped host = _ := heard
      rw [calm_iff, ends, began, Bool.or_assoc, Bool.or_eq_false_iff]
      rfl
    · obtain rfl : found = some _ := finds (calm_iff.mp calm)
      exact ran

/-- A scan that succeeds finds the partition of the keys, also when a late reply of it cancels. -/
theorem gives_scan (station : Station P) {cache : SignatureCache} {replies : List (Reply String)}
    (cached : station.source.cache = .ok cache)
    (enumerated : (Provider.keys station.source.provider).value = .ok replies) :
    Gives Station.Calm scan station fun changes _ =>
      changes =
        ChangeScan.partition (scanAnswers station.source.provider) replies cache.snapshot := by
  have ran := scan_ran station cached enumerated
  cases scanned : ChangeScan.run (scanContext station.source false) replies cache.snapshot
    (if (Provider.keys station.source.provider).cancels then
      station.host.raise station.source.flag else station.host) with
  | mk found left =>
    rw [scanned] at ran
    cases found with
    | some changes =>
      exact .of_ok ran (ChangeScan.run_of_some (gives_scanContext station.source false)
        cache.nodup_snapshot replies scanned)
    | none =>
      refine Ends.of_error ran fun calm => ?_
      obtain ⟨host, succeeded⟩ := (scan_eq station cached enumerated).2 (leaves_of_error ran ▸ calm)
      rw [ran] at succeeded
      cases succeeded

omit [Provider P] in
theorem streaming_of_found {source : Source P} {changes : ChangeSet}
    (found : source.changes? = some changes) :
    ∃ cursors, source.streaming = .incremental changes cursors := by
  rw [Source.changes?] at found
  split at found
  · rename_i cursors streaming
    obtain rfl := Option.some.inj found
    exact ⟨cursors, streaming⟩
  · cases found

theorem startEnumeration_found {station : Station P} {changes : ChangeSet}
    (found : station.source.changes? = some changes) :
    ∃ error, startEnumeration station = .error error station := by
  obtain ⟨cursors, streaming⟩ := streaming_of_found found
  by_cases resting : station.source.report.standing = .resting
  · exact ⟨_, bind_of_error (requireRunning_resting resting _) _⟩
  · rw [startEnumeration, bind_of_ok (requireRunning_ok resting _), bind_of_ok (source_eq _), streaming]
    exact ⟨_, rfl⟩

/-- An idle sync scans, and keeps what the scan found with every cursor at its start. -/
theorem scanOnce_eq {station : Station P} (begun : station.source.report.standing ≠ .resting)
    (idle : station.source.streaming = .idle) :
    scanOnce station = (scan >>= fun changes => setStreaming
      (.incremental changes ⟨changes.added, changes.updated, changes.deleted⟩)) station := by
  rw [scanOnce, bind_of_ok (requireRunning_ok begun _), bind_of_ok (source_eq _), idle]

theorem scanOnce_idle {station : Station P} (begun : station.source.report.standing ≠ .resting)
    (idle : station.source.streaming = .idle) {changes : ChangeSet} {host : Host}
    (scanned : scan station = .ok changes { station with host }) :
    scanOnce station = .ok () { station with
      source := { station.source with
        streaming := .incremental changes ⟨changes.added, changes.updated, changes.deleted⟩ }
      host } := by
  rw [scanOnce_eq begun idle, bind_of_ok scanned]
  rfl

/-! ### The beginning of a sync -/

end SourceM

/-- A source and its host when a sync is about to begin: the report is blank, nothing streams, and
a flag of the source's own is a fresh one. -/
def Station.opened (station : Station P) (mode : SyncMode) : Station P :=
  let fresh := station.host.freshFlag
  { source := { station.source with
      report := Source.blankReport station.source.config
      streaming := .idle
      mode
      flag := if station.source.flagShared then station.source.flag else fresh.1 }
    host := if station.source.flagShared then station.host else fresh.2 }

def Station.begun (station : Station P) (mode : SyncMode) : Station P :=
  let opened := station.opened mode
  { opened with source := { opened.source with
      report := { Source.blankReport station.source.config with standing := .running } } }

def Station.uncached (station : Station P) (mode : SyncMode) (cause : StoreError) : Station P :=
  let opened := station.opened mode
  { source := { opened.source with
      report := (Source.blankReport station.source.config).recordFault
        { code := StatusCode.failed
          message := (Source.missingCache station.source.config cause).message
          kind := .noCache } }
    host := (opened.host.note .fault).note .cannotStart }

theorem Station.calm_begun {station : Station P} (calm : station.source.flagShared = true → station.Calm)
    (mode : SyncMode) : (station.begun mode).Calm := by
  cases shared : station.source.flagShared with
  | true =>
    have down := calm shared
    simpa [Calm, begun, opened, shared] using down
  | false =>
    have fresh : station.host.freshFlag.2.isRaised station.host.freshFlag.1 = false :=
      FlagBoard.isRaised_fresh station.host.flags
    simpa [Calm, begun, opened, shared] using fresh

namespace SourceM

variable [Provider P]

/-- A sync that is to begin on a source with a cache and no open sync wipes the local data if it
is to refresh them from the server, and then runs. -/
theorem start_eq {station : Station P} {cache : SignatureCache}
    (cached : station.source.cache = .ok cache) (closed : station.source.report.standing ≠ .running)
    (mode : SyncMode) :
    start mode station =
      ((if mode = .refreshFromServer then wipe else pure ()) >>= fun _ =>
        modifyReport fun report => { report with standing := .running } : SourceM P Unit)
        (station.opened mode) := by
  obtain ⟨⟨config, provider, _, report, flag, shared, previous, streaming⟩, host⟩ := station
  subst cached
  rw [start, bind_of_ok (source_eq _), if_neg closed]
  cases shared
  · cases mode <;> rfl
  · cases mode <;> rfl

theorem start_running {station : Station P} (running : station.source.report.standing = .running)
    (mode : SyncMode) :
    start mode station =
      .error (.invalidTransition Standing.running.name "begin_sync") station := by
  rw [start, bind_of_ok (source_eq _), if_pos running]
  rfl

theorem start_uncached {station : Station P} {cause : StoreError}
    (missing : station.source.cache = .error cause)
    (closed : station.source.report.standing ≠ .running) (mode : SyncMode) :
    start mode station =
      .error (Source.missingCache station.source.config cause) (station.uncached mode cause) := by
  obtain ⟨⟨config, provider, _, report, flag, shared, previous, streaming⟩, host⟩ := station
  subst missing
  rw [start, bind_of_ok (source_eq _), if_neg closed]
  cases shared
  · rfl
  · rfl

theorem start_ok {station : Station P} {cache : SignatureCache}
    (cached : station.source.cache = .ok cache) (closed : station.source.report.standing ≠ .running)
    {mode : SyncMode} (keeping : mode ≠ .refreshFromServer) :
    start mode station = .ok () (station.begun mode) := by
  rw [start_eq cached closed, if_neg keeping]
  rfl

def findChanges (mode : SyncMode) : SourceM P (Option ChangeSet) := do
  start mode
  scanOnce
  return (← source).changes?

def foundChanges (mode : SyncMode) (station : Station P) : Option ChangeSet :=
  match findChanges mode station with
  | .ok found _ => found
  | .error .. => none

/-- The next sync finds the partition of the keys against the entries of the cache. -/
theorem foundChanges_eq (station : Station P) {cache : SignatureCache} {replies : List (Reply String)}
    (cached : station.source.cache = .ok cache) (closed : station.source.report.standing ≠ .running)
    (lowered : station.source.flagShared = true → station.Calm)
    (enumerated : (Provider.keys station.source.provider).value = .ok replies)
    (quiet : scanCancels station.source.provider replies cache.snapshot = false)
    {mode : SyncMode} (keeping : mode ≠ .refreshFromServer) :
    foundChanges mode station =
      some (ChangeScan.partition (scanAnswers station.source.provider) replies cache.snapshot) := by
  have scanning := scan_eq (station.begun mode) cached enumerated
  obtain ⟨host, scanned⟩ := scanning.2 (scanning.1.mpr ⟨station.calm_begun lowered mode, quiet⟩)
  have active : (station.begun mode).source.report.standing ≠ .resting := by
    intro resting
    cases resting
  have found := scanOnce_idle active rfl scanned
  rw [foundChanges, findChanges, bind_of_ok (start_ok cached closed keeping), bind_of_ok found]
  rfl

end SourceM

end Reconcile
