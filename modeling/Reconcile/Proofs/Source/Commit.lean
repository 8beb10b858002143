import Reconcile.Proofs.Source.Incoming
import Reconcile.Proofs.Store.Durable

/-!
The end of a sync. A sync that is stopped or cannot be committed leaves the cache as it stood; one
that is committed leaves entries which the next sync finds, on the same source or on one that is
opened over them.
-/

namespace Reconcile

variable {P : Type}

namespace SourceM

def committed (station : Station P) (cache : SignatureCache) (disk : Disk) : Station P :=
  { source := { station.source with cache := .ok cache }, host := { station.host with disk } }

theorem commit_eq (station : Station P) (cache : SignatureCache) :
    commit cache station = .ok (cache.commit station.host.disk).1
      (committed station (cache.commit station.host.disk).2.1 (cache.commit station.host.disk).2.2) :=
  rfl

theorem commitOrFail_ok (station : Station P) {cache after : SignatureCache} {disk : Disk}
    (made : cache.commit station.host.disk = (.ok (), after, disk)) :
    commitOrFail cache station = .ok () (committed station after disk) := by
  have ran := commit_eq station cache
  rw [made] at ran
  rw [commitOrFail, bind_of_ok ran]
  rfl

theorem commitOrFail_error (station : Station P) {cache after : SignatureCache} {disk : Disk}
    {cause : StoreError} (made : cache.commit station.host.disk = (.error cause, after, disk)) :
    ∃ left, commitOrFail cache station = .error (.commitFailed station.source.config.name cause) left ∧
      left.source.cache = .ok cache ∧
      left.source.report = station.source.report.recordFault (commitError cause) ∧
      left.host.disk = disk ∧ left.host.flags = station.host.flags ∧
      left.source.flag = station.source.flag := by
  have same := SignatureCache.commit_error made
  subst same
  have ran := commit_eq station after
  rw [made] at ran
  rw [commitOrFail, bind_of_ok ran]
  exact ⟨_, rfl, rfl, rfl, rfl, rfl, rfl⟩

section Wipe

variable [Provider P] {station : Station P} {cache after : SignatureCache} {disk : Disk}

theorem deleteAll_eq (station : Station P) :
    (write Provider.deleteAll >>= expect : SourceM P Unit) station =
      expect (Provider.deleteAll station.source.provider).1.value
        (station.written (Provider.deleteAll station.source.provider)) :=
  bind_of_ok (write_eq _ station) _

theorem wipe_of_commit (cached : station.source.cache = .ok cache)
    (made : cache.clear.commit station.host.disk = (.ok (), after, disk)) :
    wipe station = expect (Provider.deleteAll station.source.provider).1.value
      ((committed station after disk).written (Provider.deleteAll station.source.provider)) := by
  have saved := commitOrFail_ok (station.withCache cache.clear) made
  rw [wipe, bind_of_ok (cache_ok cached), bind_of_ok (setCache_eq _ _), bind_of_ok saved]
  exact deleteAll_eq _

theorem wipe_of_refusal (cached : station.source.cache = .ok cache) {cause : StoreError}
    (made : cache.clear.commit station.host.disk = (.error cause, after, disk)) :
    ∃ left, wipe station = .error (.commitFailed station.source.config.name cause) left ∧
      left.source.cache = .ok cache.clear ∧
      left.source.report = station.source.report.recordFault (commitError cause) ∧
      left.source.provider = station.source.provider ∧ left.host.disk = disk := by
  have same := SignatureCache.commit_error made
  subst same
  have ran := commit_eq (station.withCache cache.clear) cache.clear
  rw [show (station.withCache cache.clear).host.disk = station.host.disk from rfl, made] at ran
  rw [wipe, bind_of_ok (cache_ok cached), bind_of_ok (setCache_eq _ _), commitOrFail,
    bind_of_error (bind_of_ok ran _)]
  exact ⟨_, rfl, rfl, rfl, rfl, rfl⟩

end Wipe

def unstreamed (station : Station P) : Station P :=
  { station with source := { station.source with streaming := .idle } }

def settled (station : Station P) : Station P :=
  { station with source := { station.source with
      report :=
        if station.source.report.standing = .running then
          { station.source.report with standing := .resting }
        else station.source.report } }

theorem standing_settled (station : Station P) :
    (settled station).source.report.standing ≠ .running := by
  simp only [settled]
  split
  · exact fun running => nomatch running
  · assumption

theorem fault_settled (station : Station P) :
    (settled station).source.report.fault = station.source.report.fault := by
  simp only [settled]
  split <;> rfl

theorem source_settled (station : Station P) :
    (settled station).source.report.source = station.source.report.source := by
  simp only [settled]
  split <;> rfl

theorem buckets_settled (station : Station P) :
    (settled station).source.report.buckets = station.source.report.buckets := by
  simp only [settled]
  split <;> rfl

theorem conclude_eq (name : String) (station : Station P) :
    conclude name station = match station.source.report.fault with
      | none => .ok () (settled station)
      | some error => .error (recordedFailure name error) (settled station) := by
  have settles : settle station = .ok () (settled station) := rfl
  rw [conclude, bind_of_ok settles, bind_of_ok (source_eq _), fault_settled]
  cases station.source.report.fault <;> rfl

theorem setStreaming_idle (station : Station P) :
    setStreaming .idle station = .ok () (unstreamed station) := rfl

theorem finish_stopped {station : Station P} (stopped : ¬ station.Calm) :
    finish station = .error .cancelled (settled (unstreamed station)) := by
  rw [Station.Calm, Bool.not_eq_false] at stopped
  have raised : isStopped (unstreamed station) = .ok true (unstreamed station) :=
    (isStopped_eq _).trans (by rw [unstreamed, stopped])
  rw [finish, bind_of_ok (setStreaming_idle _), bind_of_ok raised]
  rfl

def closeCalmly (source : Source P) : SourceM P Unit :=
  match source.cache with
  | .ok cache =>
    if source.report.standing ≠ .resting then
      commitOrFail cache >>= fun _ => conclude source.config.name
    else conclude source.config.name
  | .error _ => conclude source.config.name

theorem finish_calm {station : Station P} (calm : station.Calm) :
    finish station = closeCalmly station.source (unstreamed station) := by
  have down : isStopped (unstreamed station) = .ok false (unstreamed station) :=
    (isStopped_eq _).trans (by rw [unstreamed, show station.host.isRaised _ = false from calm])
  rw [finish, bind_of_ok (setStreaming_idle _), bind_of_ok down]
  clear down
  obtain ⟨⟨config, provider, cache, report, flag, flagShared, mode, streaming⟩, host⟩ := station
  cases cache <;> rfl

section

variable {station : Station P} {cache after : SignatureCache} {disk : Disk}

theorem finish_active (calm : station.Calm) (cached : station.source.cache = .ok cache)
    (active : station.source.report.standing ≠ .resting) :
    finish station =
      (commitOrFail cache >>= fun _ => conclude station.source.config.name) (unstreamed station) := by
  simp only [finish_calm calm, closeCalmly, cached, if_pos active]

theorem finish_of_commit (calm : station.Calm) (cached : station.source.cache = .ok cache)
    (active : station.source.report.standing ≠ .resting)
    (made : cache.commit station.host.disk = (.ok (), after, disk)) :
    finish station = match station.source.report.fault with
      | none => .ok () (settled (committed (unstreamed station) after disk))
      | some error => .error (recordedFailure station.source.config.name error)
          (settled (committed (unstreamed station) after disk)) := by
  have saved := commitOrFail_ok (unstreamed station) made
  rw [finish_active calm cached active, bind_of_ok saved, conclude_eq]
  rfl

theorem finish_of_refusal {cause : StoreError} (calm : station.Calm)
    (cached : station.source.cache = .ok cache)
    (active : station.source.report.standing ≠ .resting)
    (made : cache.commit station.host.disk = (.error cause, after, disk)) :
    ∃ left, finish station = .error (.commitFailed station.source.config.name cause) left ∧
      left.source.cache = .ok cache ∧
      left.source.report = station.source.report.recordFault (commitError cause) ∧
      left.host.disk = disk ∧ left.Calm := by
  obtain ⟨left, failed, kept, reported, saved, flags, flag⟩ :=
    commitOrFail_error (unstreamed station) made
  refine ⟨left, (finish_active calm cached active).trans (bind_of_error failed _), kept, reported,
    saved, ?_⟩
  rw [Station.Calm, Host.isRaised, flags, flag]
  exact calm

/-- What the end of a sync says, with its flag down: how the commit failed, or else the error that
was recorded. -/
def closing (name : String) (saved : Except StoreError Unit) (fault : Option Fault) :
    Except SyncFailure Unit :=
  match saved with
  | .error cause => .error (.commitFailed name cause)
  | .ok _ =>
    match fault with
    | none => .ok ()
    | some error => .error (recordedFailure name error)

theorem finish_closes (calm : station.Calm) (cached : station.source.cache = .ok cache)
    (active : station.source.report.standing ≠ .resting) :
    yields finish station = closing station.source.config.name (cache.commit station.host.disk).1
        station.source.report.fault ∧
      ∃ live, (leaves finish station).source.cache = .ok live ∧ live.snapshot = cache.snapshot ∧
        (leaves finish station).source.report.buckets = station.source.report.buckets := by
  cases made : cache.commit station.host.disk with
  | mk outcome rest =>
    obtain ⟨after, disk⟩ := rest
    cases outcome with
    | error cause =>
      obtain ⟨left, failed, kept, reported, -⟩ := finish_of_refusal calm cached active made
      rw [yields, leaves_of_error failed, failed, reported]
      exact ⟨rfl, cache, kept, rfl, rfl⟩
    | ok _ =>
      have ended := finish_of_commit calm cached active made
      obtain ⟨entries, -⟩ := SignatureCache.restart_commit made
      have buckets := buckets_settled (committed (unstreamed station) after disk)
      rw [yields, leaves, ended]
      cases station.source.report.fault with
      | none => exact ⟨rfl, after, rfl, entries, buckets⟩
      | some error => exact ⟨rfl, after, rfl, entries, buckets⟩

theorem leaves_finish_resting (calm : station.Calm) (cached : station.source.cache = .ok cache)
    (resting : ¬ station.source.report.standing ≠ .resting) :
    leaves finish station = settled (unstreamed station) := by
  have ended : finish station = conclude station.source.config.name (unstreamed station) := by
    simp only [finish_calm calm, closeCalmly, cached, if_neg resting]
  rw [leaves, ended, conclude_eq]
  cases (unstreamed station).source.report.fault <;> rfl

theorem finish_keeps (cached : station.source.cache = .ok cache)
    (active : station.source.report.standing ≠ .resting) :
    ∃ live, (leaves finish station).source.cache = .ok live ∧ live.snapshot = cache.snapshot ∧
      (leaves finish station).source.report.buckets = station.source.report.buckets := by
  by_cases calm : station.Calm
  · exact (finish_closes calm cached active).2
  · rw [leaves_of_error (finish_stopped calm)]
    exact ⟨cache, cached, rfl, buckets_settled (unstreamed station)⟩

theorem snapshot_finish (cached : station.source.cache = .ok cache) :
    ∃ live, (leaves finish station).source.cache = .ok live ∧ live.snapshot = cache.snapshot := by
  by_cases active : station.source.report.standing ≠ .resting
  · obtain ⟨live, kept, same, -⟩ := finish_keeps cached active
    exact ⟨live, kept, same⟩
  · by_cases calm : station.Calm
    · rw [leaves_finish_resting calm cached active]
      exact ⟨cache, cached, rfl⟩
    · rw [leaves_of_error (finish_stopped calm)]
      exact ⟨cache, cached, rfl⟩

theorem finish_flushes (calm : station.Calm) (cached : station.source.cache = .ok cache)
    (active : station.source.report.standing ≠ .resting) :
    ∃ outcome live, cache.commit station.host.disk =
        (outcome, live, (leaves finish station).host.disk) ∧
      (leaves finish station).source.cache = .ok live := by
  cases made : cache.commit station.host.disk with
  | mk outcome rest =>
    obtain ⟨after, disk⟩ := rest
    cases outcome with
    | error cause =>
      obtain ⟨left, failed, kept, -, saved, -⟩ := finish_of_refusal calm cached active made
      obtain rfl := SignatureCache.commit_error made
      rw [leaves_of_error failed]
      exact ⟨.error cause, after, by rw [saved], kept⟩
    | ok _ =>
      have left : leaves finish station = settled (committed (unstreamed station) after disk) := by
        rw [leaves, finish_of_commit calm cached active made]
        cases station.source.report.fault <;> rfl
      rw [left]
      exact ⟨.ok (), after, rfl, rfl⟩

theorem finish_commits (calm : station.Calm) (cached : station.source.cache = .ok cache)
    (active : station.source.report.standing ≠ .resting)
    (saved : ∀ name cause left, finish station ≠ .error (.commitFailed name cause) left) :
    ∃ after, (leaves finish station).source.cache = .ok after ∧
      cache.commit station.host.disk = (.ok (), after, (leaves finish station).host.disk) ∧
      (leaves finish station).source.report.standing ≠ .running := by
  cases made : cache.commit station.host.disk with
  | mk outcome rest =>
    obtain ⟨after, disk⟩ := rest
    cases outcome with
    | error cause =>
      obtain ⟨left, failed, _⟩ := finish_of_refusal calm cached active made
      exact absurd failed (saved _ _ _)
    | ok _ =>
      have ended := finish_of_commit calm cached active made
      have left : leaves finish station = settled (committed (unstreamed station) after disk) := by
        rw [leaves, ended]
        cases station.source.report.fault <;> rfl
      rw [left]
      exact ⟨after, rfl, rfl, standing_settled _⟩

/-- The end of a sync leaves the durable entries as they were, or makes the live ones durable. -/
theorem durable_finish (station : Station P) (cached : station.source.cache = .ok cache) :
    ∃ live, (leaves finish station).source.cache = .ok live ∧
      (live.durable (leaves finish station).host.disk = cache.durable station.host.disk ∨
        station.Calm ∧ live.durable (leaves finish station).host.disk = cache.snapshot) := by
  by_cases calm : station.Calm
  · by_cases active : station.source.report.standing ≠ .resting
    · obtain ⟨outcome, live, made, kept⟩ := finish_flushes calm cached active
      exact ⟨live, kept, (SignatureCache.durable_after_commit made).imp_right fun new => ⟨calm, new⟩⟩
    · rw [leaves_finish_resting calm cached active]
      exact ⟨cache, cached, .inl rfl⟩
  · rw [leaves_of_error (finish_stopped calm)]
    exact ⟨cache, cached, .inl rfl⟩

/-- How the end of a sync went for its cache, over the disk before it: it was stopped, or the cache was
made durable, or that failed with the given cause. -/
inductive Saves (disk : Disk) (after : Station P) : Option StoreError → Prop
  | stopped (stopped : ¬ after.Calm) : Saves disk after none
  | saved {cache live : SignatureCache} (kept : after.source.cache = .ok live)
      (made : cache.commit disk = (.ok (), live, after.host.disk)) : Saves disk after none
  | refused {cache : SignatureCache} {cause : StoreError} (calm : after.Calm)
      (kept : after.source.cache = .ok cache)
      (made : cache.commit disk = (.error cause, cache, after.host.disk)) :
      Saves disk after (some cause)

/-- The end of a sync records an error only if its cache cannot be made durable, and records that one
over every other. -/
theorem fault_finish (cached : station.source.cache = .ok cache)
    (active : station.source.report.standing ≠ .resting) :
    ∃ unsaved, Saves station.host.disk (leaves finish station) unsaved ∧
      (leaves finish station).source.report.fault =
        (unsaved.map commitError).or station.source.report.fault ∧
      (leaves finish station).source.report.source = station.source.report.source := by
  by_cases calm : station.Calm
  · cases made : cache.commit station.host.disk with
    | mk outcome rest =>
      obtain ⟨after, disk⟩ := rest
      cases outcome with
      | error cause =>
        obtain ⟨left, failed, kept, reported, saved, lowered⟩ :=
          finish_of_refusal calm cached active made
        obtain rfl := SignatureCache.commit_error made
        rw [leaves_of_error failed, reported]
        exact ⟨some cause, .refused lowered kept (by rw [made, saved]), rfl, rfl⟩
      | ok _ =>
        have left : leaves finish station = settled (committed (unstreamed station) after disk) := by
          rw [leaves, finish_of_commit calm cached active made]
          cases station.source.report.fault <;> rfl
        rw [left, fault_settled, source_settled]
        exact ⟨none, .saved rfl made, rfl, rfl⟩
  · rw [leaves_of_error (finish_stopped calm), fault_settled, source_settled]
    exact ⟨none, .stopped calm, rfl, rfl⟩

end

inductive Uncommitted : SyncFailure → Prop
  | cancelled : Uncommitted .cancelled
  | commitFailed (name : String) (cause : StoreError) : Uncommitted (.commitFailed name cause)

theorem not_uncommitted_recordedFailure (name : String) (error : Fault) :
    ¬ Uncommitted (recordedFailure name error) := by
  rw [recordedFailure]
  split
  · exact fun uncommitted => nomatch uncommitted
  · exact fun uncommitted => nomatch uncommitted

theorem finish_uncommitted {station after : Station P} {error : SyncFailure}
    (ended : finish station = .error error after) (uncommitted : Uncommitted error) :
    after.source.cache = station.source.cache ∧ after.source.report.standing ≠ .running := by
  by_cases calm : station.Calm
  · have concluded : ∀ {left : Station P},
        conclude station.source.config.name left ≠ .error error after := by
      intro left ended
      rw [conclude_eq] at ended
      split at ended
      · cases ended
      · cases ended
        exact not_uncommitted_recordedFailure _ _ uncommitted
    cases cached : station.source.cache with
    | error cause =>
      simp only [finish_calm calm, closeCalmly, cached] at ended
      exact absurd ended concluded
    | ok cache =>
      by_cases active : station.source.report.standing ≠ .resting
      · cases made : cache.commit station.host.disk with
        | mk outcome rest =>
          obtain ⟨committed, disk⟩ := rest
          rw [finish_active calm cached active] at ended
          cases outcome with
          | ok _ =>
            rw [bind_of_ok (commitOrFail_ok (unstreamed station) made)] at ended
            exact absurd ended concluded
          | error cause =>
            obtain ⟨left, failed, kept, reported, -⟩ :=
              commitOrFail_error (unstreamed station) made
            rw [bind_of_error failed] at ended
            cases ended
            exact ⟨kept, by rw [reported]; exact nofun⟩
      · simp only [finish_calm calm, closeCalmly, cached, if_neg active] at ended
        exact absurd ended concluded
  · rw [finish_stopped calm] at ended
    cases ended
    exact ⟨rfl, standing_settled _⟩

end SourceM

/-! ### The next sync -/

/-- A source that can sync next over what another one left: it is the same one, or one that is
opened over the entries which the store gives again; and it has no open sync and a lowered flag. -/
structure Follows (after later : Station P) : Prop where
  cache : later.source.cache = after.source.cache ∨
    ∃ cache reopened disk, after.source.cache = .ok cache ∧
      cache.restart after.host.disk = (.ok reopened, disk) ∧ later.source.cache = .ok reopened
  closed : later.source.report.standing ≠ .running
  lowered : later.source.flagShared = true → later.Calm

theorem Follows.cached {after later : Station P} (follows : Follows after later)
    {cache committed : SignatureCache} {disk : Disk} (left : after.source.cache = .ok committed)
    (made : cache.commit disk = (.ok (), committed, after.host.disk)) :
    ∃ next, later.source.cache = .ok next ∧ next.snapshot = cache.snapshot := by
  obtain ⟨kept, reopened, opened, entries⟩ := SignatureCache.restart_commit made
  rcases follows.cache with same | ⟨held, anew, rest, holds, restarted, given⟩
  · exact ⟨committed, same.trans left, kept⟩
  · rw [left] at holds
    cases holds
    rw [opened] at restarted
    cases restarted
    exact ⟨reopened, given, entries⟩

end Reconcile
