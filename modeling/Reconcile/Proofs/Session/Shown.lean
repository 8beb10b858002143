import Mathlib.Control.Monad.Basic
import Reconcile.Proofs.Session.Interrupted
import Reconcile.Proofs.Session.Quota
import Reconcile.Proofs.Source.Bracketed
import Reconcile.Provider.Hooked

/-!
Failures in the report of a session. Where a sync fails between its beginning and its end, the session
records the failure; where its end fails, the source has recorded why. A beginning is left to record
its failure itself, and two of its failures it records nowhere.
-/

namespace Reconcile

variable {P L : Type} [Provider P]

/-! ### Beginnings that fail -/

namespace SourceM

variable {station left : Station P} {mode : SyncMode} {error : SyncFailure} {entry : SourceReport}

/-- The failures of a beginning that its source does not record, with the report that is left. -/
inductive Unnoted (mode : SyncMode) (station : Station P) : SyncFailure → SourceReport → Prop
  /-- A sync of the source is open already, and its report stays as it is. -/
  | running (begun : station.source.report.standing = .running) :
      Unnoted mode station (.invalidTransition Standing.running.name "begin_sync")
        station.source.report
  /-- The provider refuses to delete its items for a refresh, whose empty cache is durable by then. -/
  | undeleted {cache after : SignatureCache} {disk : Disk} {refusal : Refusal}
      (closed : station.source.report.standing ≠ .running) (refreshes : mode = .refreshFromServer)
      (cached : station.source.cache = .ok cache)
      (emptied : cache.clear.commit station.host.disk = (.ok (), after, disk))
      (refused : (Provider.deleteAll station.source.provider).1.value = .error refusal) :
      Unnoted mode station (.provider refusal) (Source.blankReport station.source.config)

theorem Unnoted.sharing (unnoted : Unnoted mode station error entry) (flag : StopFlag) :
    Unnoted mode (station.sharing flag) error entry := by
  cases unnoted with
  | running begun => exact .running begun
  | undeleted closed refreshes cached emptied refused =>
    exact .undeleted closed refreshes cached emptied refused

theorem Unnoted.of_sharing {flag : StopFlag}
    (unnoted : Unnoted mode (station.sharing flag) error entry) :
    Unnoted mode station error entry := by
  cases unnoted with
  | running begun => exact .running begun
  | undeleted closed refreshes cached emptied refused =>
    exact .undeleted closed refreshes cached emptied refused

theorem Unnoted.fails (unnoted : Unnoted mode station error entry) :
    ∃ left, start mode station = .error error left ∧ left.source.report = entry := by
  cases unnoted with
  | running begun => exact ⟨station, start_running begun mode, rfl⟩
  | undeleted closed refreshes cached emptied refused =>
    subst refreshes
    have deletes := start_of_commit cached closed emptied
    have begins := deletes.begins
    rw [deleteItems_eq, deletes.provider, refused] at begins
    refine ⟨_, begins, ?_⟩
    rfl

theorem unnoted_of_refresh {cache : SignatureCache} (cached : station.source.cache = .ok cache)
    (closed : station.source.report.standing ≠ .running)
    (failed : start .refreshFromServer station = .error error left) :
    Unnoted .refreshFromServer station error left.source.report ∨
      left.source.report.fault.isSome = true := by
  cases made : cache.clear.commit station.host.disk with
  | mk outcome rest =>
    obtain ⟨after, disk⟩ := rest
    cases outcome with
    | error cause =>
      have held : (station.opened .refreshFromServer).source.cache = .ok cache := cached
      rw [← (station.frozen_opened .refreshFromServer).disk] at made
      obtain ⟨last, refused, _, reported, _⟩ := wipe_of_refusal held made
      rw [start_eq cached closed, if_pos rfl, bind_of_error refused] at failed
      cases failed
      rw [reported]
      exact .inr rfl
    | ok _ =>
      have deletes := start_of_commit cached closed made
      have begins := deletes.begins
      rw [failed, deleteItems_eq, deletes.provider] at begins
      cases refused : (Provider.deleteAll station.source.provider).1.value with
      | ok _ =>
        rw [refused] at begins
        cases begins
      | error refusal =>
        rw [refused] at begins
        cases begins
        exact .inl (.undeleted closed rfl cached made refused)

theorem unnoted_of_start (failed : start mode station = .error error left) :
    Unnoted mode station error left.source.report ∨ left.source.report.fault.isSome = true := by
  by_cases running : station.source.report.standing = .running
  · rw [start_running running] at failed
    cases failed
    exact .inl (.running running)
  · cases cached : station.source.cache with
    | error cause =>
      rw [start_uncached cached running] at failed
      cases failed
      exact .inr rfl
    | ok cache =>
      by_cases refreshes : mode = .refreshFromServer
      · subst refreshes
        exact unnoted_of_refresh cached running failed
      · rw [start_ok cached running refreshes] at failed
        cases failed

end SourceM

/-! ### Ends that fail -/

namespace SourceM

variable {station : Station P} {cache : SignatureCache}

omit [Provider P] in
theorem finish_shows (cached : station.source.cache = .ok cache)
    (active : station.source.report.standing ≠ .resting)
    (goes : yields finish station ≠ .error .cancelled) :
    yields finish station = .ok () ↔ (leaves finish station).source.report.fault = none := by
  have calm : station.Calm := by
    rcases Classical.em station.Calm with calm | stopped
    · exact calm
    · exact absurd (yields_of_error (finish_stopped stopped)) goes
  cases made : cache.commit station.host.disk with
  | mk outcome rest =>
    obtain ⟨after, disk⟩ := rest
    cases outcome with
    | error cause =>
      obtain ⟨left, failed, -, reported, -⟩ := finish_of_refusal calm cached active made
      rw [yields_of_error failed, leaves_of_error failed, reported]
      simp [SourceReport.recordFault]
    | ok _ =>
      have ended := finish_of_commit calm cached active made
      have kept := fault_settled (committed (unstreamed station) after disk)
      change _ = station.source.report.fault at kept
      cases fault : station.source.report.fault with
      | none =>
        rw [fault] at ended kept
        rw [yields_of_ok ended, leaves_of_ok ended, kept]
        simp
      | some error =>
        rw [fault] at ended kept
        rw [yields_of_error ended, leaves_of_error ended, kept]
        simp

end SourceM

/-! ### Sessions -/

namespace Session

variable [ServerLink L] {session : Session} {mode : Option SyncMode} {exchange : Exchange P L}
  {opened : Station P} {error : SyncFailure}

omit [Provider P] [ServerLink L] in
theorem fault_noteFailure (session : Session) (station : Station P) (other : error ≠ .cancelled) :
    (session.noteFailure error station).1.report.fault = some (StatusCode.failed, error.message) := by
  unfold noteFailure
  dsimp only
  rw [if_neg other]
  rfl

theorem fault_continueRun {chosen : SyncMode}
    (failed : yields (ExchangeM.exchange chosen) exchange = .error error)
    (other : error ≠ .cancelled) : (session.continueRun chosen exchange).session.report.fault =
      some (StatusCode.failed, error.message) := by
  unfold yields at failed
  cases ran : ExchangeM.exchange chosen exchange with
  | ok value left =>
    rw [ran] at failed
    cases failed
  | error cause left =>
    rw [ran] at failed
    cases failed
    have noted := session.fault_noteFailure left.station other
    rw [continueRun, ran]
    dsimp only
    rw [finish_session]
    exact noted

section Ran

variable {noted : Station P} (opens : Opens session mode exchange opened)
  (ran : Ran session mode exchange opened noted)

include opens ran

theorem Ran.stands : noted.Stands true := by
  have opened_stands : opened.Stands true := by
    rw [Station.Stands, opens.report]
    rfl
  have moved := FailsAtMost.elementary.operative.carries_exchange (exchange.station.source.modeFor mode)
    (beginning exchange opened)
  have reported := ran.continued.within.report List.not_mem_nil
  exact (FailsAtMost.of_report reported).stands (moved.stands opened_stands)

/-- What the end of a sync says and what it leaves in the report of the source agree. -/
theorem Ran.finishes :
    (leaves SourceM.finish noted).source.report.source = exchange.station.source.config.name ∧
      (yields SourceM.finish noted ≠ .error .cancelled →
        (yields SourceM.finish noted = .ok () ↔
          (leaves SourceM.finish noted).source.report.fault = none)) := by
  obtain ⟨items, base, steps, taken, account⟩ := opens.account
  obtain ⟨name, begun, -⟩ := opens.reported account
  have reported := ran.continued.within.report List.not_mem_nil
  change _ = (exchanged _ exchange opened).station.source.report at reported
  rw [← reported] at name begun
  obtain ⟨kept, -⟩ := opens.unsaved ran.continued
  obtain ⟨cache, cached⟩ := opens.cached
  obtain ⟨live, held, -⟩ := kept.durable cached
  obtain ⟨unsaved, -, -, called⟩ := SourceM.fault_finish held begun
  exact ⟨called.trans name, SourceM.finish_shows held begun⟩

theorem Ran.shows_failure (failed : (session.sync mode exchange).outcome = .error error)
    (other : error ≠ .cancelled) :
    (session.sync mode exchange).session.report.isSuccessful ≠ true := by
  intro successful
  have outcome := ran.outcome
  rw [failed] at outcome
  cases exchanges : yields (ExchangeM.exchange (exchange.station.source.modeFor mode))
      (beginning exchange opened) with
  | error cause =>
    rw [exchanges] at outcome
    obtain rfl : error = cause := Except.error.inj outcome
    have fault := session.fault_continueRun exchanges other
    rw [← opens.continues] at fault
    rw [← sync_recorded] at successful
    unfold SessionReport.isSuccessful at successful
    obtain ⟨clear, -⟩ := Bool.and_eq_true_iff.mp successful
    change (session.sync mode exchange.recorded).session.report.fault.isNone = true at clear
    rw [fault] at clear
    cases clear
  | ok value =>
    rw [exchanges] at outcome
    have ended : yields SourceM.finish noted = .error error := outcome.symm
    obtain ⟨-, shows_end⟩ := ran.finishes opens
    obtain ⟨earlier, pushed⟩ := ran.report
    rw [pushed] at successful
    have clear := SourceReport.fault_of_isSuccessful (SessionReport.successful_of_push successful)
    rw [← shows_end fun same => other (Except.error.inj (ended.symm.trans same)), ended] at clear
    cases clear

theorem Ran.shows_success (done : (session.sync mode exchange).outcome = .ok ()) :
    ∃ entry, (session.sync mode exchange).session.report.source?
        exchange.station.source.config.name = some entry ∧ entry.isSuccessful = true := by
  have outcome := ran.outcome
  rw [done] at outcome
  cases exchanges : yields (ExchangeM.exchange (exchange.station.source.modeFor mode))
      (beginning exchange opened) with
  | error cause =>
    rw [exchanges] at outcome
    cases outcome
  | ok value =>
    rw [exchanges] at outcome
    have ended : yields SourceM.finish noted = .ok () := outcome.symm
    obtain ⟨name, shows_end⟩ := ran.finishes opens
    obtain ⟨earlier, pushed⟩ := ran.report
    refine ⟨(leaves SourceM.finish noted).source.report, ?_, ?_⟩
    · rw [pushed, ← name]
      exact earlier.source?_push _
    · have clear := (shows_end (by rw [ended]; exact nofun)).mp ended
      have stands := SourceM.stands_finish (ran.stands opens)
      rw [Station.Stands, clear] at stands
      rw [SourceReport.isSuccessful, clear, stands]
      rfl

end Ran

omit [ServerLink L] in
theorem refusal_shows {left : Station P}
    (refused : SourceM.start (exchange.station.source.modeFor mode)
      (exchange.station.sharing session.flag) = .error error left) :
    (session.publish left.source).report.isSuccessful = true ↔
      ∃ entry, SourceM.Unnoted (exchange.station.source.modeFor mode) exchange.station error entry ∧
        (session.report.push entry).isSuccessful = true := by
  constructor
  · intro successful
    rcases SourceM.unnoted_of_start refused with unnoted | faulty
    · exact ⟨_, unnoted.of_sharing, successful⟩
    · have clear := SourceReport.fault_of_isSuccessful (SessionReport.successful_of_push successful)
      rw [clear] at faulty
      cases faulty
  · rintro ⟨entry, unnoted, successful⟩
    obtain ⟨last, again, reported⟩ := (unnoted.sharing session.flag).fails
    cases again.symm.trans refused
    rw [← reported] at successful
    exact successful

/-- A failure that is no cancellation shows in the report of the session, unless it is one of the two
that a beginning does not record: then the report is the one from before, with the report that the
source was left with. A source whose sync succeeds is reported to be successful. -/
theorem sync_shows_failures (session : Session) (mode : Option SyncMode) (exchange : Exchange P L) :
    let run := session.sync mode exchange
    let source := exchange.station.source
    (∀ error, run.outcome = .error error → error ≠ .cancelled →
      (run.session.report.isSuccessful = true ↔
        ∃ entry, SourceM.Unnoted (source.modeFor mode) exchange.station error entry ∧
          (session.report.push entry).isSuccessful = true)) ∧
    (source.config.enabled = true → run.outcome = .ok () →
      ∃ entry, run.session.report.source? source.config.name = some entry ∧
        entry.isSuccessful = true) := by
  intro run source
  cases enabled : source.config.enabled with
  | false =>
    have skipped : run = { outcome := .ok (), session, exchange } := sync_disabled enabled
    rw [skipped]
    exact ⟨fun _ => nofun, nofun⟩
  | true =>
    cases lowered : exchange.station.host.isRaised session.flag with
    | true =>
      have stopped : run = { outcome := .error .cancelled, session, exchange } :=
        sync_raised lowered enabled
      rw [stopped]
      refine ⟨?_, fun _ => nofun⟩
      intro error failed other
      exact absurd (Except.error.inj failed).symm other
    | false =>
      cases begins : SourceM.start (source.modeFor mode) (exchange.station.sharing session.flag) with
      | ok value opened =>
        have opens : Opens session mode exchange opened := ⟨enabled, lowered, begins⟩
        obtain ⟨noted, ran⟩ := opens.ran
        refine ⟨?_, fun _ done => ran.shows_success opens done⟩
        intro error failed other
        refine iff_of_false (ran.shows_failure opens failed other) ?_
        rintro ⟨entry, unnoted, -⟩
        obtain ⟨left, refused, -⟩ := (unnoted.sharing session.flag).fails
        cases refused.symm.trans begins
      | error cause left =>
        have refused : run = _ := sync_of_refusal enabled lowered begins
        rw [refused]
        refine ⟨?_, fun _ => nofun⟩
        intro error failed _
        obtain rfl : cause = error := Except.error.inj failed
        exact refusal_shows begins

/-! ### Failures that do not show -/

def locked : Station HookedProvider :=
  Source.make { name := "contact" }
    { items := { items := [("a", [])] }
      hooks := { failures := [((.deleteAll, ""), .failed "locked")] } }
    (.ok { backing := .memory {} }) {}

def lockedSession : Session := (make locked.host).1

def lockedExchange : Exchange HookedProvider AnswerQueue :=
  { station := { locked with host := (make locked.host).2 }, link := {} }

theorem locked_source_shows :
    let refresh := lockedSession.sync (some .refreshFromServer) lockedExchange
    let keeping := lockedSession.sync none lockedExchange
    (refresh.outcome = .error (.provider (.failed "locked")) ∧
      refresh.session.report.isSuccessful = true) ∧
    (keeping.outcome = .ok () ∧ ∃ entry, keeping.session.report.source? "contact" = some entry ∧
      entry.isSuccessful = true) := by
  have failed : (lockedSession.sync (some .refreshFromServer) lockedExchange).outcome =
      .error (.provider (.failed "locked")) := by decide +kernel
  have done : (lockedSession.sync none lockedExchange).outcome = .ok () := by decide +kernel
  have unnoted : SourceM.Unnoted .refreshFromServer lockedExchange.station
      (.provider (.failed "locked")) (Source.blankReport lockedExchange.station.source.config) :=
    .undeleted nofun rfl rfl rfl rfl
  refine ⟨⟨failed, ?_⟩, done, ?_⟩
  · exact ((sync_shows_failures lockedSession _ lockedExchange).1 _ failed nofun).mpr
      ⟨_, unnoted, rfl⟩
  · exact (sync_shows_failures lockedSession none lockedExchange).2 rfl done

def occupiedExchange : Exchange HookedProvider AnswerQueue :=
  { lockedExchange with station := leaves (SourceM.start .twoWay) lockedExchange.station }

/-- Neither a refresh that may not delete the items, nor a sync of a source that is in another one,
succeeds; and the report of the session says that it did. -/
theorem failed_beginnings_hidden :
    let refresh := lockedSession.sync (some .refreshFromServer) lockedExchange
    let second := lockedSession.sync none occupiedExchange
    (refresh.outcome = .error (.provider (.failed "locked")) ∧
      refresh.session.report.isSuccessful = true) ∧
    (second.outcome = .error (.invalidTransition "Active" "begin_sync") ∧
      second.session.report.isSuccessful = true) := by
  refine ⟨⟨?_, ?_⟩, ?_, ?_⟩
  · decide +kernel
  · decide +kernel
  · decide +kernel
  · decide +kernel

end Session

end Reconcile
