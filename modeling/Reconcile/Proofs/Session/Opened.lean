import Reconcile.Proofs.Session.Exchanged
import Reconcile.Proofs.Source.Refresh
import Reconcile.Proofs.Source.Unsaved

/-!
Syncs that begin, in any mode. From its beginning on such a sync is its exchange and then its end,
whatever the link replies and wherever the exchange stops.
-/

namespace Reconcile

variable {P L : Type} [Provider P]

/-! ### The beginning -/

namespace Session

variable {session : Session} {mode : Option SyncMode} {chosen : SyncMode} {exchange : Exchange P L}
  {opened : Station P}

structure Opens (session : Session) (mode : Option SyncMode) (exchange : Exchange P L)
    (opened : Station P) : Prop where
  enabled : exchange.station.source.config.enabled = true
  lowered : exchange.station.host.isRaised session.flag = false
  begins : SourceM.start (exchange.station.source.modeFor mode)
    (exchange.station.sharing session.flag) = .ok () opened

namespace Opens

theorem within (opens : Opens session mode exchange opened) : Within [.provider, .cache, .disk]
    ((exchange.station.sharing session.flag).begun (exchange.station.source.modeFor mode)) opened :=
  (SourceM.within_start opens.begins).1

theorem cached (opens : Opens session mode exchange opened) :
    ∃ cache, opened.source.cache = .ok cache := (SourceM.within_start opens.begins).2

theorem config (opens : Opens session mode exchange opened) :
    opened.source.config = exchange.station.source.config := opens.within.config

theorem flag (opens : Opens session mode exchange opened) : opened.source.flag = session.flag :=
  opens.within.flag

theorem report (opens : Opens session mode exchange opened) : opened.source.report =
    { Source.blankReport exchange.station.source.config with standing := .running } :=
  opens.within.report (by simp)

theorem idle (opens : Opens session mode exchange opened) : opened.source.streaming = .idle :=
  opens.within.streaming (by simp)

theorem kept (opens : Opens session mode exchange opened)
    (keeping : exchange.station.source.modeFor mode ≠ .refreshFromServer) : opened =
      (exchange.station.sharing session.flag).begun (exchange.station.source.modeFor mode) := by
  obtain ⟨closed, cache, cached⟩ := SourceM.cached_of_start opens.begins
  have begins := opens.begins
  rw [SourceM.start_ok cached closed keeping] at begins
  exact (EStateM.Result.ok.inj begins).2.symm

end Opens

theorem opens_keeping {cache : SignatureCache}
    (enabled : exchange.station.source.config.enabled = true)
    (lowered : exchange.station.host.isRaised session.flag = false)
    (cached : exchange.station.source.cache = .ok cache)
    (closed : exchange.station.source.report.standing ≠ .running)
    (keeping : exchange.station.source.modeFor mode ≠ .refreshFromServer) :
    Opens session mode exchange
      ((exchange.station.sharing session.flag).begun (exchange.station.source.modeFor mode)) where
  enabled := enabled
  lowered := lowered
  begins := by
    have held : (exchange.station.sharing session.flag).source.cache = .ok cache := cached
    exact SourceM.start_ok held closed keeping

def SameDurable (before after : Station P) : Prop :=
  ∃ cache live, before.source.cache = .ok cache ∧ after.source.cache = .ok live ∧
    live.durable after.host.disk = cache.durable before.host.disk

/-! ### The end -/

/-- How a sync goes from the beginning of its exchange: `noted` is the station at its end. -/
structure Continued [ServerLink L] (session : Session) (mode : SyncMode) (exchange : Exchange P L)
    (noted : Station P) : Prop where
  within : Within [] (leaves (ExchangeM.exchange mode) exchange).station noted
  /-- A failure of the protocol stops the session. -/
  stops : ∀ reason, yields (ExchangeM.exchange mode) exchange = .error (.protocol reason) →
    noted.host.isRaised session.flag = true
  /-- No other failure does. -/
  spares : (∀ reason, yields (ExchangeM.exchange mode) exchange ≠ .error (.protocol reason)) →
    noted = (leaves (ExchangeM.exchange mode) exchange).station
  outcome : (session.continueRun mode exchange).outcome =
    (yields (ExchangeM.exchange mode) exchange).bind fun _ => yields SourceM.finish noted
  left : (session.continueRun mode exchange).exchange =
    { leaves (ExchangeM.exchange mode) exchange with station := leaves SourceM.finish noted }
  flag : (session.continueRun mode exchange).session.flag = session.flag
  report : ∃ earlier : SessionReport, (session.continueRun mode exchange).session.report =
    earlier.push (leaves SourceM.finish noted).source.report

omit [Provider P] in
theorem finish_session (session : Session) (exchanged : Except SyncFailure Unit)
    (exchange : Exchange P L) : (session.finish exchanged exchange).session =
      session.publish (leaves SourceM.finish exchange.station).source := by
  unfold finish leaves
  cases SourceM.finish exchange.station <;> rfl

omit [Provider P] in
theorem raised_noteFailure (session : Session) (reason : String) (station : Station P) :
    (session.noteFailure (.protocol reason) station).2.host.isRaised session.flag = true := by
  show (station.host.flags.raise session.flag).isRaised session.flag = true
  simp

omit [Provider P] in
theorem station_noteFailure (session : Session) {error : SyncFailure} (station : Station P)
    (other : ∀ reason, error ≠ .protocol reason) : (session.noteFailure error station).2 = station := by
  unfold noteFailure
  cases error with
  | protocol reason => exact absurd rfl (other reason)
  | cancelled => rfl
  | _ => rfl

omit [Provider P] in
theorem flag_noteFailure (session : Session) (error : SyncFailure) (station : Station P) :
    (session.noteFailure error station).1.flag = session.flag := by
  unfold noteFailure
  dsimp only
  split <;> rfl

variable [ServerLink L]

theorem continueRun_continued (session : Session) (mode : SyncMode) (exchange : Exchange P L) :
    ∃ noted, Continued session mode exchange noted := by
  cases ran : ExchangeM.exchange mode exchange with
  | ok value left =>
    have continued : session.continueRun mode exchange = session.finish (.ok ()) left := by
      rw [continueRun, ran]
    obtain ⟨exchanged, outcome⟩ := session.finish_eq (.ok ()) left
    refine ⟨left.station, ?_⟩
    constructor
    case within => rw [leaves_of_ok ran]; exact .refl _
    case stops =>
      rw [yields_of_ok ran]
      intro reason failed
      cases failed
    case spares => rw [leaves_of_ok ran]; exact fun _ => rfl
    case outcome => rw [continued, outcome, yields_of_ok ran]
    case left => rw [continued, exchanged, leaves_of_ok ran]
    case flag => rw [continued, finish_session]; rfl
    case report => rw [continued, finish_session]; exact ⟨_, rfl⟩
  | error error left =>
    have within := within_noteFailure session error left.station
    have flag := flag_noteFailure session error left.station
    have raised : ∀ reason, error = .protocol reason →
        (session.noteFailure error left.station).2.host.isRaised session.flag = true := by
      rintro reason rfl
      exact raised_noteFailure session reason left.station
    have spared : (∀ reason, error ≠ .protocol reason) →
        (session.noteFailure error left.station).2 = left.station :=
      station_noteFailure session left.station
    have continued : session.continueRun mode exchange =
        (session.noteFailure error left.station).1.finish (.error error)
          { left with station := (session.noteFailure error left.station).2 } := by
      rw [continueRun, ran]
    generalize session.noteFailure error left.station = noted at *
    obtain ⟨after, station⟩ := noted
    obtain ⟨exchanged, outcome⟩ := after.finish_eq (.error error) { left with station }
    refine ⟨station, ?_⟩
    constructor
    case within => rw [leaves_of_error ran]; exact within
    case stops =>
      rw [yields_of_error ran]
      exact fun reason failed => raised reason (Except.error.inj failed)
    case spares =>
      rw [yields_of_error ran, leaves_of_error ran]
      exact fun others => spared fun reason failed => others reason (congrArg Except.error failed)
    case outcome => rw [continued, outcome, yields_of_error ran]
    case left => rw [continued, exchanged, leaves_of_error ran]
    case flag => rw [continued, finish_session]; exact flag
    case report => rw [continued, finish_session]; exact ⟨_, rfl⟩

def beginning (exchange : Exchange P L) (opened : Station P) : Exchange P (Recorded L) :=
  { exchange.recorded with station := opened }

def exchanged (mode : SyncMode) (exchange : Exchange P L) (opened : Station P) :
    Exchange P (Recorded L) :=
  leaves (ExchangeM.exchange mode) (beginning exchange opened)

/-- How a sync that begins went: `noted` is the station at its end. -/
structure Ran (session : Session) (mode : Option SyncMode) (exchange : Exchange P L)
    (opened noted : Station P) : Prop where
  continued : Continued session (exchange.station.source.modeFor mode) (beginning exchange opened) noted
  events : (exchanged (exchange.station.source.modeFor mode) exchange opened).link.events =
    session.transcript mode exchange
  outcome : (session.sync mode exchange).outcome =
    (yields (ExchangeM.exchange (exchange.station.source.modeFor mode)) (beginning exchange opened)).bind
      fun _ => yields SourceM.finish noted
  station : (session.sync mode exchange).exchange.station = leaves SourceM.finish noted
  flag : (session.sync mode exchange).session.flag = session.flag
  report : ∃ earlier : SessionReport, (session.sync mode exchange).session.report =
    earlier.push (leaves SourceM.finish noted).source.report

theorem Opens.goes (opens : Opens session mode exchange opened) :
    session.sync mode exchange =
      session.continueRun (exchange.station.source.modeFor mode) { exchange with station := opened } := by
  have goes : ¬ (!exchange.station.source.config.enabled) = true := by simp [opens.enabled]
  have down : ¬ exchange.station.host.isRaised session.flag = true := by simp [opens.lowered]
  have begins := opens.begins
  change SourceM.start (mode.getD exchange.station.source.config.preferredMode)
    { exchange.station with source := exchange.station.source.shareFlag session.flag } = _ at begins
  unfold sync
  dsimp only
  rw [if_neg goes, if_neg down, begins]
  rfl

theorem Opens.continues (opens : Opens session mode exchange opened) :
    session.sync mode exchange.recorded =
      session.continueRun (exchange.station.source.modeFor mode) (beginning exchange opened) := by
  have recorded : Opens session mode exchange.recorded opened :=
    ⟨opens.enabled, opens.lowered, opens.begins⟩
  exact recorded.goes

theorem Opens.ran (opens : Opens session mode exchange opened) :
    ∃ noted, Ran session mode exchange opened noted := by
  have ran := opens.continues
  obtain ⟨noted, continued⟩ :=
    session.continueRun_continued (exchange.station.source.modeFor mode) (beginning exchange opened)
  refine ⟨noted, continued, ?_, ?_, ?_, ?_, ?_⟩
  · rw [transcript, ran, continued.left]
    rfl
  all_goals rw [← sync_recorded, ran]
  · exact continued.outcome
  · exact congrArg Exchange.station continued.left
  · exact continued.flag
  · exact continued.report

theorem sync_ends {cache : SignatureCache} (enabled : exchange.station.source.config.enabled = true)
    (lowered : exchange.station.host.isRaised session.flag = false)
    (cached : exchange.station.source.cache = .ok cache)
    (closed : exchange.station.source.report.standing ≠ .running)
    (keeping : exchange.station.source.modeFor mode ≠ .refreshFromServer) :
    let chosen := exchange.station.source.modeFor mode
    let left := leaves (ExchangeM.exchange chosen) (session.begun chosen exchange)
    session.transcript mode exchange = left.link.events ∧ ∃ noted, Within [] left.station noted ∧
      (session.sync mode exchange).exchange.station = leaves SourceM.finish noted := by
  intro chosen left
  obtain ⟨noted, ran⟩ := (opens_keeping enabled lowered cached closed keeping).ran
  exact ⟨ran.events.symm, noted, ran.continued.within, ran.station⟩

/-- A sync that cannot begin leaves the source as the failed beginning did, and stores its report. -/
theorem sync_of_refusal {station : Station P} {error : SyncFailure}
    (enabled : exchange.station.source.config.enabled = true)
    (lowered : exchange.station.host.isRaised session.flag = false)
    (refused : SourceM.start (exchange.station.source.modeFor mode)
      (exchange.station.sharing session.flag) = .error error station) :
    session.sync mode exchange =
      { outcome := .error error
        session := session.publish station.source
        exchange := { exchange with station } } := by
  change SourceM.start (mode.getD exchange.station.source.config.preferredMode)
    { exchange.station with source := exchange.station.source.shareFlag session.flag } = _ at refused
  simp [sync, enabled, lowered, refused]

theorem Opens.unsaved (opens : Opens session mode exchange opened) {noted : Station P}
    (continued : Continued session (exchange.station.source.modeFor mode)
      (beginning exchange opened) noted) : Unsaved opened noted ∧ noted.source.flag = session.flag := by
  have carried := Within.elementary.operative.carries_exchange (exchange.station.source.modeFor mode)
    (beginning exchange opened)
  refine ⟨?_, continued.within.flag.trans (carried.flag.trans opens.flag)⟩
  exact (Unsaved.elementary.operative.carries_exchange _ (beginning exchange opened)).trans
    (.of_within continued.within List.not_mem_nil List.not_mem_nil)

end Session

end Reconcile
