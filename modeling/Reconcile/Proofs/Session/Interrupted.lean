import Reconcile.Proofs.Session.Calls
import Reconcile.Proofs.Session.Composed
import Reconcile.Proofs.Session.Opened
import Reconcile.Proofs.Source.Unsaved
import Reconcile.Provider.Memory
import Reconcile.Server.Queued

/-!
Interrupted syncs. A failure of the protocol and a raised flag both end a sync without a commit,
wherever they come up, and keep the session from syncing anything else.
-/

namespace Reconcile

variable {P L α β : Type}

/-! ### Failures of the link -/

def LinkEvent.failure? : LinkEvent → Option SyncFailure
  | sent _ reply | concluded reply => failureOf reply.value
  | fetched reply => failureOf reply.value
  | answered _ reply => failureOf reply.value
where
  failureOf {α : Type} : Except SyncFailure α → Option SyncFailure
    | .ok _ => none
    | .error error => some error

namespace ExchangeM

def Surfaces (operation : ExchangeM P (Recorded L) α) : Prop :=
  ∀ exchange, ∃ more,
    (leaves operation exchange).link.events = exchange.link.events ++ more ∧
      ∀ event ∈ more, ∀ error, event.failure? = some error → yields operation exchange = .error error

theorem Surfaces.of_same {operation : ExchangeM P (Recorded L) α}
    (same : ∀ exchange, (leaves operation exchange).link = exchange.link) : Surfaces operation := by
  intro exchange
  refine ⟨[], ?_, fun event member => nomatch member⟩
  rw [same, List.append_nil]

theorem Surfaces.bind {operation : ExchangeM P (Recorded L) α}
    {next : α → ExchangeM P (Recorded L) β} (first : Surfaces operation)
    (second : ∀ value, Surfaces (next value)) : Surfaces (operation >>= next) := by
  intro exchange
  obtain ⟨early, adds, surfaces⟩ := first exchange
  cases ran : operation exchange with
  | error error left =>
    have failed := bind_of_error ran next
    rw [leaves_of_error ran] at adds
    rw [yields_of_error ran] at surfaces
    rw [leaves_of_error failed, yields_of_error failed]
    refine ⟨early, adds, fun event member cause caused => ?_⟩
    cases surfaces event member cause caused
    rfl
  | ok value left =>
    rw [leaves_of_ok ran] at adds
    rw [yields_of_ok ran] at surfaces
    obtain ⟨late, extends_, later⟩ := second value left
    rw [leaves_bind_of_ok ran]
    have goes : yields (operation >>= next) exchange = yields (next value) left := by
      rw [yields, bind_of_ok ran, yields]
    rw [goes]
    refine ⟨early ++ late, by rw [extends_, adds, List.append_assoc], ?_⟩
    intro event member error failed
    rcases List.mem_append.mp member with before | after
    · cases surfaces event before error failed
    · exact later event after error failed

theorem Surfaces.call {action : Recorded L → String → Reply (Except SyncFailure α) × Recorded L}
    {event : Reply (Except SyncFailure α) → LinkEvent} (records : Records action event)
    (fails : ∀ reply, (event reply).failure? = LinkEvent.failure?.failureOf reply.value) :
    Surfaces (call action : ExchangeM P (Recorded L) α) := by
  intro exchange
  obtain ⟨adds, -⟩ := records exchange.link exchange.station.source.config.name
  rw [leaves_call, yields_call]
  refine ⟨_, adds, fun made member error failed => ?_⟩
  rw [List.mem_singleton.mp member, fails] at failed
  cases value : (action exchange.link exchange.station.source.config.name).1.value with
  | ok result => rw [value] at failed; cases failed
  | error cause =>
    rw [value] at failed
    rw [Option.some.inj failed]

/-- The failure of a call is that of the whole exchange, which makes no further call. -/
theorem surfaces_exchange [Provider P] [ServerLink L] (mode : SyncMode) :
    Surfaces (ExchangeM.exchange mode : ExchangeM P (Recorded L) Unit) := by
  have compositional : Compositional (P := P) (L := Recorded L) Surfaces :=
    { pure := fun _ => .of_same fun _ => rfl
      bind := Surfaces.bind
      reads := fun holds exchange => holds exchange exchange
      onStation := fun _ => .of_same fun exchange => by rw [leaves_onStation]
      send := fun item => .call (records_send item) fun _ => rfl
      conclude := .call records_conclude fun _ => rfl
      fetch := .call records_fetch fun _ => rfl
      answer := fun verdicts => .call (records_answer verdicts) fun _ => rfl }
  exact compositional.exchange mode

end ExchangeM

/-! ### Stopped sessions -/

namespace Session

/-- What becomes of a session and its host while nobody lowers a flag: further sources sync, and
others change the host. -/
inductive Later (session : Session) (host : Host) : Session → Host → Prop
  | now : Later session host session host
  | synced {P L : Type} [Provider P] [ServerLink L] {present : Session} {exchange : Exchange P L}
      (earlier : Later session host present exchange.station.host) (mode : Option SyncMode) :
      Later session host (present.sync mode exchange).session
        (present.sync mode exchange).exchange.station.host
  | changed {present : Session} {before after : Host} (earlier : Later session host present before)
      (raised : ∀ flag, before.isRaised flag = true → after.isRaised flag = true) :
      Later session host present after

section

variable [Provider P] [ServerLink L] {session later : Session} {mode : Option SyncMode}
  {exchange : Exchange P L} {host present : Host}

theorem sync_raised (raised : exchange.station.host.isRaised session.flag = true)
    (enabled : exchange.station.source.config.enabled = true) :
    session.sync mode exchange = { outcome := .error .cancelled, session, exchange } := by
  unfold sync
  simp [enabled, raised]

theorem sync_disabled (disabled : exchange.station.source.config.enabled = false) :
    session.sync mode exchange = { outcome := .ok (), session, exchange } := by
  unfold sync
  simp [disabled]

theorem Later.stopped (follows : Later session host later present)
    (raised : host.isRaised session.flag = true) :
    later.flag = session.flag ∧ present.isRaised later.flag = true := by
  induction follows with
  | now => exact ⟨rfl, raised⟩
  | @synced P L _ _ between exchange _ mode ih =>
    cases enabled : exchange.station.source.config.enabled with
    | true =>
      rw [sync_raised ih.2 enabled]
      exact ih
    | false =>
      rw [sync_disabled enabled]
      exact ih
  | changed _ keeps ih => exact ⟨ih.1, keeps _ ih.2⟩

theorem Later.shut (follows : Later session host later present)
    (raised : host.isRaised session.flag = true) (again : Option SyncMode)
    (hosted : exchange.station.host = present)
    (enabled : exchange.station.source.config.enabled = true) :
    later.sync again exchange = { outcome := .error .cancelled, session := later, exchange } ∧
      later.transcript again exchange = [] := by
  obtain ⟨-, shut⟩ := follows.stopped raised
  rw [← hosted] at shut
  have recorded : exchange.recorded.station.host.isRaised later.flag = true := shut
  refine ⟨sync_raised shut enabled, ?_⟩
  rw [transcript, sync_raised recorded enabled]
  rfl

end

/-! ### Interrupted syncs -/

variable [Provider P] [ServerLink L] {session : Session} {mode : Option SyncMode}
  {exchange : Exchange P L} {opened : Station P}

/-- A sync that began on a station was interrupted: a call of the link failed with an error of the
protocol, or the flag of the session was raised, which no step of an exchange lowers. -/
def Interrupted (session : Session) (mode : Option SyncMode) (exchange : Exchange P L)
    (opened : Station P) : Prop :=
  (∃ event ∈ session.transcript mode exchange, ∃ reason, event.failure? = some (.protocol reason)) ∨
    (exchanged (exchange.station.source.modeFor mode) exchange opened).station.host.isRaised
      session.flag = true

theorem Ran.raised {noted : Station P} (ran : Ran session mode exchange opened noted)
    (interrupted : Interrupted session mode exchange opened) :
    noted.host.isRaised session.flag = true := by
  rcases interrupted with ⟨event, member, reason, failed⟩ | raised
  · rw [← ran.events] at member
    obtain ⟨more, adds, surfaces⟩ := ExchangeM.surfaces_exchange
      (exchange.station.source.modeFor mode) (beginning exchange opened)
    have calls : event ∈ more := by
      rw [exchanged, adds] at member
      exact member
    exact ran.continued.stops reason (surfaces event calls _ failed)
  · exact ran.continued.within.raised _ raised

theorem Ran.fails {noted left : Station P} {error : SyncFailure}
    (ran : Ran session mode exchange opened noted)
    (ended : SourceM.finish noted = .error error left) :
    ∃ error, (session.sync mode exchange).outcome = .error error := by
  rw [ran.outcome, yields_of_error ended]
  cases yields (ExchangeM.exchange (exchange.station.source.modeFor mode))
      (beginning exchange opened) with
  | ok _ => exact ⟨error, rfl⟩
  | error earlier => exact ⟨earlier, rfl⟩

/-- A sync that was interrupted makes nothing durable after its beginning, fails, and leaves a source
that is not running, under a flag that stays raised; from then on the session gives every enabled
source back as it is, and does not call its link. -/
theorem sync_interrupted (opens : Opens session mode exchange opened)
    (interrupted : Interrupted session mode exchange opened) :
    let run := session.sync mode exchange
    let after := run.exchange.station
    SameDurable opened after ∧
      (exchange.station.source.modeFor mode ≠ .refreshFromServer →
        SameDurable exchange.station after) ∧
      (∃ error, run.outcome = .error error) ∧
      after.host.isRaised session.flag = true ∧
      after.source.report.standing ≠ .running ∧
      ∀ later host, Later run.session after.host later host →
        ∀ {Q M : Type} [Provider Q] [ServerLink M] (again : Option SyncMode) (next : Exchange Q M),
          next.station.host = host → next.station.source.config.enabled = true →
            later.sync again next =
                { outcome := .error .cancelled, session := later, exchange := next } ∧
              later.transcript again next = [] := by
  intro run after
  obtain ⟨noted, ran⟩ := opens.ran
  have raised := ran.raised interrupted
  obtain ⟨unsaved, flag⟩ := opens.unsaved ran.continued
  have stopped : ¬ noted.Calm := by
    rw [Station.Calm, flag, raised]
    exact Bool.noConfusion
  have ended := SourceM.finish_stopped stopped
  have left : after = SourceM.settled (SourceM.unstreamed noted) :=
    ran.station.trans (leaves_of_error ended)
  have up : after.host.isRaised session.flag = true := by rw [left]; exact raised
  obtain ⟨cache, cached⟩ := opens.cached
  obtain ⟨live, held, same⟩ := unsaved.durable cached
  have durable : live.durable after.host.disk = cache.durable opened.host.disk := by
    rw [left]
    show live.durable noted.host.disk = _
    rw [unsaved.disk, same]
  have holds : after.source.cache = .ok live := by rw [left]; exact held
  refine ⟨⟨cache, live, cached, holds, durable⟩, fun keeping => ?_, ran.fails ended, up, ?_, ?_⟩
  · have kept := opens.kept keeping
    have earlier : exchange.station.source.cache = .ok cache := by
      rw [← cached, kept]
      rfl
    refine ⟨cache, live, earlier, holds, durable.trans ?_⟩
    rw [kept]
    rfl
  · rw [left]
    exact SourceM.standing_settled _
  · rintro later host follows Q M _ _ again next hosted enabled
    exact follows.shut (ran.flag ▸ up) again hosted enabled

/-! ### A link that breaks -/

def brokenCache : SignatureCache := { backing := .memory (.ofList [("c", "old")]) }

def broken : Station MemoryProvider :=
  Source.make { name := "contact" } { items := [("a", []), ("b", [])] } (.ok brokenCache) {}

def brokenSession : Session := (make broken.host).1

/-- A link that accepts the first item and breaks with the second one. -/
def brokenExchange : Exchange MemoryProvider AnswerQueue :=
  { station := { broken with host := (make broken.host).2 }
    link := { sends := [{}, { error := some (.protocol "lost") }] } }

/-- The accepted item is in the live cache, but not durable, and the session is over. -/
theorem broken_link_stops :
    let run := brokenSession.sync none brokenExchange
    let after := run.exchange.station
    SameDurable brokenExchange.station after ∧
      (after.source.cache.toOption.map SignatureCache.snapshot) =
        some [("c", ⟨"old"⟩), ("a", .of [])] ∧
      (∃ error, run.outcome = .error error) ∧
      after.host.isRaised brokenSession.flag = true ∧
      run.session.sync none run.exchange =
        { outcome := .error .cancelled, session := run.session, exchange := run.exchange } := by
  have opens : Opens brokenSession none brokenExchange
      ((brokenExchange.station.sharing brokenSession.flag).begun .twoWay) :=
    ⟨rfl, rfl, SourceM.start_ok rfl (by decide) (by decide)⟩
  have fails : ((brokenSession.transcript none brokenExchange)[1]?.bind LinkEvent.failure?) =
      some (.protocol "lost") := by decide +kernel
  obtain ⟨event, found, failed⟩ := Option.bind_eq_some_iff.mp fails
  have interrupted := sync_interrupted opens
    (.inl ⟨event, List.mem_of_getElem? found, "lost", failed⟩)
  obtain ⟨-, kept, outcome, raised, -, stopped⟩ := interrupted
  refine ⟨kept (by decide), by decide +kernel, outcome, raised, ?_⟩
  exact (stopped _ _ .now none _ rfl (by decide +kernel)).1

end Session

end Reconcile
