import Reconcile.Proofs.Source.Incoming
import Reconcile.Session.Basic

/-!
Transcripts of syncs. A link that records its calls changes nothing else, so that what a sync does
can be said in terms of the calls that it makes and the replies that it gets.
-/

namespace Reconcile

variable {P L α β : Type}

inductive LinkEvent where
  | sent (item : OutgoingItem) (reply : Reply (Except SyncFailure (List Verdict)))
  | concluded (reply : Reply (Except SyncFailure (List Verdict)))
  | fetched (reply : Reply (Except SyncFailure (List ServerChange)))
  | answered (verdicts : List Verdict) (reply : Reply (Except SyncFailure Unit))

def LinkEvent.succeeded : LinkEvent → Bool
  | sent _ reply | concluded reply => reply.value.isOk
  | fetched reply => reply.value.isOk
  | answered _ reply => reply.value.isOk

def LinkEvent.changes : LinkEvent → List ServerChange
  | fetched reply => reply.value.toOption.getD []
  | _ => []

def fetchedChanges (events : List LinkEvent) : List ServerChange := events.flatMap LinkEvent.changes

structure Recorded (L : Type) where
  link : L
  events : List LinkEvent := []

def Recorded.add (recorded : Recorded L) (event : LinkEvent) (link : L) : Recorded L :=
  { link, events := recorded.events ++ [event] }

instance [ServerLink L] : ServerLink (Recorded L) where
  send recorded source item :=
    let (reply, link) := ServerLink.send recorded.link source item
    (reply, recorded.add (.sent item reply) link)
  conclude recorded source :=
    let (reply, link) := ServerLink.conclude recorded.link source
    (reply, recorded.add (.concluded reply) link)
  fetch recorded source :=
    let (reply, link) := ServerLink.fetch recorded.link source
    (reply, recorded.add (.fetched reply) link)
  answer recorded source verdicts :=
    let (reply, link) := ServerLink.answer recorded.link source verdicts
    (reply, recorded.add (.answered verdicts reply) link)

namespace Exchange

def recorded (exchange : Exchange P L) : Exchange P (Recorded L) :=
  { station := exchange.station, link := { link := exchange.link } }

def plain (exchange : Exchange P (Recorded L)) : Exchange P L :=
  { station := exchange.station, link := exchange.link.link }

end Exchange

def SessionRun.plain (run : SessionRun P (Recorded L)) : SessionRun P L :=
  { outcome := run.outcome, session := run.session, exchange := run.exchange.plain }

namespace ExchangeM

def plainly : EStateM.Result SyncFailure (Exchange P (Recorded L)) α →
    EStateM.Result SyncFailure (Exchange P L) α
  | .ok value left => .ok value left.plain
  | .error error left => .error error left.plain

/-- An operation on a recorded link does what another one does on the link itself. -/
def Mirrors (recorded : ExchangeM P (Recorded L) α) (plain : ExchangeM P L α) : Prop :=
  ∀ exchange, plain exchange.plain = plainly (recorded exchange)

section Steps

variable {recorded : ExchangeM P (Recorded L) α} {plain : ExchangeM P L α}

theorem mirrors_pure (value : α) :
    Mirrors (pure value : ExchangeM P (Recorded L) α) (pure value) := fun _ => rfl

theorem mirrors_bind {next : α → ExchangeM P (Recorded L) β} {follow : α → ExchangeM P L β}
    (first : Mirrors recorded plain) (second : ∀ value, Mirrors (next value) (follow value)) :
    Mirrors (recorded >>= next) (plain >>= follow) := by
  intro exchange
  have mirrored := first exchange
  cases ran : recorded exchange with
  | ok value left =>
    rw [ran] at mirrored
    rw [bind_of_ok mirrored, bind_of_ok ran, second value left]
  | error error left =>
    rw [ran] at mirrored
    rw [bind_of_error mirrored, bind_of_error ran]
    rfl

theorem mirrors_onStation (operation : SourceM P α) :
    Mirrors (onStation operation : ExchangeM P (Recorded L) α) (onStation operation) := by
  intro exchange
  show onStation operation { station := exchange.station, link := exchange.link.link } = _
  unfold onStation
  cases operation exchange.station <;> rfl

theorem mirrors_isServerFull :
    Mirrors (isServerFull : ExchangeM P (Recorded L) Bool) isServerFull := fun _ => rfl

def replied (left : Exchange P L) : Except SyncFailure α → EStateM.Result SyncFailure (Exchange P L) α
  | .ok value => .ok value left
  | .error error => .error error left

theorem call_eq (action : L → String → Reply (Except SyncFailure α) × L) (exchange : Exchange P L) :
    call action exchange =
      let called := action exchange.link exchange.station.source.config.name
      replied { station := exchange.station.heard called.1.cancels, link := called.2 }
        called.1.value := by
  show (onStation (SourceM.hear _) >>= _) { exchange with link := _ } = _
  dsimp only
  generalize action exchange.link exchange.station.source.config.name = called
  have heard : onStation (SourceM.hear called.1) { exchange with link := called.2 } =
      .ok called.1.value { station := exchange.station.heard called.1.cancels, link := called.2 } := by
    rw [onStation, SourceM.hear_heard]
  rw [bind_of_ok heard]
  cases called.1.value <;> rfl

theorem mirrors_call {recorded : Recorded L → String → Reply (Except SyncFailure α) × Recorded L}
    {plain : L → String → Reply (Except SyncFailure α) × L}
    (same : ∀ link source, (recorded link source).1 = (plain link.link source).1 ∧
      (recorded link source).2.link = (plain link.link source).2) :
    Mirrors (call recorded : ExchangeM P (Recorded L) α) (call plain) := by
  intro exchange
  obtain ⟨replies, keeps⟩ := same exchange.link exchange.station.source.config.name
  rw [call_eq, call_eq]
  dsimp only [Exchange.plain]
  rw [← replies, ← keeps]
  cases (recorded exchange.link exchange.station.source.config.name).1.value
  · rfl
  · rfl

end Steps

/-! ### Uploads and downloads -/

section Exchanges

variable [Provider P]

theorem mirrors_route (verdicts : List Verdict) (inFlight : InFlight) :
    Mirrors (route verdicts inFlight : ExchangeM P (Recorded L) InFlight)
      (route verdicts inFlight) := by
  induction verdicts generalizing inFlight with
  | nil => exact mirrors_pure _
  | cons verdict rest ih =>
    unfold route
    split
    split
    · exact mirrors_bind (mirrors_onStation _) fun _ => ih _
    · exact mirrors_bind (mirrors_onStation _) fun _ => ih _

variable [ServerLink L]

theorem mirrors_sendFrom (stream : ItemStream) (bound : Nat) (item : Option OutgoingItem)
    (inFlight : InFlight) :
    Mirrors (sendFrom stream bound item inFlight : ExchangeM P (Recorded L) (Option InFlight))
      (sendFrom stream bound item inFlight) := by
  induction bound generalizing item inFlight with
  | zero =>
    cases item
    · exact mirrors_pure _
    · exact mirrors_pure _
  | succ bound ih =>
    cases item with
    | none => exact mirrors_pure _
    | some item =>
      refine mirrors_bind (mirrors_call fun _ _ => ⟨rfl, rfl⟩) fun verdicts =>
        mirrors_bind (mirrors_onStation _) fun _ => mirrors_bind (mirrors_route _ _) fun inFlight =>
        mirrors_bind mirrors_isServerFull fun full => ?_
      cases full with
      | true => exact mirrors_bind (mirrors_onStation _) fun _ => mirrors_pure _
      | false => exact mirrors_bind (mirrors_onStation _) fun following => ih following inFlight

theorem mirrors_sendStream (stream : ItemStream) (inFlight : InFlight) :
    Mirrors (sendStream stream inFlight : ExchangeM P (Recorded L) (Option InFlight))
      (sendStream stream inFlight) := by
  refine mirrors_bind (mirrors_onStation _) fun item => ?_
  intro exchange
  exact mirrors_sendFrom stream (exchange.station.source.remaining stream + 1) item inFlight exchange

theorem mirrors_sendStreams (streams : List ItemStream) (inFlight : InFlight) :
    Mirrors (sendStreams streams inFlight : ExchangeM P (Recorded L) (Option InFlight))
      (sendStreams streams inFlight) := by
  induction streams generalizing inFlight with
  | nil => exact mirrors_pure _
  | cons stream rest ih =>
    refine mirrors_bind (mirrors_sendStream stream inFlight) fun left => ?_
    cases left with
    | none => exact mirrors_pure _
    | some inFlight => exact ih inFlight

theorem mirrors_upload (mode : SyncMode) :
    Mirrors (upload mode : ExchangeM P (Recorded L) Unit) (upload mode) := by
  refine mirrors_bind (mirrors_sendStreams _ _) fun left => ?_
  cases left with
  | none => exact mirrors_pure _
  | some inFlight =>
    refine mirrors_bind (mirrors_call fun _ _ => ⟨rfl, rfl⟩) fun verdicts =>
      mirrors_bind (mirrors_route _ _) fun inFlight => mirrors_bind mirrors_isServerFull fun full => ?_
    have closes : ∀ _ : PUnit, Mirrors (do
        unless inFlight.commands.isEmpty do onStation (SourceM.note .unanswered) :
          ExchangeM P (Recorded L) Unit)
        (do unless inFlight.commands.isEmpty do onStation (SourceM.note .unanswered)) := by
      intro _
      split
      · exact mirrors_pure _
      · exact mirrors_onStation _
    cases full
    · exact closes ⟨⟩
    · exact mirrors_bind (mirrors_onStation _) closes

theorem mirrors_download :
    Mirrors (download : ExchangeM P (Recorded L) Unit) download :=
  mirrors_bind (mirrors_call fun _ _ => ⟨rfl, rfl⟩) fun _ =>
    mirrors_bind (mirrors_onStation _) fun _ => mirrors_call fun _ _ => ⟨rfl, rfl⟩

theorem mirrors_exchange (mode : SyncMode) :
    Mirrors (exchange mode : ExchangeM P (Recorded L) Unit) (exchange mode) := by
  unfold exchange
  split
  · split
    · exact mirrors_bind (mirrors_upload mode) fun _ => mirrors_download
    · exact mirrors_download
  · split
    · exact mirrors_bind (mirrors_upload mode) fun _ => mirrors_pure _
    · exact mirrors_pure _

end Exchanges

end ExchangeM

/-! ### Syncs -/

namespace Session

variable [Provider P] [ServerLink L]

omit [Provider P] [ServerLink L] in
theorem finish_plain (session : Session) (exchanged : Except SyncFailure Unit)
    (exchange : Exchange P (Recorded L)) :
    session.finish exchanged exchange.plain = (session.finish exchanged exchange).plain := by
  show session.finish exchanged { station := exchange.station, link := exchange.link.link } = _
  unfold finish
  dsimp only
  cases SourceM.finish exchange.station <;> rfl

theorem continueRun_plain (session : Session) (mode : SyncMode)
    (exchange : Exchange P (Recorded L)) :
    session.continueRun mode exchange.plain = (session.continueRun mode exchange).plain := by
  have mirrored := ExchangeM.mirrors_exchange mode exchange
  rw [continueRun, continueRun, mirrored]
  cases ExchangeM.exchange mode exchange with
  | ok value left => exact finish_plain _ _ _
  | error error left =>
    exact finish_plain (session.noteFailure error left.station).1 _
      { left with station := (session.noteFailure error left.station).2 }

theorem sync_recorded (session : Session) (mode : Option SyncMode) (exchange : Exchange P L) :
    (session.sync mode exchange.recorded).plain = session.sync mode exchange := by
  unfold sync Exchange.recorded
  dsimp only
  split
  · rfl
  · split
    · rfl
    · cases SourceM.start (mode.getD exchange.station.source.config.preferredMode)
        { exchange.station with source := exchange.station.source.shareFlag session.flag } with
      | ok value station =>
        exact (continueRun_plain session _ { station, link := { link := exchange.link } }).symm
      | error error station => rfl

/-- The calls that a sync makes of the link, with their replies. -/
def transcript (session : Session) (mode : Option SyncMode) (exchange : Exchange P L) :
    List LinkEvent :=
  (session.sync mode exchange.recorded).exchange.link.events

end Session

end Reconcile
