import Reconcile.Proofs.Session.Calls
import Reconcile.Proofs.Session.Composed
import Reconcile.Proofs.Session.Interrupted
import Reconcile.Proofs.Source.Silent

/-!
Undisturbed syncs: no reply of the provider or of the link asks for a stop. The flag of the session
stays down then, whatever the link has to say.
-/

namespace Reconcile

variable {P L α β : Type}

def LinkEvent.cancels : LinkEvent → Bool
  | sent _ reply | concluded reply => reply.cancels
  | fetched reply => reply.cancels
  | answered _ reply => reply.cancels

variable {holds : P → Prop}

namespace RestsOver

variable [Provider P] (silent : Silent holds)

include silent

theorem applyChange (change : ServerChange) :
    RestsOver holds (ExchangeM.applyChange change : SourceM P (Option StatusCode)) := by
  unfold ExchangeM.applyChange
  dsimp only
  split
  · exact (applyAdd silent _ _).bind fun _ => pure _
  · exact (applyReplace silent _ _).bind fun _ => pure _
  · exact (applyDelete silent _).bind fun _ => pure _
  · exact (note _).bind fun _ => pure _
  · exact (note _).bind fun _ => pure _

theorem applyChanges (changes : List ServerChange) :
    RestsOver holds (ExchangeM.applyChanges changes : SourceM P (List Verdict)) := by
  induction changes with
  | nil => exact pure _
  | cons change rest ih =>
    exact poll.bind fun _ => (recordTransfer _ _ _).bind fun _ =>
      (applyChange silent change).bind fun _ => ih.bind fun _ => pure _

theorem stationStep {operation : SourceM P α} (step : ExchangeM.StationStep operation) :
    RestsOver holds operation := by
  cases step with
  | note notice => exact note notice
  | transfer key => exact recordTransfer _ _ _
  | verdict command verdict => exact takeVerdict silent command verdict
  | first stream => exact first silent stream
  | next stream => exact next silent stream
  | changes changes => exact applyChanges silent changes

end RestsOver

namespace ExchangeM

/-- An operation over a silent provider raises no flag unless the reply to one of its calls asks for
that, and fails of the protocol only as one of its calls did. -/
def RestsThrough (holds : P → Prop) (operation : ExchangeM P (Recorded L) α) : Prop :=
  ∀ exchange, ∃ more, (leaves operation exchange).link.events = exchange.link.events ++ more ∧
    ((∀ event ∈ more, event.cancels = false) → exchange.station.Rests holds →
      (leaves operation exchange).station.Rests holds ∧
        ∀ reason, yields operation exchange = .error (.protocol reason) →
          ∃ event ∈ more, event.failure? = some (.protocol reason))

theorem RestsThrough.bind {operation : ExchangeM P (Recorded L) α}
    {next : α → ExchangeM P (Recorded L) β} (first : RestsThrough holds operation)
    (second : ∀ value, RestsThrough holds (next value)) : RestsThrough holds (operation >>= next) := by
  intro exchange
  obtain ⟨early, adds, rests⟩ := first exchange
  cases ran : operation exchange with
  | error error left =>
    have failed := bind_of_error ran next
    rw [leaves_of_error ran] at adds rests
    rw [yields_of_error ran] at rests
    rw [leaves_of_error failed, yields_of_error failed]
    refine ⟨early, adds, fun quiet began => ?_⟩
    obtain ⟨kept, surfaces⟩ := rests quiet began
    exact ⟨kept, fun reason same => surfaces reason (congrArg Except.error (Except.error.inj same))⟩
  | ok value left =>
    rw [leaves_of_ok ran] at adds rests
    obtain ⟨late, further, later⟩ := second value left
    have goes : yields (operation >>= next) exchange = yields (next value) left := by
      rw [yields, bind_of_ok ran, yields]
    rw [leaves_bind_of_ok ran, goes]
    refine ⟨early ++ late, by rw [further, adds, List.append_assoc], fun quiet began => ?_⟩
    obtain ⟨kept, -⟩ := rests (fun event member => quiet event (List.mem_append_left _ member)) began
    obtain ⟨ended, surfaces⟩ :=
      later (fun event member => quiet event (List.mem_append_right _ member)) kept
    refine ⟨ended, fun reason failed => ?_⟩
    obtain ⟨event, member, caused⟩ := surfaces reason failed
    exact ⟨event, List.mem_append_right _ member, caused⟩

theorem RestsThrough.pure (value : α) :
    RestsThrough holds (Pure.pure value : ExchangeM P (Recorded L) α) :=
  fun _ => ⟨[], (List.append_nil _).symm, fun _ began => ⟨began, fun _ => nofun⟩⟩

theorem RestsThrough.onStation {operation : SourceM P α} (rests : RestsOver holds operation) :
    RestsThrough holds (ExchangeM.onStation operation : ExchangeM P (Recorded L) α) := by
  intro exchange
  refine ⟨[], by rw [leaves_onStation, List.append_nil], fun _ began => ?_⟩
  obtain ⟨-, kept, other⟩ := ends_onStation (rests exchange.station began)
  exact ⟨kept, fun reason failed => absurd failed (other reason)⟩

theorem RestsThrough.call {action : Recorded L → String → Reply (Except SyncFailure α) × Recorded L}
    {event : Reply (Except SyncFailure α) → LinkEvent} (records : Records action event)
    (same : ∀ reply, (event reply).cancels = reply.cancels)
    (fails : ∀ reply, (event reply).failure? = LinkEvent.failure?.failureOf reply.value) :
    RestsThrough holds (call action : ExchangeM P (Recorded L) α) := by
  intro exchange
  obtain ⟨adds, -⟩ := records exchange.link exchange.station.source.config.name
  rw [leaves_call, yields_call]
  refine ⟨_, adds, fun quiet began => ?_⟩
  have down := quiet _ List.mem_cons_self
  rw [same] at down
  dsimp only
  rw [down]
  refine ⟨began, fun reason failed => ⟨_, List.mem_cons_self, ?_⟩⟩
  rw [fails, failed]
  rfl

theorem restsThrough_exchange [Provider P] [ServerLink L] (silent : Silent holds) (mode : SyncMode) :
    RestsThrough holds (ExchangeM.exchange mode : ExchangeM P (Recorded L) Unit) := by
  have compositional : Compositional (P := P) (L := Recorded L) (RestsThrough holds) :=
    { pure := RestsThrough.pure
      bind := RestsThrough.bind
      reads := fun holds exchange => holds exchange exchange
      onStation := fun step => .onStation (RestsOver.stationStep silent step)
      send := fun item => .call (records_send item) (fun _ => rfl) fun _ => rfl
      conclude := .call records_conclude (fun _ => rfl) fun _ => rfl
      fetch := .call records_fetch (fun _ => rfl) fun _ => rfl
      answer := fun verdicts => .call (records_answer verdicts) (fun _ => rfl) fun _ => rfl }
  exact compositional.exchange mode

end ExchangeM

namespace Session

variable [Provider P] [ServerLink L] {session : Session} {mode : Option SyncMode}
  {exchange : Exchange P L} {opened : Station P}

omit [ServerLink L] in
theorem Opens.calm (opens : Opens session mode exchange opened)
    (keeping : exchange.station.source.modeFor mode ≠ .refreshFromServer) : opened.Calm := by
  rw [opens.kept keeping]
  have down : (exchange.station.sharing session.flag).Calm := opens.lowered
  exact Station.calm_begun (fun _ => down) _

/-- An undisturbed sync that keeps the local data leaves the flag down, unless a call of its link fails
of the protocol. -/
theorem Opens.undisturbed (opens : Opens session mode exchange opened)
    (keeping : exchange.station.source.modeFor mode ≠ .refreshFromServer) (silent : Silent holds)
    (held : holds exchange.station.source.provider)
    (quiet : ∀ event ∈ session.transcript mode exchange,
      event.cancels = false ∧ ∀ reason, event.failure? ≠ some (.protocol reason)) :
    (session.sync mode exchange).exchange.station.host.isRaised session.flag = false := by
  obtain ⟨noted, ran⟩ := opens.ran
  obtain ⟨more, adds, rests⟩ := ExchangeM.restsThrough_exchange silent
    (exchange.station.source.modeFor mode) (beginning exchange opened)
  have records : session.transcript mode exchange = more := by
    rw [← ran.events, exchanged, adds]
    rfl
  rw [records] at quiet
  have provider : opened.source.provider = exchange.station.source.provider := by
    rw [opens.kept keeping]
    rfl
  obtain ⟨left, surfaces⟩ :=
    rests (fun event member => (quiet event member).1) ⟨provider ▸ held, opens.calm keeping⟩
  have spared : noted = (leaves _ (beginning exchange opened)).station :=
    ran.continued.spares fun reason failed => by
      obtain ⟨event, member, caused⟩ := surfaces reason failed
      exact (quiet event member).2 reason caused
  have closes : Stays (P := P) _ SourceM.finish := SourceM.stays_finish
  obtain ⟨⟨-, calm⟩, -⟩ := RestsOver.finish noted (spared ▸ left)
  rw [Station.Calm, (closes noted).flag, (opens.unsaved ran.continued).2] at calm
  rw [ran.station]
  exact calm

end Session

end Reconcile
