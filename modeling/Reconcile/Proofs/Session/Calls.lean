import Reconcile.Proofs.Session.Carried
import Reconcile.Proofs.Source.Streams

/-!
Calls of a recorded link. As long as the flag stays down, a call leaves the source alone and adds
its event to the record, whether it succeeds or fails; an operation on the source leaves the link
alone.
-/

namespace Reconcile

variable {P L α β : Type}

def Exchange.Calm (exchange : Exchange P L) : Prop := exchange.station.Calm

def Exchange.Broken (exchange : Exchange P (Recorded L)) : Prop :=
  ∃ event ∈ exchange.link.events, event.succeeded = false

namespace ExchangeM

/-- What ends calm was calm before each part of an exchange. -/
theorem Carries.calm {parts : List Part} {operation : ExchangeM P L α}
    (carries : Carries (Within parts) operation) : Preserves Exchange.Calm operation :=
  fun exchange calm => (carries exchange).calm calm

def Records (action : Recorded L → String → Reply (Except SyncFailure α) × Recorded L)
    (event : Reply (Except SyncFailure α) → LinkEvent) : Prop :=
  ∀ link source, (action link source).2.events = link.events ++ [event (action link source).1] ∧
    (event (action link source).1).succeeded = (action link source).1.value.isOk

section Steps

variable {exchange : Exchange P L}

theorem ends_onStation {operation : SourceM P α} {result : Except SyncFailure α → Station P → Prop}
    (ends : Ends operation exchange.station result) :
    Ends (onStation operation) exchange fun outcome left =>
      left.link = exchange.link ∧ result outcome left.station := by
  unfold Ends leaves yields at *
  rw [onStation]
  cases ran : operation exchange.station with
  | ok value left =>
    rw [ran] at ends
    exact ⟨rfl, ends⟩
  | error error left =>
    rw [ran] at ends
    exact ⟨rfl, ends⟩

theorem gives_onStation {operation : SourceM P α} {result : α → Station P → Prop}
    (gives : Gives Station.Calm operation exchange.station result) :
    Gives Exchange.Calm (onStation operation) exchange fun value left =>
      left.link = exchange.link ∧ result value left.station := by
  refine (ends_onStation gives).mono ?_
  rintro (error | value) left ⟨link, holds⟩
  · exact holds
  · exact ⟨link, holds⟩

theorem isServerFull_eq (exchange : Exchange P L) :
    isServerFull exchange = .ok (exchange.station.source.report.isFull .server) exchange := rfl

theorem note_eq (notice : Notice) (exchange : Exchange P L) :
    onStation (SourceM.note notice) exchange =
      .ok () { exchange with station := exchange.station.noted notice } := rfl

end Steps

theorem yields_call (action : L → String → Reply (Except SyncFailure α) × L)
    (exchange : Exchange P L) :
    yields (call action) exchange =
      (action exchange.link exchange.station.source.config.name).1.value := by
  rw [yields, call_eq]
  dsimp only
  cases (action exchange.link exchange.station.source.config.name).1.value <;> rfl

variable {exchange : Exchange P (Recorded L)}
  {action : Recorded L → String → Reply (Except SyncFailure α) × Recorded L}
  {event : Reply (Except SyncFailure α) → LinkEvent}

theorem call_ends (records : Records action event) :
    Ends (call action) exchange fun outcome left =>
      Within [] exchange.station left.station ∧ ∃ reply, reply.value = outcome ∧
        left.link.events = exchange.link.events ++ [event reply] := by
  obtain ⟨adds, -⟩ := records exchange.link exchange.station.source.config.name
  rw [Ends, leaves_call, yields_call]
  exact ⟨exchange.station.within_heard _, _, rfl, adds⟩

theorem ends_call (records : Records action event) :
    EndsIn Exchange.Calm (call action) exchange fun outcome left =>
      left.station = exchange.station ∧ ∃ reply, reply.value = outcome ∧
        left.link.events = exchange.link.events ++ [event reply] ∧
        (event reply).succeeded = outcome.isOk := by
  intro calm
  rw [leaves_call] at calm
  obtain ⟨adds, succeeded⟩ := records exchange.link exchange.station.source.config.name
  rw [leaves_call, yields_call]
  exact ⟨SourceM.heard_of_calm calm, _, rfl, adds, succeeded⟩

section Links

variable [ServerLink L]

theorem records_send (item : OutgoingItem) :
    Records (fun link : Recorded L => (ServerLink.send link · item)) (.sent item) :=
  fun _ _ => ⟨rfl, rfl⟩

theorem records_conclude :
    Records (ServerLink.conclude : Recorded L → String → _ × _) .concluded := fun _ _ => ⟨rfl, rfl⟩

theorem records_fetch :
    Records (ServerLink.fetch : Recorded L → String → _ × _) .fetched := fun _ _ => ⟨rfl, rfl⟩

theorem records_answer (verdicts : List Verdict) :
    Records (fun link : Recorded L => (ServerLink.answer link · verdicts)) (.answered verdicts) :=
  fun _ _ => ⟨rfl, rfl⟩

end Links

end ExchangeM

theorem Exchange.broken_add {exchange left : Exchange P (Recorded L)} {event : LinkEvent}
    (events : left.link.events = exchange.link.events ++ [event])
    (failed : event.succeeded = false) : left.Broken :=
  ⟨event, by rw [events]; exact List.mem_concat_self, failed⟩

end Reconcile
