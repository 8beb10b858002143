import Reconcile.Proofs.Provider.Memory
import Reconcile.Proofs.Report.Faults
import Reconcile.Proofs.Session.Account
import Reconcile.Proofs.Session.Filled
import Reconcile.Server.Queued

/-!
Lack of storage in the report of a session. A sync reports one side at most to be full: a commit that
failed hides both sides, and local data that ran out of storage hides that the server did.
-/

namespace Reconcile

variable {P L : Type} [Provider P]

theorem HeardAll.filled {steps : List UploadStep} {events : List LinkEvent}
    (heard : HeardAll steps events) : Filled steps ↔ Filled (uploadSteps events) := by
  obtain ⟨failed, all⟩ := heard
  rw [all, filled_append_sends]

namespace Session

/-- The error that a sync reports in the end: the commit that failed, or else that the local data or
the server ran out of storage, in this order. -/
def finalFault (unsaved : Option StoreError) (client server : Bool) : Option Fault :=
  (unsaved.map SourceM.commitError).or
    (if client then some (SourceReport.fullFault .client)
      else if server then some (SourceReport.fullFault .server) else none)

section FinalFault

variable {report : SourceReport} {unsaved : Option StoreError} {client server : Bool}

theorem isFull_client (fault : report.fault = finalFault unsaved client server) :
    report.isFull .client = true ↔ client = true ∧ unsaved = none := by
  rw [SourceReport.isFull_iff, fault, finalFault]
  cases unsaved <;> cases client <;> cases server <;>
    simp [SourceReport.fullFault, SourceM.commitError]

theorem isFull_server (fault : report.fault = finalFault unsaved client server) :
    report.isFull .server = true ↔ server = true ∧ client = false ∧ unsaved = none := by
  rw [SourceReport.isFull_iff, fault, finalFault]
  cases unsaved <;> cases client <;> cases server <;>
    simp [SourceReport.fullFault, SourceM.commitError]

end FinalFault

variable [ServerLink L] {session : Session} {mode : Option SyncMode} {exchange : Exchange P L}
  {opened : Station P} {items : List OutgoingItem} {base : List (String × Signature)}
  {steps : List UploadStep} {taken : List ServerChange} {outcome : Except SyncFailure Unit}

theorem Opens.reported (opens : Opens session mode exchange opened)
    (account : Account (beginning exchange opened)
      (exchanged (exchange.station.source.modeFor mode) exchange opened) items outcome base steps taken) :
    let report :=
      (exchanged (exchange.station.source.modeFor mode) exchange opened).station.source.report
    report.source = exchange.station.source.config.name ∧ report.standing ≠ .resting ∧
      report.fault = finalFault none (ServerChange.fillsAny taken opened.source.provider)
        (Ledger.run opened.terms { entries := base } steps).full := by
  obtain ⟨between, posted, written⟩ := account.course
  have provider : between.source.provider = opened.source.provider :=
    posted.within.provider (by simp)
  have name : opened.source.config.name = exchange.station.source.config.name := by rw [opens.config]
  refine ⟨?_, written.caches.begun, ?_⟩
  · rw [written.report, SourceReport.source_receive, posted.report, Ledger.report,
      SourceReport.source_receive]
    exact name
  · rw [written.report, SourceReport.fault_receive, posted.report, Ledger.fault_report, provider]
    rfl

/-- A report shows of all errors the last one. So a sync reports the server to be full exactly when an
item was answered so, and neither a change of the server found the local data full later on nor the
commit failed; and the local data exactly when a change found it full and the commit did not fail. -/
theorem sync_reports_last_shortage (opens : Opens session mode exchange opened) :
    let run := session.sync mode exchange
    let events := session.transcript mode exchange
    let full := run.session.report.isFull exchange.station.source.config.name
    (∀ (blank : SourceReport) (steps : List ReportStep) (side : Side), blank.fault = none →
      ((blank.takeAll steps).isFull side = true ↔
        (SourceReport.faultsOf steps).getLast?.map Fault.kind = some (.full side))) ∧
    ∃ steps taken unsaved, steps <+: uploadSteps events ∧ taken <+: fetchedChanges events ∧
      (run.outcome ≠ .error .cancelled →
        (Filled steps ↔ Filled (uploadSteps events)) ∧ taken = fetchedChanges events) ∧
      SourceM.Saves opened.host.disk run.exchange.station unsaved ∧
      (full .server = true ↔ Filled steps ∧
        ServerChange.fillsAny taken opened.source.provider = false ∧ unsaved = none) ∧
      (full .client = true ↔
        ServerChange.fillsAny taken opened.source.provider = true ∧ unsaved = none) := by
  intro run events full
  refine ⟨fun blank steps side unmarked => SourceReport.isFull_takeAll unmarked steps, ?_⟩
  obtain ⟨items, base, steps, taken, account⟩ := opens.account
  obtain ⟨noted, ran⟩ := opens.ran
  obtain ⟨name, begun, fault⟩ := opens.reported account
  obtain ⟨kept, -⟩ := opens.unsaved ran.continued
  obtain ⟨cache, cached⟩ := opens.cached
  obtain ⟨live, held, -⟩ := kept.durable cached
  have reported : noted.source.report =
      (exchanged (exchange.station.source.modeFor mode) exchange opened).station.source.report :=
    ran.continued.within.report List.not_mem_nil
  rw [← reported] at name begun fault
  obtain ⟨unsaved, saves, final, called⟩ := SourceM.fault_finish held begun
  rw [fault] at final
  rw [name] at called
  rw [kept.disk, ← ran.station] at saves
  have shows : ∀ side, full side = (leaves SourceM.finish noted).source.report.isFull side := by
    intro side
    obtain ⟨earlier, pushed⟩ := ran.report
    show (session.sync mode exchange).session.report.isFull _ side = _
    rw [pushed, ← called, SessionReport.isFull_push]
  have takes := account.takes
  rw [ran.events] at takes
  refine ⟨steps, taken, unsaved, takes.early, takes.first, fun ended => ?_, saves, ?_, ?_⟩
  · have goes : yields (ExchangeM.exchange (exchange.station.source.modeFor mode))
        (beginning exchange opened) ≠ .error .cancelled := fun cancelled =>
      ended (ran.outcome.trans (congrArg (Except.bind · _) cancelled))
    obtain ⟨heard, all⟩ := takes.whole goes
    exact ⟨heard.filled, all⟩
  · rw [shows, isFull_server final, Ledger.full_iff_filled]
  · rw [shows, isFull_client final]

/-! ### Both sides out of storage -/

def stuffed : Station MemoryProvider :=
  Source.make { name := "contact" } { items := [("a", [])], full := true }
    (.ok { backing := .memory {} }) {}

def stuffedSession : Session := (make stuffed.host).1

/-- A server that has no room for the item, and one to add. -/
def stuffedExchange : Exchange MemoryProvider AnswerQueue :=
  { station := { stuffed with host := (make stuffed.host).2 }
    link :=
      { sends := [{ value := some [{ id := "a", code := StatusCode.deviceFull }] }]
        fetches := [{ value := some [{ command := .add, key := "server" }] }] } }

theorem full_server_hidden :
    let report := (stuffedSession.sync none stuffedExchange).session.report
    Filled (uploadSteps (stuffedSession.transcript none stuffedExchange)) ∧
      report.isFull "contact" .client = true ∧ report.isFull "contact" .server = false := by
  have opens : Opens stuffedSession none stuffedExchange
      ((stuffedExchange.station.sharing stuffedSession.flag).begun .twoWay) :=
    ⟨rfl, rfl, SourceM.start_ok rfl (by decide) (by decide)⟩
  have local_full : (stuffedSession.sync none stuffedExchange).session.report.isFull "contact"
      .client = true := by decide +kernel
  have steps : uploadSteps (stuffedSession.transcript none stuffedExchange) =
      [.send ⟨"a", some [], .added⟩, .hear { id := "a", code := StatusCode.deviceFull }] := by
    decide +kernel
  obtain ⟨-, _, taken, unsaved, -, -, -, -, server, client⟩ := sync_reports_last_shortage opens
  refine ⟨⟨[], _, _, _, steps, rfl, rfl⟩, local_full, Bool.eq_false_iff.mpr fun reported => ?_⟩
  obtain ⟨-, room, -⟩ := server.mp reported
  rw [(client.mp local_full).1] at room
  cases room

end Session

end Reconcile
