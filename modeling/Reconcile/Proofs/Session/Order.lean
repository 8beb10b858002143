import Reconcile.Proofs.Provider.Memory
import Reconcile.Proofs.Session.Account
import Reconcile.Proofs.Session.Completed
import Reconcile.Proofs.Session.Filled
import Reconcile.Proofs.Session.Undisturbed
import Reconcile.Server.Queued

/-!
The order of uploads. An incremental sync sends its items in one order, each of them at most once, and
stops only at a full server, at a failure or at a stop; a full server ends the upload and nothing else.
-/

namespace Reconcile

variable {P L : Type}

/-- The items that a change set sends: the readable ones of the added keys, then those of the updated
keys, and then the deletions. -/
def ChangeSet.outgoing [Provider P] (changes : ChangeSet) (provider : P) : List OutgoingItem :=
  changes.added.filterMap (readItem provider .added) ++
    changes.updated.filterMap (readItem provider .updated) ++
    changes.deleted.map fun key => { key, content := none, state := .deleted }

theorem ItemStream.bucketItems_all [Provider P] (provider : P) (changes : ChangeSet) :
    bucketItems provider changes ChangeBucket.all = changes.outgoing provider := by
  have deletions : changes.deleted.filterMap ((ItemStream.bucket .deleted).item? provider) =
      changes.deleted.map fun key => { key, content := none, state := .deleted } :=
    congrFun List.filterMap_eq_map changes.deleted
  simp only [bucketItems, ChangeBucket.all, ChangeBucket.keys, List.flatMap_cons, List.flatMap_nil,
    List.append_nil, deletions, ChangeSet.outgoing, List.append_assoc]
  rfl

theorem SyncMode.of_changes {mode : SyncMode} (changes : mode ∈ [SyncMode.twoWay, .oneWayFromClient]) :
    mode.sends = true ∧ mode.sendsAll = false ∧ mode ≠ .refreshFromServer := by
  revert changes
  cases mode <;> decide

theorem Timely.silent_of_filled {terms : Terms} {base : List (String × Signature)}
    {earlier later : List LinkEvent} (timely : Timely terms base (earlier ++ later))
    (filled : Filled (uploadSteps earlier)) : ∀ event ∈ later, event.posts = false := by
  intro event member
  rw [← Bool.not_eq_true]
  intro posts
  obtain ⟨between, rest, rfl⟩ := List.append_of_mem member
  have room := timely (earlier ++ between) event rest (by rw [List.append_assoc]) posts
  have known : (Ledger.run terms { entries := base } (uploadSteps earlier)).full = true :=
    Ledger.full_of_filled filled
  rw [uploadSteps, List.flatMap_append, Ledger.run_append, ← uploadSteps, ← uploadSteps,
    Ledger.full_of_full _ known] at room
  cases room

namespace Session

/-- The calls of a sync upload the given items in their order: the first of them, each once, and
nothing once the server has turned out to be full. -/
structure InOrder (items : List OutgoingItem) (events : List LinkEvent) : Prop where
  first : sentItems (uploadSteps events) <+: items
  once : (sentKeys (uploadSteps events)).Nodup
  stops : ∀ earlier later, events = earlier ++ later → Filled (uploadSteps earlier) →
    ∀ event ∈ later, event.posts = false

variable [Provider P]

theorem InOrder.of_account {before after : Exchange P (Recorded L)} {items : List OutgoingItem}
    {outcome : Except SyncFailure Unit} {base : List (String × Signature)} {steps : List UploadStep}
    {taken : List ServerChange} (account : Account before after items outcome base steps taken)
    (distinct : (items.map OutgoingItem.key).Nodup) : InOrder items after.link.events where
  first := account.sent
  once := distinct.sublist (account.sent.sublist.map _)
  stops earlier later split filled := by
    have timely := account.timely
    rw [split] at timely
    exact timely.silent_of_filled filled

/-- A sync took the given steps of its upload and the given changes of the server: they are in its
report and its cache, and the changes in the local data. -/
structure Took (before after : Station P) (base : List (String × Signature))
    (steps : List UploadStep) (taken : List ServerChange) : Prop where
  provider : after.source.provider = (ServerChange.writeAll taken before.source.provider
    (Ledger.run before.terms { entries := base } steps).entries).1
  cached : ∃ live, after.source.cache = .ok live ∧
    live.snapshot = (ServerChange.writeAll taken before.source.provider
      (Ledger.run before.terms { entries := base } steps).entries).2
  reported : after.source.report.buckets =
    (((Ledger.run before.terms { entries := base } steps).report before.source.config).receive .client
      (ServerChange.filings before.source.config.success taken before.source.provider)
      (ServerChange.fillsAny taken before.source.provider)).buckets

theorem Took.of_finish {before between noted : Station P} {base : List (String × Signature)}
    {steps : List UploadStep} {taken : List ServerChange}
    (written : Written taken between noted (Ledger.run before.terms { entries := base } steps).entries)
    (provider : between.source.provider = before.source.provider)
    (config : between.source.config = before.source.config)
    (report : between.source.report =
      (Ledger.run before.terms { entries := base } steps).report before.source.config) :
    Took before (leaves SourceM.finish noted) base steps taken := by
  have closes : Stays (P := P) _ SourceM.finish := SourceM.stays_finish
  obtain ⟨final, ⟨begun, cache, cached, entries⟩, received⟩ := written
  rw [provider] at final entries received
  rw [config, report] at received
  obtain ⟨live, held, kept, buckets⟩ := SourceM.finish_keeps cached begun
  refine ⟨?_, ⟨live, held, kept.trans entries⟩, ?_⟩
  · rw [(closes noted).provider (by simp), final]
  · rw [buckets, received]

/-- A sync where nothing failed: it sent all items unless the server was full; whether it was or
not, it took every verdict that came, fetched the changes of the server if its mode receives them,
applied and answered all of them, and committed its cache. -/
structure RunsThrough (before after : Station P) (mode : SyncMode)
    (base : List (String × Signature)) (items : List OutgoingItem) (events : List LinkEvent) : Prop where
  whole : ¬ Filled (uploadSteps events) → sentItems (uploadSteps events) = items
  receives : mode.receives = true → ∃ posts reply verdicts answer,
    events = posts ++ [.fetched reply, .answered verdicts answer]
  took : Took before after base (uploadSteps events) (fetchedChanges events)
  flushes : ∃ (cache : SignatureCache) (outcome : Except StoreError Unit) (live : SignatureCache),
    cache.snapshot = (ServerChange.writeAll (fetchedChanges events) before.source.provider
      (Ledger.run before.terms { entries := base } (uploadSteps events)).entries).2 ∧
    cache.commit before.host.disk = (outcome, live, after.host.disk) ∧ after.source.cache = .ok live

variable [ServerLink L] {session : Session} {mode : Option SyncMode} {exchange : Exchange P L}
  {base : List (String × Signature)} {items : List OutgoingItem}
  {uploaded after : Exchange P (Recorded L)} {opened : Station P} {steps : List UploadStep}
  {taken : List ServerChange}

theorem Opens.took (opens : Opens session mode exchange opened)
    (keeping : exchange.station.source.modeFor mode ≠ .refreshFromServer)
    (account : Account (beginning exchange opened)
      (exchanged (exchange.station.source.modeFor mode) exchange opened) items
      (yields (ExchangeM.exchange (exchange.station.source.modeFor mode)) (beginning exchange opened))
      base steps taken) :
    TakesIn (session.transcript mode exchange) (session.sync mode exchange).outcome steps taken ∧
      Took exchange.station (session.sync mode exchange).exchange.station base steps taken := by
  obtain ⟨noted, ran⟩ := opens.ran
  obtain ⟨between, posted, written⟩ := account.course
  obtain rfl := opens.kept keeping
  have takes := account.takes
  rw [ran.events] at takes
  rw [ran.station]
  refine ⟨⟨takes.early, takes.first, fun ended => takes.whole fun cancelled => ?_, takes.uploaded⟩, ?_⟩
  · exact ended (ran.outcome.trans (congrArg (Except.bind · _) cancelled))
  · exact .of_finish (written.then_within ran.continued.within) (posted.within.provider (by simp))
      posted.within.config posted.report

theorem Completed.runsThrough (completed : Completed session mode exchange base items uploaded after) :
    RunsThrough exchange.station (session.sync mode exchange).exchange.station
      (exchange.station.source.modeFor mode) base items (session.transcript mode exchange) := by
  have written := completed.fetched
  have unsaved := Unsaved.elementary.operative.carries_exchange (exchange.station.source.modeFor mode)
    (session.begun (exchange.station.source.modeFor mode) exchange)
  rw [← completed.left] at unsaved
  have disk : after.station.host.disk = exchange.station.host.disk := unsaved.disk
  have config : uploaded.station.source.config = exchange.station.source.config := by
    obtain ⟨result, sent⟩ := completed.sent
    exact sent.within.config
  rw [Exchange.fetched, completed.events] at written
  obtain ⟨active, live, held, entries⟩ := written.caches
  rw [completed.provider_uploaded] at entries
  obtain ⟨outcome, committed, made, kept⟩ := SourceM.finish_flushes completed.calm held active
  rw [disk] at made
  constructor
  case whole =>
    intro unfilled
    refine completed.sent_unfilled ?_
    rw [← Bool.not_eq_true, Ledger.full_iff_filled]
    exact unfilled
  case receives =>
    intro receives
    have finished := completed.finished
    rw [ExchangeM.Finished, if_pos receives] at finished
    obtain ⟨reply, changes, verdicts, answer, -, -, events⟩ := finished
    rw [completed.events, List.append_assoc] at events
    exact ⟨_, reply, verdicts, answer, events⟩
  all_goals rw [completed.station]
  case took =>
    exact .of_finish written completed.provider_uploaded config (config ▸ completed.books.report)
  case flushes => exact ⟨live, outcome, committed, entries, made, kept⟩

variable {cache : SignatureCache} {replies : List (Reply String)}

theorem Opens.account_changes (opens : Opens session mode exchange opened)
    (cached : exchange.station.source.cache = .ok cache)
    (enumerated : (Provider.keys exchange.station.source.provider).value = .ok replies)
    (changes : exchange.station.source.modeFor mode ∈ [SyncMode.twoWay, .oneWayFromClient]) :
    ∃ steps taken, Account (beginning exchange opened)
      (exchanged (exchange.station.source.modeFor mode) exchange opened)
      ((ChangeScan.partition (SourceM.scanAnswers exchange.station.source.provider) replies
        cache.snapshot).outgoing exchange.station.source.provider)
      (yields (ExchangeM.exchange (exchange.station.source.modeFor mode)) (beginning exchange opened))
      cache.snapshot steps taken := by
  obtain ⟨sends, partly, keeping⟩ := SyncMode.of_changes changes
  obtain rfl := opens.kept keeping
  rw [← ItemStream.bucketItems_all]
  exact opens.account_incremental sends partly cached enumerated

/-- An incremental sync sends the items of the change set that its scan finds, in their order, up to
a full server, a failure or a stop. Unless it is cancelled it takes every verdict that came, those after
a full server too; where there is no failure and no stop, a full server ends nothing but the upload; and
only a reply that cancels and a failure of the protocol raise the flag. -/
theorem sync_stops_when_full (opens : Opens session mode exchange opened)
    (cached : exchange.station.source.cache = .ok cache)
    (enumerated : (Provider.keys exchange.station.source.provider).value = .ok replies)
    (changes : exchange.station.source.modeFor mode ∈ [SyncMode.twoWay, .oneWayFromClient]) :
    let provider := exchange.station.source.provider
    let items := (ChangeScan.partition (SourceM.scanAnswers provider) replies
      cache.snapshot).outgoing provider
    let events := session.transcript mode exchange
    let after := (session.sync mode exchange).exchange.station
    InOrder items events ∧
      (∃ steps taken, TakesIn events (session.sync mode exchange).outcome steps taken ∧
        Took exchange.station after cache.snapshot steps taken) ∧
      ((∀ event ∈ events, event.succeeded = true) → after.host.isRaised session.flag = false →
        RunsThrough exchange.station after (exchange.station.source.modeFor mode) cache.snapshot items
          events) ∧
      ∀ holds : P → Prop, Silent holds → holds provider →
        (∀ event ∈ events, event.cancels = false ∧ ∀ reason, event.failure? ≠ some (.protocol reason)) →
        after.host.isRaised session.flag = false := by
  intro provider items events after
  have planned : ItemStream.bucketItems provider
      (ChangeScan.partition (SourceM.scanAnswers provider) replies cache.snapshot)
        ChangeBucket.all = items := ItemStream.bucketItems_all provider _
  have distinct : (items.map OutgoingItem.key).Nodup := by
    rw [← planned]
    exact (ItemStream.nodup_buckets cache.nodup_snapshot).sublist
      (ItemStream.keys_bucketItems_sublist ChangeBucket.all)
  obtain ⟨sends, partly, keeping⟩ := SyncMode.of_changes changes
  obtain ⟨_, ran⟩ := opens.ran
  obtain ⟨steps, taken, account⟩ := opens.account_changes cached enumerated changes
  have ordered := InOrder.of_account account distinct
  rw [ran.events] at ordered
  refine ⟨ordered, ⟨steps, taken, opens.took keeping account⟩, fun succeeded lowered => ?_,
    fun holds silent held quiet => opens.undisturbed keeping silent held quiet⟩
  have closed := (SourceM.cached_of_start opens.begins).1
  obtain ⟨-, uploaded, left, completed⟩ := incremental_completes opens.enabled cached closed sends
    enumerated succeeded lowered partly
  rw [planned] at completed
  exact completed.runsThrough

/-! ### A server that fills up -/

def crowded : Station MemoryProvider :=
  Source.make { name := "contact" } { items := [("a", []), ("b", [])] }
    (.ok { backing := .memory (.ofList [("c", "old")]) }) {}

def crowdedSession : Session := (make crowded.host).1

/-- A server without room for the second item, which accepts the first one with the same batch of
verdicts, and then adds an item. -/
def crowdedExchange : Exchange MemoryProvider AnswerQueue :=
  { station := { crowded with host := (make crowded.host).2 }
    link :=
      { sends := [{ value := some [] },
          { value := some [{ id := "b", code := StatusCode.deviceFull },
            { id := "a", code := StatusCode.ok }] }]
        fetches := [{ value := some [{ command := .add, key := "server" }] }] } }

/-- The deletion is not sent, the accepted item and the added one are cached, and the flag is down. -/
theorem full_server_stops_upload :
    let events := crowdedSession.transcript none crowdedExchange
    let after := (crowdedSession.sync none crowdedExchange).exchange.station
    InOrder [⟨"a", some [], .added⟩, ⟨"b", some [], .added⟩, ⟨"c", none, .deleted⟩] events ∧
      sentKeys (uploadSteps events) = ["a", "b"] ∧
      RunsThrough crowdedExchange.station after .twoWay [("c", ⟨"old"⟩)]
        [⟨"a", some [], .added⟩, ⟨"b", some [], .added⟩, ⟨"c", none, .deleted⟩] events ∧
      (after.source.cache.toOption.map fun live => live.durable after.host.disk) =
        some [("c", ⟨"old"⟩), ("a", .of []), ("local-1", .of [])] ∧
      after.host.isRaised crowdedSession.flag = false := by
  have opens : Opens crowdedSession none crowdedExchange
      ((crowdedExchange.station.sharing crowdedSession.flag).begun .twoWay) :=
    ⟨rfl, rfl, SourceM.start_ok rfl (by decide) (by decide)⟩
  have succeeded : ∀ event ∈ crowdedSession.transcript none crowdedExchange,
      event.succeeded = true := by decide +kernel
  have quiet : ∀ event ∈ crowdedSession.transcript none crowdedExchange,
      event.cancels = false ∧ event.failure? = none := by decide +kernel
  obtain ⟨ordered, -, goes, down⟩ := sync_stops_when_full opens rfl rfl (by decide)
  have lowered := down (fun _ => True) MemoryProvider.silent trivial fun event member =>
    ⟨(quiet event member).1, fun reason failed => by
      rw [(quiet event member).2] at failed
      cases failed⟩
  exact ⟨ordered, by decide +kernel, goes succeeded lowered, by decide +kernel, lowered⟩

end Session

end Reconcile
