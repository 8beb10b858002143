import Reconcile.Proofs.Session.Completed
import Reconcile.Proofs.Session.Filled
import Reconcile.Proofs.Source.Unsaved
import Reconcile.Provider.Memory
import Reconcile.Server.Queued

/-!
Delivery. What a sync sends and what it leaves follow from the final answer to each item and from the
changes of the server. In which calls the answers come, in what order, after what acknowledgments of
chunks and among what other verdicts, makes no difference.
-/

namespace Reconcile

/-- Every item that was sent got the given answer as its first final verdict, and none of these says
that the server is full. -/
def Answered (answer : String → Verdict) (steps : List UploadStep) : Prop :=
  ∀ key ∈ sentKeys steps,
    answerTo key steps = some (answer key) ∧ (answer key).code.isFull = false

instance (answer : String → Verdict) (steps : List UploadStep) : Decidable (Answered answer steps) :=
  inferInstanceAs (Decidable (∀ key ∈ sentKeys steps,
    answerTo key steps = some (answer key) ∧ (answer key).code.isFull = false))

namespace Ledger

variable {terms : Terms} {answer : String → Verdict} {first second steps : List UploadStep}

section Observations

variable {α : Type} {key : String} {read : Ledger → α} {sent : OutgoingItem → α → α}
  {settle : Command → Verdict → α → α} {ledger : Ledger}

theorem Observes.run_answered (observes : Observes terms key read sent settle)
    (one : Answered answer first) (two : Answered answer second)
    (same : sentItems first = sentItems second) (distinct : (sentKeys first).Nodup)
    (idle : ledger.inFlight.waiting key = none) :
    read (ledger.run terms first) = read (ledger.run terms second) := by
  have keys : sentKeys first = sentKeys second := congrArg (List.map OutgoingItem.key) same
  have items : sentItem? key first = sentItem? key second := by rw [sentItem?, sentItem?, same]
  rw [observes.run first distinct idle, observes.run second (keys ▸ distinct) idle, items]
  cases found : sentItem? key second with
  | none => rfl
  | some item =>
    obtain ⟨member, rfl⟩ := of_sentItem? found
    have sends : item.key ∈ sentKeys second := List.mem_map_of_mem member
    rw [(one _ (keys ▸ sends)).1, (two _ sends).1]

end Observations

theorem full_of_answered (answered : Answered answer steps) (distinct : (sentKeys steps).Nodup)
    (base : List (String × Signature)) :
    (Ledger.run terms { entries := base } steps).full = false := by
  rw [← Bool.not_eq_true, full_iff_filled]
  rintro ⟨earlier, item, later, verdict, rfl, final, full⟩
  obtain ⟨answers, room⟩ := answered _ (mem_sentKeys earlier later item)
  rw [answerTo_split distinct, final] at answers
  rw [← Option.some.inj answers, full] at room
  cases room

/-! ### The report -/

variable {one two : Ledger} {config : SourceSettings} {side : Side} {command : Command} {id : String}

theorem indexed_report (ledger : Ledger) (config : SourceSettings) :
    (ledger.report config).Indexed := by
  refine SourceReport.Indexed.receive (fun bucket member => ?_) _ _ _
  obtain ⟨-, rfl⟩ := Vector.mem_replicate.mp member
  exact Bucket.indexed_empty

theorem filter_serverFiling (ledger : Ledger) :
    (ledger.filings.map serverFiling).filter (fun filing => filing.about side command id) =
      ((ledger.about id).map serverFiling).filter fun filing => filing.about side command id := by
  rw [about, List.filter_map, List.filter_map, List.filter_filter]
  congr 2
  funext filing
  show Filing.about _ _ _ _ = (Filing.about _ _ _ _ && _)
  cases own : Filing.about (serverFiling filing) side command id with
  | false => rfl
  | true => exact (beq_iff_eq.mpr (Filing.about_iff.mp own).2.2).symm

theorem verdict?_report_congr (same : one.about id = two.about id) (filings : List Filing)
    (full : Bool) :
    ((one.report config).receive .client filings full).verdict? side command id =
      ((two.report config).receive .client filings full).verdict? side command id := by
  have shown : ∀ ledger : Ledger, (ledger.report config).verdict? side command id =
      (((ledger.about id).map serverFiling).filter fun filing =>
        filing.about side command id).foldl (SourceReport.shows side command)
          ((Ledger.report { entries := [] } config).verdict? side command id) := by
    intro ledger
    have blank := indexed_report { entries := [] } config
    rw [← filter_serverFiling]
    exact SourceReport.verdict?_receive blank _ _ _ _ _ _
  rw [SourceReport.verdict?_receive (indexed_report one config),
    SourceReport.verdict?_receive (indexed_report two config), shown one, shown two, same]

end Ledger

variable {P L M : Type} [Provider P] [ServerLink L] [ServerLink M]

namespace Session

variable {session : Session} {mode : Option SyncMode} {answer : String → Verdict}
  {changes : List ServerChange} {base : List (String × Signature)} {items : List OutgoingItem}

/-- The calls of a sync all succeeded, gave every item the given answer in the end, and brought the
given changes of the server. -/
structure Delivers (answer : String → Verdict) (changes : List ServerChange)
    (events : List LinkEvent) : Prop where
  succeeded : ∀ event ∈ events, event.succeeded = true
  answered : Answered answer (uploadSteps events)
  changes : fetchedChanges events = changes

/-- Two syncs that have the same result, and leave the same signatures in the cache and the same
verdicts in the report. -/
structure EndsAlike (here : SessionRun P L) (there : SessionRun P M) : Prop where
  outcome : here.outcome = there.outcome
  signatures : here.exchange.station.source.cache.map SignatureCache.get? =
    there.exchange.station.source.cache.map SignatureCache.get?
  verdicts : ∀ side command id, here.exchange.station.source.report.verdict? side command id =
    there.exchange.station.source.report.verdict? side command id

namespace Completed

section

variable {exchange : Exchange P L} {uploaded after : Exchange P (Recorded L)}
  (completed : Completed session mode exchange base items uploaded after)

include completed

theorem distinct_sent (distinct : (items.map OutgoingItem.key).Nodup) :
    (sentKeys (uploadSteps (session.transcript mode exchange))).Nodup :=
  distinct.sublist (completed.sent_first.sublist.map _)

theorem all_sent (distinct : (items.map OutgoingItem.key).Nodup)
    (delivers : Delivers answer changes (session.transcript mode exchange)) :
    sentItems (uploadSteps (session.transcript mode exchange)) = items :=
  completed.sent_unfilled
    (Ledger.full_of_answered delivers.answered (completed.distinct_sent distinct) base)

theorem brought (delivers : Delivers answer changes (session.transcript mode exchange)) :
    after.fetched = changes := by
  rw [Exchange.fetched, completed.events, delivers.changes]

theorem unsaved : Unsaved
    ((exchange.station.sharing session.flag).begun (exchange.station.source.modeFor mode))
      after.station := by
  rw [completed.left]
  exact Unsaved.elementary.operative.carries_exchange _ (session.begun _ exchange)

theorem report (delivers : Delivers answer changes (session.transcript mode exchange)) :
    after.station.source.report =
      ((Ledger.run exchange.station.terms { entries := base }
        (uploadSteps (session.transcript mode exchange))).report
          exchange.station.source.config).receive .client
        (ServerChange.filings exchange.station.source.config.success changes
          exchange.station.source.provider)
        (ServerChange.fillsAny changes exchange.station.source.provider) := by
  obtain ⟨result, sent⟩ := completed.sent
  have config : uploaded.station.source.config = exchange.station.source.config := sent.within.config
  rw [completed.fetched.report, completed.books.report, config, completed.provider_uploaded,
    completed.brought delivers]

theorem closes (delivers : Delivers answer changes (session.transcript mode exchange)) :
    ∃ held, after.station.source.cache = .ok held ∧
      held.snapshot = (ServerChange.writeAll changes exchange.station.source.provider
        (Ledger.run exchange.station.terms { entries := base }
          (uploadSteps (session.transcript mode exchange))).entries).2 ∧
      (session.sync mode exchange).outcome = SourceM.closing exchange.station.source.config.name
        (held.commit after.station.host.disk).1 after.station.source.report.fault ∧
      ∃ live, (session.sync mode exchange).exchange.station.source.cache = .ok live ∧
        live.snapshot = held.snapshot ∧
        (session.sync mode exchange).exchange.station.source.report.buckets =
          after.station.source.report.buckets := by
  have config : after.station.source.config = exchange.station.source.config := by
    rw [completed.left]
    exact (Within.elementary.operative.carries_exchange _ (session.begun _ exchange)).config
  obtain ⟨begun, held, cached, entries⟩ := completed.fetched.caches
  rw [completed.brought delivers, completed.provider_uploaded] at entries
  rw [completed.outcome, completed.station, ← config]
  exact ⟨held, cached, entries, SourceM.finish_closes completed.calm cached begun⟩

end

theorem alike {station : Station P} {link : L} {other : M} {cache : SignatureCache}
    {uploaded after : Exchange P (Recorded L)} {between last : Exchange P (Recorded M)}
    (first : Completed session mode { station, link } base items uploaded after)
    (second : Completed session mode { station, link := other } base items between last)
    (cached : station.source.cache = .ok cache) (distinct : (items.map OutgoingItem.key).Nodup)
    (one : Delivers answer changes (session.transcript mode { station, link }))
    (two : Delivers answer changes (session.transcript mode { station, link := other })) :
    EndsAlike (session.sync mode { station, link })
      (session.sync mode { station, link := other }) := by
  have same : sentItems (uploadSteps (session.transcript mode { station, link })) =
      sentItems (uploadSteps (session.transcript mode { station, link := other })) :=
    (first.all_sent distinct one).trans (second.all_sent distinct two).symm
  have once := first.distinct_sent distinct
  obtain ⟨held, holds, entries, ended, live, kept, whole, buckets⟩ := first.closes one
  obtain ⟨held', holds', entries', ended', live', kept', whole', buckets'⟩ := second.closes two
  have report := first.report one
  have report' := second.report two
  refine ⟨?_, ?_, fun side command id => ?_⟩
  · have fault : after.station.source.report.fault = last.station.source.report.fault := by
      rw [report, report', SourceReport.fault_receive, SourceReport.fault_receive,
        Ledger.fault_report, Ledger.fault_report, Ledger.full_of_answered one.answered once base,
        Ledger.full_of_answered two.answered (second.distinct_sent distinct) base]
    rw [ended, ended', fault, first.unsaved.commit_eq second.unsaved cached holds holds']
  · have lookups : ∀ key, live.get? key = live'.get? key := by
      intro key
      rw [SignatureCache.get?_eq_lookup, SignatureCache.get?_eq_lookup, whole, whole', entries,
        entries']
      exact ServerChange.lookup_writeAll_congr _ _ (fun key =>
        (Ledger.observes_entry _ key).run_answered one.answered two.answered same once rfl) key
    rw [kept, kept']
    exact congrArg Except.ok (funext lookups)
  · rw [SourceReport.verdict?_congr buckets, SourceReport.verdict?_congr buckets', report, report']
    exact Ledger.verdict?_report_congr ((Ledger.observes_filings _ id).run_answered one.answered
      two.answered same once rfl) _ _

end Completed

/-- Two syncs of one source over links that do not fail, bring the same changes of the server and
give every item that is sent the same first final verdict, none of them for lack of storage, send
the same items and have the same result, unless they are stopped. They leave the same signatures in
the cache and the same verdicts in the report. -/
theorem sync_delivery_independent (session : Session) (mode : Option SyncMode) (station : Station P)
    (link : L) (other : M) (sends : (station.source.modeFor mode).sends = true)
    {replies : List (Reply String)}
    (enumerated : (Provider.keys station.source.provider).value = .ok replies)
    (distinct : (replies.map Reply.value).Nodup)
    (one : Delivers answer changes (session.transcript mode { station, link }))
    (two : Delivers answer changes (session.transcript mode { station, link := other }))
    (lowered : (session.sync mode { station, link }).exchange.station.host.isRaised
      session.flag = false)
    (lowered' : (session.sync mode { station, link := other }).exchange.station.host.isRaised
      session.flag = false) :
    sentItems (uploadSteps (session.transcript mode { station, link })) =
        sentItems (uploadSteps (session.transcript mode { station, link := other })) ∧
      EndsAlike (session.sync mode { station, link })
        (session.sync mode { station, link := other }) := by
  by_cases begins : station.source.config.enabled = true ∧
      station.source.report.standing ≠ .running ∧ ∃ cache, station.source.cache = .ok cache
  · obtain ⟨enabled, closed, cache, cached⟩ := begins
    obtain ⟨base, items, single, ⟨_, _, first⟩, _, _, second⟩ :
        ∃ base items, (items.map OutgoingItem.key).Nodup ∧
          (∃ uploaded after, Completed session mode { station, link } base items uploaded after) ∧
          ∃ uploaded after, Completed session mode { station, link := other } base items uploaded
            after := by
      cases everything : (station.source.modeFor mode).sendsAll with
      | true =>
        exact ⟨_, _, distinct.sublist (ItemStream.keys_filterMap_sublist .full _),
          full_completes enabled cached closed sends enumerated one.succeeded lowered everything,
          full_completes enabled cached closed sends enumerated two.succeeded lowered' everything⟩
      | false =>
        exact ⟨_, _, (ItemStream.nodup_buckets cache.nodup_snapshot).sublist
            (ItemStream.keys_bucketItems_sublist ChangeBucket.all),
          (incremental_completes enabled cached closed sends enumerated one.succeeded lowered
            everything).2,
          (incremental_completes enabled cached closed sends enumerated two.succeeded lowered'
            everything).2⟩
    exact ⟨(first.all_sent single one).trans (second.all_sent single two).symm,
      first.alike second cached single one two⟩
  · obtain ⟨outcome, after, left, -, -, same⟩ := session.sync_unbegun mode station
      fun enabled _ cache cached => Decidable.byContradiction fun closed =>
        begins ⟨enabled, closed, cache, cached⟩
    have silent : ∀ {L : Type} [ServerLink L] (link : L),
        session.transcript mode { station, link } = [] := fun {L} _ link =>
      congrArg (fun run => run.exchange.link.events) (same ({ link } : Recorded L))
    rw [silent link, silent other, same link, same other]
    exact ⟨rfl, rfl, rfl, fun _ _ _ => rfl⟩

/-! ### Answers at once, and scattered -/

def sender : Station MemoryProvider :=
  Source.make { name := "contact" } { items := [("a", []), ("b", [])] }
    (.ok { backing := .memory (.ofList [("c", "old")]) }) {}

def sending : Session := (make sender.host).1

def sendingStation : Station MemoryProvider := { sender with host := (make sender.host).2 }

def finalAnswer (key : String) : Verdict :=
  if key = "b" then { id := key, code := StatusCode.failed, message := some "no" }
  else { id := key, code := StatusCode.ok }

def addition : ServerChange := { command := .add, key := "server" }

def prompt : AnswerQueue where
  sends :=
    [{ value := some [finalAnswer "a"] }, { value := some [finalAnswer "b"] },
      { value := some [finalAnswer "c"] }]
  fetches := [{ value := some [addition] }]

/-- A server that answers late and in another order: among acknowledgments of chunks, before an item
is sent, again with another code, and for an item that was never sent. -/
def scattered : AnswerQueue where
  sends :=
    [{ value := some [] },
      { value := some [{ id := "b", code := StatusCode.chunkAccepted }, finalAnswer "c"] },
      { value := some [finalAnswer "b", { id := "b", code := StatusCode.deviceFull }] }]
  conclusions :=
    [{ value := some [finalAnswer "c", { id := "x", code := StatusCode.deviceFull },
        { id := "a", code := StatusCode.chunkAccepted }, finalAnswer "a",
        { id := "a", code := StatusCode.failed }] }]
  fetches := [{ value := some [addition] }]

theorem scattered_answers_same :
    (sentItems (uploadSteps (sending.transcript none { station := sendingStation, link := prompt })) =
        sentItems (uploadSteps
          (sending.transcript none { station := sendingStation, link := scattered })) ∧
      EndsAlike (sending.sync none { station := sendingStation, link := prompt })
        (sending.sync none { station := sendingStation, link := scattered })) ∧
      sentKeys (uploadSteps
        (sending.transcript none { station := sendingStation, link := scattered })) =
          ["a", "b", "c"] := by
  have one : Delivers finalAnswer [addition]
      (sending.transcript none { station := sendingStation, link := prompt }) :=
    ⟨by decide +kernel, by decide +kernel, by decide +kernel⟩
  have two : Delivers finalAnswer [addition]
      (sending.transcript none { station := sendingStation, link := scattered }) :=
    ⟨by decide +kernel, by decide +kernel, by decide +kernel⟩
  exact ⟨sync_delivery_independent sending none sendingStation prompt scattered (by decide) rfl
    (by decide) one two (by decide +kernel) (by decide +kernel), by decide +kernel⟩

end Session

end Reconcile
