import Reconcile.Proofs.Session.Opened
import Reconcile.Provider.Memory
import Reconcile.Server.Queued

/-!
Confirmation. What a sync makes durable of a key was confirmed: the server accepted the item in the
first final verdict after its sending, or asked for a change of it that the provider made. Nothing is
made durable on the way, only at the end of a sync.
-/

namespace Reconcile

variable {P L : Type} [Provider P]

/-- A key that was sent, and whose first final verdict after its sending is a success. -/
def Accepted (rule : SuccessRule) (key : String) (steps : List UploadStep) : Prop :=
  key ∈ sentKeys steps ∧ ∃ verdict, answerTo key steps = some verdict ∧
    rule.isSuccess verdict.code = true

theorem accepted_of_confirmed {terms : Terms} {key : String} {steps : List UploadStep}
    (sure : confirmed terms key steps = true) : Accepted terms.rule key steps := by
  rw [confirmed_eq, Option.any_eq_true] at sure
  obtain ⟨item, sent, answered⟩ := sure
  rw [Option.any_eq_true] at answered
  obtain ⟨verdict, answer, success⟩ := answered
  obtain ⟨member, rfl⟩ := of_sentItem? sent
  rw [Bool.and_eq_true] at success
  exact ⟨List.mem_map_of_mem member, verdict, answer, success.1⟩

namespace ExchangeM

variable {before after : Exchange P (Recorded L)} {origin : Station P} {key : String}
  {base : List (String × Signature)} {items : List OutgoingItem}

theorem accepted_of_uploaded {result : Except SyncFailure (Option InFlight)}
    (uploaded : Uploaded before after origin base items result) (silent : before.sent = [])
    (distinct : (items.map OutgoingItem.key).Nodup)
    (changed : (after.ledger origin.terms base).entries.lookup key ≠ base.lookup key) :
    Accepted origin.terms.rule key (uploadSteps after.link.events) := by
  obtain ⟨sent, sends, part⟩ := uploaded.sent_first
  rw [silent, List.nil_append] at sends
  have once : (sentKeys (uploadSteps after.link.events)).Nodup := by
    show (after.sent.map OutgoingItem.key).Nodup
    rw [sends]
    exact distinct.sublist (part.sublist.map _)
  have idle : (Ledger.inFlight { entries := base }).waiting key = none := rfl
  obtain ⟨kept, -⟩ := Ledger.lookup_run (uploadSteps after.link.events) once idle
  apply accepted_of_confirmed
  rw [← Bool.not_eq_false]
  exact fun unsure => changed (kept unsure)

theorem Exchanged.accepted_or_written {mode : SyncMode} {outcome : Except SyncFailure Unit}
    (exchanged : Exchanged mode before after origin base items outcome) (silent : before.sent = [])
    (distinct : (items.map OutgoingItem.key).Nodup) :
    ∃ entries, after.station.Caches entries ∧ ∀ key, entries.lookup key ≠ base.lookup key →
      Accepted origin.terms.rule key (uploadSteps after.link.events) ∨
        key ∈ ServerChange.writtenKeys after.fetched origin.source.provider := by
  cases exchanged with
  | cut uploaded =>
    refine ⟨_, uploaded.caches, fun key changed => .inl ?_⟩
    exact accepted_of_uploaded uploaded silent distinct changed
  | @finished between result outcome uploaded finishes =>
    have written := finishes.fetched uploaded.unfetched uploaded.caches
    have kept : between.station.source.provider = origin.source.provider :=
      uploaded.within.provider (by simp)
    refine ⟨_, written.caches, fun key changed => ?_⟩
    rw [finishes.steps, ← kept]
    by_cases touched : key ∈ ServerChange.writtenKeys after.fetched between.station.source.provider
    · exact .inr touched
    · rw [ServerChange.lookup_writeAll _ _ _ touched] at changed
      exact .inl (accepted_of_uploaded uploaded silent distinct changed)

end ExchangeM

namespace Session

variable [ServerLink L] {session : Session} {mode : Option SyncMode} {exchange : Exchange P L}
  {cache : SignatureCache} {chosen : SyncMode}

theorem begun_accepts (cached : exchange.station.source.cache = .ok cache)
    (changes : chosen.sendsAll = false)
    (calm : (leaves (ExchangeM.exchange chosen) (session.begun chosen exchange)).Calm) :
    let left := leaves (ExchangeM.exchange chosen) (session.begun chosen exchange)
    ∃ entries, left.station.Caches entries ∧ ∀ key, entries.lookup key ≠ cache.snapshot.lookup key →
      Accepted exchange.station.source.config.success key (uploadSteps left.link.events) ∨
        key ∈ ServerChange.writtenKeys left.fetched exchange.station.source.provider := by
  intro left
  have silent : (session.begun chosen exchange).sent = [] := rfl
  cases sends : chosen.sends with
  | false =>
    exact (ends_silent cached sends calm).accepted_or_written silent List.nodup_nil
  | true =>
    cases enumerated : (Provider.keys exchange.station.source.provider).value with
    | ok replies =>
      refine (ends_incremental cached sends changes enumerated calm).accepted_or_written silent ?_
      exact (ItemStream.nodup_buckets cache.nodup_snapshot).sublist
        (ItemStream.keys_bucketItems_sublist ChangeBucket.all)
    | error refusal =>
      obtain ⟨last, failed, within⟩ := ExchangeM.exchange_unlisted
        (session.standing_begun chosen exchange) rfl cached sends enumerated
      have ends : left = { session.begun chosen exchange with station := last } :=
        leaves_of_error failed
      have caches : last.Caches cache.snapshot := by
        refine ⟨?_, cache, (within.cache (by simp)).trans cached, rfl⟩
        rw [within.report (by simp)]
        exact session.standing_begun chosen exchange
      exact ⟨_, ends ▸ caches, fun key changed => absurd rfl changed⟩

/-- A sync with changes only, of a source whose live entries are the durable ones, makes an entry
durable in two ways. Either its key was sent and accepted, in the first final verdict that came with
its sending or later; or a change of the server was made, which replaced or deleted the item of that
key, or added it under that key. -/
theorem sync_saves_confirmed (session : Session) (mode : Option SyncMode) (exchange : Exchange P L)
    {cache : SignatureCache} (cached : exchange.station.source.cache = .ok cache)
    (even : ∀ key, cache.snapshot.lookup key =
      (cache.durable exchange.station.host.disk).lookup key)
    (changes : exchange.station.source.modeFor mode ∈
      [SyncMode.twoWay, .oneWayFromClient, .oneWayFromServer]) :
    let after := (session.sync mode exchange).exchange.station
    let events := session.transcript mode exchange
    ∃ live, after.source.cache = .ok live ∧ ∀ key,
      (live.durable after.host.disk).lookup key ≠
          (cache.durable exchange.station.host.disk).lookup key →
        Accepted exchange.station.source.config.success key (uploadSteps events) ∨
          key ∈ ServerChange.writtenKeys (fetchedChanges events) exchange.station.source.provider := by
  intro after events
  obtain ⟨partly, keeping⟩ : (exchange.station.source.modeFor mode).sendsAll = false ∧
      exchange.station.source.modeFor mode ≠ .refreshFromServer := by
    generalize exchange.station.source.modeFor mode = chosen at changes
    revert changes
    cases chosen <;> decide
  by_cases begins : exchange.station.source.config.enabled = true ∧
      exchange.station.host.isRaised session.flag = false ∧
        exchange.station.source.report.standing ≠ .running
  · obtain ⟨enabled, lowered, closed⟩ := begins
    obtain ⟨record, noted, within, ended⟩ := sync_ends enabled lowered cached closed keeping
    have unsaved := (Unsaved.elementary.operative.carries_exchange _ (session.begun _ exchange)).trans
      (.of_within within List.not_mem_nil List.not_mem_nil)
    have disk : noted.host.disk = exchange.station.host.disk := unsaved.disk
    obtain ⟨held, caches, still⟩ := unsaved.durable cached
    obtain ⟨live, kept, saved⟩ := SourceM.durable_finish noted caches
    rw [← ended] at kept saved
    refine ⟨live, kept, fun key changed => ?_⟩
    rcases saved with same | ⟨calm, same⟩
    · rw [same, still, disk] at changed
      exact absurd rfl changed
    · obtain ⟨entries, left, only⟩ := begun_accepts cached partly (within.calm calm)
      obtain ⟨last, holds, listed⟩ := left.cached
      have whole : held.snapshot = entries := by
        rw [← within.cache List.not_mem_nil, caches] at holds
        cases holds
        exact listed
      rw [same, whole, ← even] at changed
      show Accepted _ _ (uploadSteps (session.transcript mode exchange)) ∨
        key ∈ ServerChange.writtenKeys (fetchedChanges (session.transcript mode exchange)) _
      rw [record]
      exact only key changed
  · obtain ⟨outcome, ended, left, kept, disk, same⟩ := session.sync_unbegun mode exchange.station
      fun enabled lowered _ _ => Decidable.byContradiction fun closed =>
        begins ⟨enabled, lowered, closed⟩
    have stays : after = left := congrArg (fun run => run.exchange.station) (same exchange.link)
    refine ⟨cache, ?_, fun key changed => absurd ?_ changed⟩
    · rw [stays, kept, cached]
    · rw [stays, disk]

/-! ### Verdicts that come too early, and twice -/

def hastyCache : SignatureCache := { backing := .memory (.ofList [("c", "old")]) }

/-- A source with two new items and a deleted one, whose live entries are the durable ones. -/
def hasty : Station MemoryProvider :=
  Source.make { name := "contact" } { items := [("a", []), ("b", [])] } (.ok hastyCache) {}

/-- A server that accepts an item before it is sent and another one by parts, refuses a deletion
before it accepts it, and then adds an item. -/
def hastily : AnswerQueue where
  sends :=
    [{ value := some [{ id := "b", code := StatusCode.ok }, { id := "a", code := StatusCode.chunkAccepted }] },
      { value := some [{ id := "a", code := StatusCode.added }] },
      { value := some [{ id := "c", code := StatusCode.failed }, { id := "c", code := StatusCode.ok }] }]
  fetches := [{ value := some [{ command := .add, key := "server" }] }]

def hastySession : Session := (make hasty.host).1

def hastyExchange : Exchange MemoryProvider AnswerQueue :=
  { station := { hasty with host := (make hasty.host).2 }, link := hastily }

theorem early_verdict_unsaved :
    let after := (hastySession.sync none hastyExchange).exchange.station
    let events := hastySession.transcript none hastyExchange
    ∃ live, after.source.cache = .ok live ∧
      (∀ key, (live.durable after.host.disk).lookup key ≠
          (hastyCache.durable hastyExchange.station.host.disk).lookup key →
        Accepted hastyExchange.station.source.config.success key (uploadSteps events) ∨
          key ∈ ServerChange.writtenKeys (fetchedChanges events)
            hastyExchange.station.source.provider) ∧
      live.durable after.host.disk = [("c", ⟨"old"⟩), ("a", .of []), ("local-1", .of [])] := by
  have saved : ((hastySession.sync none hastyExchange).exchange.station.source.cache.toOption.map
      fun live => live.durable (hastySession.sync none hastyExchange).exchange.station.host.disk) =
        some [("c", ⟨"old"⟩), ("a", .of []), ("local-1", .of [])] := by decide +kernel
  obtain ⟨live, held, only⟩ :=
    sync_saves_confirmed hastySession none hastyExchange rfl (fun _ => rfl) (by decide)
  rw [held, Except.toOption, Option.map_some, Option.some.injEq] at saved
  exact ⟨live, held, only, saved⟩

end Session

end Reconcile
