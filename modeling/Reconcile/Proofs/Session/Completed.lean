import Reconcile.Proofs.Session.Opened

/-!
Syncs that complete: the flag stays down, and every call of the link succeeds. Such a sync carries
out its whole exchange, and its result is that of its end.
-/

namespace Reconcile

variable {P L : Type} [Provider P] [ServerLink L]

namespace Session

variable {session : Session} {mode : Option SyncMode} {exchange : Exchange P L}
  {cache : SignatureCache}

theorem calm_exchange {chosen : SyncMode} {noted : Station P}
    (within : Within [] (leaves (ExchangeM.exchange chosen) (session.begun chosen exchange)).station noted)
    (lowered : (leaves SourceM.finish noted).host.isRaised session.flag = false) :
    (leaves (ExchangeM.exchange chosen) (session.begun chosen exchange)).Calm := by
  have closes : Stays (P := P) _ SourceM.finish := SourceM.stays_finish
  have carried := (Within.elementary.operative.carries_exchange chosen (session.begun chosen exchange)).flag
  refine within.calm (closes.calm ?_)
  have flag : (leaves SourceM.finish noted).source.flag = session.flag :=
    (closes noted).flag.trans (within.flag.trans carried)
  rw [Station.Calm, flag]
  exact lowered

/-- How a completed sync went: from the source with its record of the link at the beginning over
the upload to the end of the exchange. -/
structure Completed (session : Session) (mode : Option SyncMode) (exchange : Exchange P L)
    (base : List (String × Signature)) (items : List OutgoingItem)
    (uploaded after : Exchange P (Recorded L)) : Prop where
  sent : ∃ result, Uploaded (session.begun (exchange.station.source.modeFor mode) exchange) uploaded
    (session.begun (exchange.station.source.modeFor mode) exchange).station base items (.ok result)
  finished : ExchangeM.Finished (exchange.station.source.modeFor mode) uploaded after
  left : after = leaves (ExchangeM.exchange (exchange.station.source.modeFor mode))
    (session.begun (exchange.station.source.modeFor mode) exchange)
  calm : after.station.Calm
  events : after.link.events = session.transcript mode exchange
  outcome : (session.sync mode exchange).outcome = yields SourceM.finish after.station
  station : (session.sync mode exchange).exchange.station = leaves SourceM.finish after.station

namespace Completed

variable {base : List (String × Signature)} {items : List OutgoingItem}
  {uploaded after : Exchange P (Recorded L)}

theorem steps (completed : Completed session mode exchange base items uploaded after) :
    uploadSteps (session.transcript mode exchange) = uploadSteps uploaded.link.events := by
  rw [← completed.events]
  exact completed.finished.finishes.steps

theorem sent_first (completed : Completed session mode exchange base items uploaded after) :
    sentItems (uploadSteps (session.transcript mode exchange)) <+: items := by
  obtain ⟨result, sent⟩ := completed.sent
  rw [completed.steps]
  show uploaded.sent <+: items
  cases sent with
  | all tracks sent => rw [sent]; exact List.prefix_refl items
  | stopped tracks sent part full => rw [sent]; exact part

theorem books (completed : Completed session mode exchange base items uploaded after) :
    uploaded.station.Books base (Ledger.run exchange.station.terms { entries := base }
      (uploadSteps (session.transcript mode exchange))) := by
  obtain ⟨result, sent⟩ := completed.sent
  rw [completed.steps]
  exact sent.tracks.books

theorem provider_uploaded
    (completed : Completed session mode exchange base items uploaded after) :
    uploaded.station.source.provider = exchange.station.source.provider := by
  obtain ⟨result, sent⟩ := completed.sent
  exact sent.within.provider (by simp)

theorem sent_unfilled (completed : Completed session mode exchange base items uploaded after)
    (unfilled : (Ledger.run exchange.station.terms { entries := base }
      (uploadSteps (session.transcript mode exchange))).full = false) :
    sentItems (uploadSteps (session.transcript mode exchange)) = items := by
  have books := completed.books
  obtain ⟨result, sent⟩ := completed.sent
  rw [completed.steps] at unfilled books ⊢
  show uploaded.sent = items
  cases sent with
  | all tracks sent => exact sent
  | stopped tracks sent part full =>
    rw [books.full, unfilled] at full
    cases full

theorem sent_all (completed : Completed session mode exchange base items uploaded after)
    (accepted : allAccepted exchange.station.source.config.success
      (uploadSteps (session.transcript mode exchange)) = true) :
    sentItems (uploadSteps (session.transcript mode exchange)) = items :=
  completed.sent_unfilled (Ledger.full_run _ (fun _ waits => nomatch waits) accepted)

theorem fetched (completed : Completed session mode exchange base items uploaded after) :
    Written after.fetched uploaded.station after.station
      (Ledger.run exchange.station.terms { entries := base }
        (uploadSteps (session.transcript mode exchange))).entries := by
  obtain ⟨result, sent⟩ := completed.sent
  exact completed.finished.finishes.fetched sent.unfetched completed.books.caches

/-- A relation of the provider and its cache that holds after the upload holds in the end, if
changes of the server keep it. -/
theorem in_step {relation : P → List (String × Signature) → Prop} (kept : KeptInStep relation)
    (completed : Completed session mode exchange base items uploaded after)
    (related : relation exchange.station.source.provider
      (Ledger.run exchange.station.terms { entries := base }
        (uploadSteps (session.transcript mode exchange))).entries) :
    after.station.InStep relation := by
  obtain ⟨provider, ⟨begun, live, held, entries⟩, -⟩ := completed.fetched
  refine ⟨begun, live, held, ?_⟩
  rw [provider, entries, completed.provider_uploaded]
  exact kept.writeAll after.fetched related

theorem hands_over (completed : Completed session mode exchange base items uploaded after)
    (active : after.station.source.report.standing ≠ .resting)
    (held : after.station.source.cache = .ok cache)
    (saved : ∀ name cause, (session.sync mode exchange).outcome ≠ .error (.commitFailed name cause)) :
    ∃ committed, (session.sync mode exchange).exchange.station.source.cache = .ok committed ∧
      cache.commit after.station.host.disk =
        (.ok (), committed, (session.sync mode exchange).exchange.station.host.disk) := by
  rw [completed.station]
  obtain ⟨committed, kept, made, _⟩ := SourceM.finish_commits completed.calm held active
    fun name cause left failed => saved name cause (by rw [completed.outcome, yields, failed])
  exact ⟨committed, kept, made⟩

end Completed

/-- A sync that is not stopped and whose calls succeed carries out its whole exchange, and its
result is that of its end. -/
theorem sync_completes (enabled : exchange.station.source.config.enabled = true)
    (cached : exchange.station.source.cache = .ok cache)
    (closed : exchange.station.source.report.standing ≠ .running)
    (sends : (exchange.station.source.modeFor mode).sends = true)
    (succeeded : ∀ event ∈ session.transcript mode exchange, event.succeeded = true)
    (lowered : (session.sync mode exchange).exchange.station.host.isRaised session.flag = false)
    {base : List (String × Signature)} {items : List OutgoingItem}
    (ends : EndsIn Exchange.Calm (ExchangeM.exchange (exchange.station.source.modeFor mode))
      (session.begun (exchange.station.source.modeFor mode) exchange) fun outcome left =>
        ExchangeM.Exchanged (exchange.station.source.modeFor mode)
          (session.begun (exchange.station.source.modeFor mode) exchange) left
          (session.begun (exchange.station.source.modeFor mode) exchange).station base items outcome) :
    (leaves (ExchangeM.exchange (exchange.station.source.modeFor mode))
        (session.begun (exchange.station.source.modeFor mode) exchange)).Calm ∧
      ∃ uploaded after, Completed session mode exchange base items uploaded after := by
  have keeping : exchange.station.source.modeFor mode ≠ .refreshFromServer := by
    intro refreshes
    rw [refreshes] at sends
    cases sends
  have down := lowered_before enabled lowered
  obtain ⟨noted, ran⟩ := (opens_keeping enabled down cached closed keeping).ran
  have calm := calm_exchange ran.continued.within (ran.station ▸ lowered)
  have whole : ¬ (exchanged (exchange.station.source.modeFor mode) exchange
      (session.begun (exchange.station.source.modeFor mode) exchange).station).Broken := by
    rintro ⟨event, member, failed⟩
    have calls : event ∈ session.transcript mode exchange := ran.events ▸ member
    rw [succeeded event calls] at failed
    cases failed
  obtain ⟨outcome, between, result, uploaded, finishes⟩ := (ends calm).finished_of_unbroken whole
  have same := ran.continued.spares fun reason failed => by cases outcome.symm.trans failed
  refine ⟨calm, between, _, ⟨result, uploaded⟩, finishes, rfl, calm, ran.events, ?_, ?_⟩
  · rw [ran.outcome, same]
    exact congrArg (Except.bind · _) outcome
  · rw [ran.station, same]
    rfl

section Kinds

variable {replies : List (Reply String)}
  (enabled : exchange.station.source.config.enabled = true)
  (cached : exchange.station.source.cache = .ok cache)
  (closed : exchange.station.source.report.standing ≠ .running)
  (sends : (exchange.station.source.modeFor mode).sends = true)
  (enumerated : (Provider.keys exchange.station.source.provider).value = .ok replies)
  (succeeded : ∀ event ∈ session.transcript mode exchange, event.succeeded = true)
  (lowered : (session.sync mode exchange).exchange.station.host.isRaised session.flag = false)

include enabled cached closed sends enumerated succeeded lowered

theorem incremental_completes (changes : (exchange.station.source.modeFor mode).sendsAll = false) :
    SourceM.scanCancels exchange.station.source.provider replies cache.snapshot = false ∧
      ∃ uploaded after, Completed session mode exchange cache.snapshot
        (ItemStream.bucketItems exchange.station.source.provider
          (ChangeScan.partition (SourceM.scanAnswers exchange.station.source.provider) replies
            cache.snapshot) ChangeBucket.all) uploaded after := by
  have streams : ExchangeM.streamsOf (exchange.station.source.modeFor mode) =
      ChangeBucket.all.map .bucket := by
    rw [ExchangeM.streamsOf, changes]
    rfl
  obtain ⟨calm, completed⟩ := sync_completes enabled cached closed sends succeeded lowered
    (ends_incremental cached sends changes enumerated)
  have streamed := ExchangeM.calm_streams sends calm
  rw [streams] at streamed
  have active := session.standing_begun (exchange.station.source.modeFor mode) exchange
  exact ⟨ExchangeM.quiet_of_sendBuckets active rfl cached enumerated streamed, completed⟩

theorem full_completes (everything : (exchange.station.source.modeFor mode).sendsAll = true) :
    ∃ uploaded after, Completed session mode exchange []
      ((replies.map Reply.value).filterMap
        (ItemStream.full.item? exchange.station.source.provider)) uploaded after :=
  (sync_completes enabled cached closed sends succeeded lowered
    (ends_full cached sends everything enumerated)).2

end Kinds

end Session

end Reconcile
