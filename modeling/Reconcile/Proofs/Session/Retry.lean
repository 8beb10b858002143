import Reconcile.Proofs.Provider.Memory
import Reconcile.Proofs.Session.Completed
import Reconcile.Server.Queued

/-!
Retries. What the server did not confirm is found again by the next incremental sync, in the same
order, and nothing else of what was found before.
-/

namespace Reconcile

variable {P L : Type} [Provider P] {replies : List (Reply String)}
  {previous : List (String × Signature)}

namespace ExchangeM

theorem confirms_run {station : Station P} {steps : List UploadStep}
    (distinct : (previous.map Prod.fst).Nodup)
    (sent : sentItems steps <+: ItemStream.bucketItems station.source.provider
      (ChangeScan.partition (SourceM.scanAnswers station.source.provider) replies previous)
      ChangeBucket.all) :
    ChangeScan.Confirms (SourceM.scanAnswers station.source.provider) replies
      (fun key => confirmed station.terms key steps) previous
      (Ledger.run station.terms { entries := previous } steps).entries := by
  have once : (sentKeys steps).Nodup :=
    (ItemStream.nodup_buckets distinct).sublist
      ((sent.sublist.map _).trans (ItemStream.keys_bucketItems_sublist ChangeBucket.all))
  have idle : ∀ key, ({ entries := previous } : Ledger).inFlight.waiting key = none := fun _ => rfl
  have kinds := fun item (member : item ∈ sentItems steps) =>
    ItemStream.deleted_iff_missing (sent.subset member)
  refine ⟨fun key => (Ledger.lookup_run steps once (idle key)).1, fun key listed sure => ?_,
    fun key absent sure => ?_, ?_⟩
  · obtain ⟨item, member, rfl, signs, entry⟩ := Ledger.lookup_run steps once (idle key) |>.2 sure
    have kept : item.state ≠ .deleted := fun deleted => (kinds item member).mp deleted listed
    obtain ⟨signature, signed⟩ := Option.isSome_iff_exists.mp (signs kept)
    rw [entry, if_neg kept, signed, SourceM.scanned_of_readable signed]
  · obtain ⟨item, member, rfl, _, entry⟩ := Ledger.lookup_run steps once (idle key) |>.2 sure
    rw [entry, if_pos ((kinds item member).mpr absent)]
  · refine Ledger.missing_run steps (fun _ _ waits => nomatch waits) fun item member kept => ?_
    exact Decidable.not_not.mp (mt (kinds item member).mpr kept)

end ExchangeM

theorem SourceM.scanCancels_confirmed {provider : P} {sure : String → Bool}
    {after : List (String × Signature)}
    (quiet : scanCancels provider replies previous = false)
    (confirms : ChangeScan.Confirms (scanAnswers provider) replies sure previous after)
    (signed : SignsQuietly provider previous after) :
    scanCancels provider replies after = false := by
  rw [scanCancels, Bool.or_eq_false_iff, ChangeScan.cancels, Bool.or_eq_false_iff,
    Bool.or_eq_false_iff] at quiet ⊢
  obtain ⟨enumerates, ⟨hands, signs⟩, asks⟩ := quiet
  refine ⟨enumerates, ⟨hands, ?_⟩, ?_⟩
  · rw [List.any_eq_false] at signs ⊢
    intro key listed cancels
    rw [Bool.and_eq_true] at cancels
    rcases signed key cancels.1 with known | quiet
    · exact signs key listed (Bool.and_eq_true _ _ ▸ ⟨known, cancels.2⟩)
    · exact Bool.false_ne_true (quiet.symm.trans cancels.2)
  · rw [List.any_eq_false] at asks ⊢
    exact fun entry member => asks entry (confirms.order.subset member)

namespace Session

variable [ServerLink L]

/-- The next incremental sync finds again, in the same order, what the server did not confirm. The
sync before it was not stopped, had no change of the server to apply, and was made durable; its
calls all succeeded, whatever verdicts they gave. -/
theorem sync_retries_unconfirmed (session : Session) (mode : Option SyncMode)
    (exchange : Exchange P L) {cache : SignatureCache} {later : Station P} {again : SyncMode}
    (enabled : exchange.station.source.config.enabled = true)
    (cached : exchange.station.source.cache = .ok cache)
    (closed : exchange.station.source.report.standing ≠ .running)
    (chosen : exchange.station.source.modeFor mode = .twoWay ∨
      exchange.station.source.modeFor mode = .oneWayFromClient)
    (enumerated : (Provider.keys exchange.station.source.provider).value = .ok replies)
    (succeeded : ∀ event ∈ session.transcript mode exchange, event.succeeded = true)
    (unchanging : ∀ event ∈ session.transcript mode exchange, event.changes = [])
    (lowered : (session.sync mode exchange).exchange.station.host.isRaised session.flag = false)
    (saved : ∀ name cause, (session.sync mode exchange).outcome ≠ .error (.commitFailed name cause))
    (follows : Follows (session.sync mode exchange).exchange.station later)
    (fixed : later.source.provider = exchange.station.source.provider)
    (keeping : again ≠ .refreshFromServer) :
    let unconfirmed := fun key =>
      !confirmed exchange.station.terms key (uploadSteps (session.transcript mode exchange))
    ∃ first next,
      SourceM.foundChanges (exchange.station.source.modeFor mode)
        (exchange.station.sharing session.flag) = some first ∧
      SourceM.foundChanges again later = some next ∧
      next.added = first.added.filter unconfirmed ∧
      next.updated = first.updated.filter unconfirmed ∧
      next.deleted = first.deleted.filter unconfirmed := by
  obtain ⟨sends, changes, refreshes⟩ : (exchange.station.source.modeFor mode).sends = true ∧
      (exchange.station.source.modeFor mode).sendsAll = false ∧
      exchange.station.source.modeFor mode ≠ .refreshFromServer := by
    rcases chosen with twoWay | fromClient
    · rw [twoWay]; decide
    · rw [fromClient]; decide
  obtain ⟨quiet, uploaded, after, completed⟩ :=
    incremental_completes enabled cached closed sends enumerated succeeded lowered changes
  -- The download had nothing to apply, so that the source ends as the upload left it.
  have unchanged : after.station = uploaded.station := by
    have finished := completed.finished
    unfold ExchangeM.Finished at finished
    split at finished
    · obtain ⟨reply, fetched, verdicts, answer, replied, applied, events⟩ := finished
      have nothing := unchanging (.fetched reply) (by rw [← completed.events, events]; simp)
      rw [LinkEvent.changes, replied] at nothing
      obtain rfl : fetched = [] := nothing
      exact (EStateM.Result.ok.inj applied).2.symm
    · rw [finished]
  have books := completed.books
  obtain ⟨live, held, entries⟩ := books.cached
  obtain ⟨committed, kept, made⟩ :=
    completed.hands_over (unchanged ▸ books.begun) (unchanged ▸ held) saved
  obtain ⟨opened, reads, same⟩ := follows.cached kept made
  have confirms := ExchangeM.confirms_run cache.nodup_snapshot completed.sent_first
  have quietly :=
    SourceM.scanCancels_confirmed quiet confirms (completed.provider_uploaded ▸ books.quiet)
  have first := SourceM.foundChanges_eq (exchange.station.sharing session.flag) cached closed
    (fun _ => lowered_before enabled lowered) enumerated quiet refreshes
  rw [← fixed] at enumerated quietly
  rw [← entries, ← same] at quietly
  have next := SourceM.foundChanges_eq later reads follows.closed follows.lowered enumerated quietly
    keeping
  rw [fixed, same, entries] at next
  exact ⟨_, _, first, next, confirms.added_eq, confirms.updated_eq,
    confirms.deleted_eq cache.nodup_snapshot⟩

/-! ### A batch of verdicts, one of them a failure -/

def editing : Station MemoryProvider :=
  Source.make { name := "contact" } { items := [("a", []), ("b", [])] }
    (.ok { backing := .memory { live := Table.ofList [("b", "old"), ("c", "old")] } }) {}

/-- A server that acknowledges a part of the new item, refuses the rest of it with the next one,
and confirms the others later. -/
def refusing : AnswerQueue where
  sends :=
    [{ value := some [{ id := "a", code := StatusCode.chunkAccepted }] },
      { value := some [{ id := "a", code := StatusCode.failed }] },
      { value := some [] }]
  conclusions :=
    [{ value := some [{ id := "c", code := StatusCode.ok }, { id := "b", code := StatusCode.ok }] }]

def editSession : Session := (make editing.host).1

def editExchange : Exchange MemoryProvider AnswerQueue :=
  { station := { editing with host := (make editing.host).2 }, link := refusing }

theorem edit_completes :
    let run := editSession.sync none editExchange
    (editSession.transcript none editExchange).all LinkEvent.succeeded = true ∧
      ((editSession.transcript none editExchange).all fun event => event.changes == []) = true ∧
      run.exchange.station.host.isRaised editSession.flag = false ∧ run.outcome.isOk = true := by
  decide +kernel

theorem follows_edit :
    Follows (editSession.sync none editExchange).exchange.station
      (editSession.sync none editExchange).exchange.station := by
  have ended : (editSession.sync none editExchange).exchange.station.source.report.standing ≠ .running ∧
      (editSession.sync none editExchange).exchange.station.Calm := by
    decide +kernel
  exact ⟨.inl rfl, ended.1, fun _ => ended.2⟩

theorem edits_found :
    (SourceM.foundChanges (editExchange.station.source.modeFor none)
        (editExchange.station.sharing editSession.flag)).map
        (fun found => (found.added, found.updated, found.deleted)) = some (["a"], ["b"], ["c"]) ∧
      ["a", "b", "c"].map (confirmed editExchange.station.terms ·
        (uploadSteps (editSession.transcript none editExchange))) = [false, true, true] := by
  decide +kernel

theorem refused_item_retried :
    ∃ next, SourceM.foundChanges .twoWay (editSession.sync none editExchange).exchange.station =
        some next ∧ next.added = ["a"] ∧ next.updated = [] ∧ next.deleted = [] := by
  obtain ⟨succeeded, unchanging, lowered, success⟩ := edit_completes
  have saved := fun name cause => ne_error_of_isOk success (.commitFailed name cause)
  have fixed : (editSession.sync none editExchange).exchange.station.source.provider =
      editing.source.provider := by decide +kernel
  obtain ⟨first, next, found, again, added, updated, deleted⟩ :=
    editSession.sync_retries_unconfirmed none editExchange rfl rfl (by decide) (.inl rfl)
      editing.source.provider.keys_eq (List.all_eq_true.mp succeeded)
      (fun event member => eq_of_beq (List.all_eq_true.mp unchanging event member)) lowered saved
      follows_edit fixed (by decide : SyncMode.twoWay ≠ .refreshFromServer)
  obtain ⟨lists, answers⟩ := edits_found
  simp only [found, Option.map_some, Option.some.injEq, Prod.mk.injEq] at lists
  simp only [List.map_cons, List.map_nil, List.cons.injEq, and_true] at answers
  obtain ⟨news, edits, losses⟩ := lists
  obtain ⟨refused, edited, dropped⟩ := answers
  refine ⟨next, again, ?_, ?_, ?_⟩
  · simp [added, news, refused]
  · simp [updated, edits, edited]
  · simp [deleted, losses, dropped]

end Session

end Reconcile
