import Reconcile.Proofs.Provider.Memory
import Reconcile.Proofs.Session.Completed
import Reconcile.Server.Queued

/-!
Convergence. After a sync in which the server took every item, the cache holds exactly what the
provider has, whatever the server changed in the meantime, and there is nothing left to send.
-/

namespace Reconcile

namespace MemoryProvider

/-- The entries of a cache are those of a provider: every item is cached with the signature of its
content, and the deletion of every other entry is vetoed. -/
structure Synced (provider : MemoryProvider) (entries : List (String × Signature)) : Prop where
  readable : provider.unreadable = []
  held : ∀ key content, provider.get? key = some content →
    entries.lookup key = some (.of content)
  vetoed : ∀ key, provider.get? key = none → (entries.lookup key).isSome → key ∈ provider.vetoed

/-! ### Changes of the server -/

section Writes

variable {provider after : MemoryProvider} {entries : List (String × Signature)} {key : String}

theorem Synced.place {content : Bytes} (synced : provider.Synced entries)
    (wrote : Wrote provider after key (some content)) :
    after.Synced (Entries.place key (.of content) entries) where
  readable := wrote.unreadable.trans synced.readable
  held other found := by
    rw [wrote.get?, Entries.lookup_place]
    split
    · rintro given
      rw [Option.some.inj given]
    · exact synced.held other found
  vetoed other := by
    rw [wrote.get?, wrote.vetoed, Entries.lookup_place]
    split
    · exact fun gone => nomatch gone
    · exact synced.vetoed other

theorem Synced.without (synced : provider.Synced entries) (wrote : Wrote provider after key none) :
    after.Synced (Entries.without key entries) where
  readable := wrote.unreadable.trans synced.readable
  held other found := by
    rw [wrote.get?, Entries.lookup_without]
    split
    · exact fun gone => nomatch gone
    · exact synced.held other found
  vetoed other := by
    rw [wrote.get?, wrote.vetoed, Entries.lookup_without]
    split
    · exact fun _ gone => nomatch gone
    · exact synced.vetoed other

theorem keptInStep_synced : KeptInStep Synced where
  insert provider entries content synced :=
    ⟨fun key done => synced.place (insert_ok done),
      fun refusal failed => by
        show Synced (provider.insert content).2 entries
        rwa [insert_error failed]⟩
  update provider entries key content synced :=
    ⟨fun _ done => synced.place (update_ok done),
      fun refusal failed => by
        show Synced (provider.update key content).2 entries
        rwa [update_error failed]⟩
  delete provider entries key synced :=
    ⟨fun _ _ => synced.without (wrote_delete provider key),
      fun refusal failed => by
        show Synced (provider.delete key).2 entries
        rwa [delete_error failed]⟩

end Writes

/-! ### Uploads that are accepted -/

section Uploads

variable {provider : MemoryProvider} {previous : List (String × Signature)} {key : String}

theorem mem_handedOut : key ∈ provider.handedOut.map Reply.value ↔ (provider.get? key).isSome := by
  rw [handedOut, List.map_map]
  exact Entries.isSome_lookup.symm

theorem mem_present : key ∈ ChangeScan.present provider.handedOut ↔ (provider.get? key).isSome :=
  ChangeScan.mem_present.trans mem_handedOut

theorem content_eq (readable : provider.unreadable = []) {content : Bytes}
    (found : provider.get? key = some content) :
    (Provider.content provider key).value = .ok content := by
  show provider.read key = .ok content
  rw [read, readable, found]
  rfl

theorem readable_eq (readable : provider.unreadable = []) {content : Bytes}
    (found : provider.get? key = some content) :
    SourceM.readable provider key = some (.of content) := by
  show ((Provider.content provider key).value.map Signature.of).toOption = _
  rw [content_eq readable found]
  rfl

theorem readItem_eq (readable : provider.unreadable = []) {content : Bytes}
    (found : provider.get? key = some content) (state : Finding) :
    readItem provider state key = some { key, content := some content, state } := by
  rw [readItem, content_eq readable found]
  rfl

structure Covers (provider : MemoryProvider) (previous : List (String × Signature))
    (items : List OutgoingItem) : Prop where
  deletions : ∀ item ∈ items, item.state = .deleted ↔ provider.get? item.key = none
  present : ∀ key content, provider.get? key = some content →
    previous.lookup key = some (.of content) ∨ key ∈ items.map OutgoingItem.key
  missing : ∀ key, provider.get? key = none → key ∉ provider.vetoed →
    previous.lookup key = none ∨ key ∈ items.map OutgoingItem.key

theorem synced_of_accepted {station : Station MemoryProvider} {steps : List UploadStep}
    (readable : station.source.provider.unreadable = [])
    (covers : station.source.provider.Covers previous (sentItems steps))
    (accepted : allAccepted station.source.config.success steps = true) :
    station.source.provider.Synced
      (Ledger.run station.terms { entries := previous } steps).entries := by
  have lands : ∀ key target,
      (∀ item ∈ sentItems steps, item.key = key →
        Ledger.Lands station.terms key target item.state.command) →
      previous.lookup key = target ∨ key ∈ sentKeys steps →
      (Ledger.run station.terms { entries := previous } steps).entries.lookup key = target :=
    fun key target sent start => Ledger.lookup_run_accepted steps (fun _ waits => nomatch waits)
      accepted (fun _ waits => nomatch waits) sent (.inr start)
  refine ⟨readable, fun key content found => ?_, fun key gone listed => ?_⟩
  · refine lands key _ (fun item member own => ?_) (covers.present key content found)
    subst own
    have kept : item.state ≠ .deleted := fun deleted => by
      rw [(covers.deletions item member).mp deleted] at found
      cases found
    exact Ledger.lands_sign kept (readable_eq readable found)
  · refine Decidable.byContradiction fun unvetoed => ?_
    have dropped := lands key none (fun item member own => ?_) (covers.missing key gone unvetoed)
    · rw [dropped] at listed
      cases listed
    · subst own
      rw [(covers.deletions item member).mpr gone]
      exact Ledger.lands_delete _

theorem covers_full (readable : provider.unreadable = []) :
    provider.Covers [] ((provider.handedOut.map Reply.value).filterMap
      (ItemStream.full.item? provider)) where
  deletions item member := by
    obtain ⟨key, listed, reads⟩ := List.mem_filterMap.mp member
    obtain ⟨rfl, state⟩ := ItemStream.of_item? reads
    have held := mem_handedOut.mp listed
    rw [state, ← Option.not_isSome_iff_eq_none]
    exact ⟨fun deleted => (nomatch deleted), fun gone => absurd held gone⟩
  present key content found := by
    have listed := mem_handedOut.mpr (Option.isSome_of_eq_some found)
    have item := List.mem_filterMap.mpr ⟨key, listed, readItem_eq readable found .full⟩
    exact .inr (List.mem_map_of_mem item)
  missing key _ _ := .inl rfl

theorem covers_partition (readable : provider.unreadable = []) :
    provider.Covers previous (ItemStream.bucketItems provider
      (ChangeScan.partition (SourceM.scanAnswers provider) provider.handedOut previous)
      ChangeBucket.all) where
  deletions item member := by
    rw [ItemStream.deleted_iff_missing member, mem_present, Option.not_isSome_iff_eq_none]
  present key content found := by
    have listed := mem_present.mpr (Option.isSome_of_eq_some found)
    have signed := SourceM.scanned_of_readable (readable_eq readable found)
    cases held : previous.lookup key with
    | none =>
      exact .inr (ItemStream.sent_of_mem .added (ChangeScan.mem_added.mpr ⟨listed, held⟩)
        (readItem_eq readable found .added))
    | some cached =>
      by_cases same : cached = .of content
      · exact .inl (same ▸ rfl)
      · have updated := ChangeScan.mem_updated.mpr ⟨listed, cached, held, signed ▸ same⟩
        exact .inr (ItemStream.sent_of_mem .updated updated
          (readItem_eq readable found .updated))
  missing key gone unvetoed := by
    cases held : previous.lookup key with
    | none => exact .inl rfl
    | some cached =>
      have absent : key ∉ ChangeScan.present provider.handedOut := by
        rw [mem_present, gone]
        exact Bool.false_ne_true
      have confirms : ((SourceM.scanAnswers provider).confirmsDeletion key).value = true := by
        show (!provider.vetoed.contains key) = true
        simpa using unvetoed
      have known := Entries.isSome_lookup.mp (Option.isSome_of_eq_some held)
      have deleted := ChangeScan.mem_deleted.mpr ⟨known, absent, confirms⟩
      exact .inr (ItemStream.sent_of_mem .deleted deleted rfl)

theorem Synced.isEmpty_partition (synced : provider.Synced previous) :
    (ChangeScan.partition (SourceM.scanAnswers provider) provider.handedOut previous).isEmpty =
      true := by
  simp only [ChangeSet.isEmpty, Bool.and_eq_true, List.isEmpty_iff, List.eq_nil_iff_forall_not_mem]
  refine ⟨⟨fun key added => ?_, fun key updated => ?_⟩, fun key deleted => ?_⟩
  · obtain ⟨listed, unknown⟩ := ChangeScan.mem_added.mp added
    obtain ⟨content, found⟩ := Option.isSome_iff_exists.mp (mem_present.mp listed)
    rw [synced.held key content found] at unknown
    cases unknown
  · obtain ⟨listed, cached, known, different⟩ := ChangeScan.mem_updated.mp updated
    obtain ⟨content, found⟩ := Option.isSome_iff_exists.mp (mem_present.mp listed)
    rw [SourceM.scanned_of_readable (readable_eq synced.readable found)] at different
    rw [synced.held key content found] at known
    exact different (Option.some.inj known).symm
  · obtain ⟨known, absent, confirms⟩ := ChangeScan.mem_deleted.mp deleted
    rw [mem_present, Option.not_isSome_iff_eq_none] at absent
    have vetoed := synced.vetoed key absent (Entries.isSome_lookup.mpr known)
    replace confirms : (!provider.vetoed.contains key) = true := confirms
    simp [vetoed] at confirms

end Uploads

end MemoryProvider

namespace Session

variable {L : Type} [ServerLink L] {session : Session} {mode : Option SyncMode}
  {exchange : Exchange MemoryProvider L} {cache : SignatureCache}

/-- After the upload of a completed sync whose items were all accepted, the cache is that of the
provider, and it is so in the end. -/
theorem Completed.synced {base : List (String × Signature)} {items : List OutgoingItem}
    {uploaded after : Exchange MemoryProvider (Recorded L)}
    (completed : Completed session mode exchange base items uploaded after)
    (readable : exchange.station.source.provider.unreadable = [])
    (covers : exchange.station.source.provider.Covers base items)
    (accepted : allAccepted exchange.station.source.config.success
      (uploadSteps (session.transcript mode exchange)) = true) :
    after.station.InStep MemoryProvider.Synced := by
  rw [← completed.sent_all accepted] at covers
  exact completed.in_step MemoryProvider.keptInStep_synced
    (MemoryProvider.synced_of_accepted readable covers accepted)

/-- A sync that sends, is not stopped and is made durable, and whose calls all succeed, leaves a
source whose durable cache is the live one, which is that of the provider; and the next incremental
sync finds nothing to send. Each item that was sent got a success as its first final verdict, be it
with the item or later; what the server changed is arbitrary. -/
theorem sync_converges (session : Session) (mode : Option SyncMode)
    (exchange : Exchange MemoryProvider L) {cache : SignatureCache}
    (enabled : exchange.station.source.config.enabled = true)
    (cached : exchange.station.source.cache = .ok cache)
    (closed : exchange.station.source.report.standing ≠ .running)
    (sends : (exchange.station.source.modeFor mode).sends = true)
    (readable : exchange.station.source.provider.unreadable = [])
    (succeeded : ∀ event ∈ session.transcript mode exchange, event.succeeded = true)
    (accepted : allAccepted exchange.station.source.config.success
      (uploadSteps (session.transcript mode exchange)) = true)
    (lowered : (session.sync mode exchange).exchange.station.host.isRaised session.flag = false)
    (saved : ∀ name cause, (session.sync mode exchange).outcome ≠ .error (.commitFailed name cause)) :
    let after := (session.sync mode exchange).exchange.station
    ∃ live, after.source.cache = .ok live ∧
      (∃ durable, live.restart after.host.disk = (.ok durable, after.host.disk) ∧
        durable.snapshot = live.snapshot) ∧
      after.source.provider.Synced live.snapshot ∧
      ∀ later again, Follows after later → later.source.provider = after.source.provider →
        again ≠ .refreshFromServer →
          ∃ changes, SourceM.foundChanges again later = some changes ∧ changes.isEmpty = true := by
  have enumerated := exchange.station.source.provider.keys_eq
  obtain ⟨base, items, uploaded, left, covers, completed⟩ : ∃ base items uploaded left,
      exchange.station.source.provider.Covers base items ∧
        Completed session mode exchange base items uploaded left := by
    cases everything : (exchange.station.source.modeFor mode).sendsAll with
    | true =>
      obtain ⟨uploaded, left, completed⟩ :=
        full_completes enabled cached closed sends enumerated succeeded lowered everything
      exact ⟨_, _, uploaded, left, MemoryProvider.covers_full readable, completed⟩
    | false =>
      obtain ⟨_, uploaded, left, completed⟩ :=
        incremental_completes enabled cached closed sends enumerated succeeded lowered everything
      exact ⟨_, _, uploaded, left, MemoryProvider.covers_partition readable, completed⟩
  obtain ⟨active, cache, held, synced⟩ := completed.synced readable covers accepted
  obtain ⟨live, kept, made⟩ := completed.hands_over active held saved
  obtain ⟨same, reopened, opened, entries⟩ := SignatureCache.restart_commit made
  have provider : (session.sync mode exchange).exchange.station.source.provider =
      left.station.source.provider := by
    rw [completed.station]
    have closes : Stays (P := MemoryProvider) _ SourceM.finish := SourceM.stays_finish
    exact (closes left.station).provider (by simp)
  refine ⟨live, kept, ⟨reopened, opened, entries.trans same.symm⟩, ?_, ?_⟩
  · rwa [provider, same]
  · intro later again follows unchanged keeping
    obtain ⟨next, reads, given⟩ := follows.cached kept made
    rw [← provider, ← unchanged] at synced
    have found := SourceM.foundChanges_eq later reads follows.closed follows.lowered
      later.source.provider.keys_eq (later.source.provider.scanCancels_eq _) keeping
    rw [given] at found
    exact ⟨_, found, synced.isEmpty_partition⟩

/-! ### Changes on both sides -/

def crossing : Station MemoryProvider :=
  Source.make { name := "contact" } { items := [("a", [])], vetoed := ["c"] }
    (.ok { backing := .memory { live := Table.ofList [("b", "old"), ("c", "old")] } }) {}

/-- A server that takes the items late and out of order, and then adds an item, replaces the one
that it just took, and deletes one that is not there. -/
def crossed : AnswerQueue where
  sends := [{ value := some [] }, { value := some [{ id := "b", code := StatusCode.ok }] }]
  conclusions :=
    [{ value := some
        [{ id := "a", code := StatusCode.chunkAccepted }, { id := "a", code := StatusCode.added }] }]
  fetches :=
    [{ value := some [{ command := .add, key := "server" }, { command := .replace, key := "a" },
        { command := .delete, key := "d" }] }]

def crossSession : Session := (make crossing.host).1

def crossExchange : Exchange MemoryProvider AnswerQueue :=
  { station := { crossing with host := (make crossing.host).2 }, link := crossed }

theorem cross_completes :
    let run := crossSession.sync none crossExchange
    (crossSession.transcript none crossExchange).all LinkEvent.succeeded = true ∧
      allAccepted crossExchange.station.source.config.success
        (uploadSteps (crossSession.transcript none crossExchange)) = true ∧
      run.exchange.station.host.isRaised crossSession.flag = false ∧ run.outcome.isOk = true ∧
      run.exchange.station.source.report.standing ≠ .running ∧ run.exchange.station.Calm := by
  decide +kernel

theorem crossed_changes_converge :
    let after := (crossSession.sync none crossExchange).exchange.station
    after.source.provider.handedOut.map Reply.value = ["a", "local-1"] ∧
      (∃ live, after.source.cache = .ok live ∧ after.source.provider.Synced live.snapshot) ∧
      ∃ changes, SourceM.foundChanges .twoWay after = some changes ∧ changes.isEmpty = true := by
  obtain ⟨succeeded, accepted, lowered, success, closed, calm⟩ := cross_completes
  have saved := fun name cause => ne_error_of_isOk success (.commitFailed name cause)
  obtain ⟨live, held, _, synced, converges⟩ :=
    crossSession.sync_converges none crossExchange rfl rfl (by decide) (by decide) rfl
      (List.all_eq_true.mp succeeded) accepted lowered saved
  have next := converges _ .twoWay ⟨.inl rfl, closed, fun _ => calm⟩ rfl (by decide)
  exact ⟨by decide +kernel, ⟨live, held, synced⟩, next⟩

end Session

end Reconcile
