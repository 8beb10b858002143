import Reconcile.Proofs.Report.Verdicts
import Reconcile.Proofs.Source.Scanning

/-!
What verdicts and changes of the server do to a source in an open sync: the entries of its cache,
its provider, and whether the server is known to be full. Outside an open sync, or once the flag is
raised, they do nothing.
-/

namespace Reconcile

variable {P α : Type}

/-- A source in an open sync over a cache, with its flag down. -/
structure Station.Syncs (station : Station P) (cache : SignatureCache) : Prop where
  calm : station.Calm
  begun : station.source.report.standing ≠ .resting
  cached : station.source.cache = .ok cache

structure Station.Caches (station : Station P) (entries : List (String × Signature)) : Prop where
  begun : station.source.report.standing ≠ .resting
  cached : ∃ cache, station.source.cache = .ok cache ∧ cache.snapshot = entries

namespace Station

def noted (station : Station P) (notice : Notice) : Station P :=
  { station with host := station.host.note notice }

def reporting (station : Station P) (change : SourceReport → SourceReport) : Station P :=
  { station with source := { station.source with report := change station.source.report } }

/-- The station that took a reply, which raises the flag if it cancels. -/
def heard (station : Station P) (cancels : Bool) : Station P :=
  { station with
    host := if cancels then station.host.raise station.source.flag else station.host }

def written (station : Station P) (reply : Reply α × P) : Station P :=
  { station with source := { station.source with provider := reply.2 } }.heard reply.1.cancels

def recorded (station : Station P) (side : Side) (command : Command) (verdict : Verdict) :
    Station P :=
  (if (SourceReport.lane? side command).isNone then station.noted .untracked else station).reporting
    fun report => report.record side command verdict

theorem within_noted (station : Station P) (notice : Notice) :
    Within [] station (station.noted notice) := SourceM.stays_note notice station

theorem within_heard (station : Station P) (cancels : Bool) :
    Within [] station (station.heard cancels) :=
  Stays.within (SourceM.stays_hear ⟨(), cancels⟩) (SourceM.hear_eq _ station)

theorem source_recorded (station : Station P) (side : Side) (command : Command) (verdict : Verdict) :
    (station.recorded side command verdict).source =
      { station.source with report := station.source.report.record side command verdict } := by
  rw [recorded]
  split <;> rfl

theorem calm_recorded {station : Station P} (calm : station.Calm) (side : Side) (command : Command)
    (verdict : Verdict) : (station.recorded side command verdict).Calm := by
  rw [recorded]
  split
  · exact calm
  · exact calm

theorem Syncs.recorded {station : Station P} {cache : SignatureCache} (syncs : station.Syncs cache)
    (side : Side) (command : Command) (verdict : Verdict) :
    (station.recorded side command verdict).Syncs cache where
  calm := calm_recorded syncs.calm side command verdict
  begun := by
    rw [source_recorded, SourceReport.standing_record]
    exact syncs.begun
  cached := by
    rw [source_recorded]
    exact syncs.cached

end Station

namespace SourceM

theorem pure_eq (value : α) (station : Station P) :
    (pure value : SourceM P α) station = .ok value station := rfl

theorem hear_heard (reply : Reply α) (station : Station P) :
    hear reply station = .ok reply.value (station.heard reply.cancels) := hear_eq reply station

theorem record_eq (side : Side) (command : Command) (verdict : Verdict) (station : Station P) :
    record side command verdict station = .ok () (station.recorded side command verdict) := by
  rw [record, Station.recorded]
  split <;> rfl

theorem recordTransfer_eq (side : Side) (command : Command) (key : String) (station : Station P) :
    recordTransfer side command key station = .ok () (station.recorded side command
      { id := key, code := station.source.config.success.okCode }) := by
  rw [recordTransfer, bind_of_ok (source_eq _), record_eq]

theorem recordFault_eq (error : Fault) (station : Station P) :
    recordFault error station =
      .ok () ((station.noted .fault).reporting fun report => report.recordFault error) := rfl

theorem discard_of_ok {operation : SourceM P α} {station left : Station P} {value : α}
    (ran : operation station = .ok value left) : discard operation station = .ok () left := by
  show EStateM.map _ operation station = _
  rw [EStateM.map, ran]

theorem discard_of_error {operation : SourceM P α} {station left : Station P} {error : SyncFailure}
    (ran : operation station = .error error left) : discard operation station = .error error left := by
  show EStateM.map _ operation station = _
  rw [EStateM.map, ran]

theorem quiet_of_heard {station : Station P} {cancels : Bool} (calm : (station.heard cancels).Calm) :
    cancels = false := by
  have left := leaves_of_ok (hear_heard ⟨(), cancels⟩ station)
  show (Reply.mk () cancels).cancels = false
  exact quiet_of_calm (by rwa [left])

theorem calm_heard (station : Station P) (cancels : Bool) :
    (station.heard cancels).Calm ↔ station.Calm ∧ cancels = false := by
  refine ⟨fun calm => ⟨(station.within_heard cancels).calm calm, quiet_of_heard calm⟩, ?_⟩
  rintro ⟨calm, rfl⟩
  exact calm

theorem heard_of_calm {station : Station P} {cancels : Bool}
    (calm : (station.heard cancels).Calm) : station.heard cancels = station := by
  rw [quiet_of_heard calm]
  rfl

theorem guards_ok {station : Station P} {cache : SignatureCache} (syncs : station.Syncs cache)
    (name : String) (body : SourceM P α) :
    (do poll; requireRunning name; body : SourceM P α) station = body station := by
  rw [bind_of_ok (poll_of_calm syncs.calm), bind_of_ok (requireRunning_ok syncs.begun name)]

theorem guards_error {station : Station P}
    (refused : ¬ station.Calm ∨ station.source.report.standing = .resting) (name : String)
    (body : SourceM P α) :
    ∃ error, (do poll; requireRunning name; body : SourceM P α) station = .error error station := by
  by_cases calm : station.Calm
  · have resting := refused.resolve_left (not_not_intro calm)
    rw [bind_of_ok (poll_of_calm calm), bind_of_error (requireRunning_resting resting name)]
    exact ⟨_, rfl⟩
  · rw [bind_of_error (poll_of_stopped calm)]
    exact ⟨_, rfl⟩

/-! ### Verdicts -/

/-- The entries of a cache after the verdict of a sent item, given the signatures that can be
read. -/
def answered (rule : SuccessRule) (sign : String → Option Signature) (command : Command)
    (verdict : Verdict) (entries : List (String × Signature)) : List (String × Signature) :=
  if verdict.code.isChunkAck || !rule.isSuccess verdict.code then entries
  else if command = .delete then Entries.without verdict.id entries
  else
    match sign verdict.id with
    | some signature => Entries.place verdict.id signature entries
    | none => entries

def fills (rule : SuccessRule) (verdict : Verdict) : Bool :=
  !verdict.code.isChunkAck && !rule.isSuccess verdict.code && verdict.code.isFull

end SourceM

namespace SourceReport

def answered (report : SourceReport) (rule : SuccessRule) (command : Command) (verdict : Verdict) :
    SourceReport :=
  let recorded := report.record .server command verdict
  if SourceM.fills rule verdict then recorded.recordFull .server else recorded

theorem standing_answered {report : SourceReport} (begun : report.standing ≠ .resting)
    (rule : SuccessRule) (command : Command) (verdict : Verdict) :
    (report.answered rule command verdict).standing ≠ .resting := by
  rw [answered]
  split
  · intro resting
    cases resting
  · rwa [standing_record]

end SourceReport

namespace SourceM

variable [Provider P]

def readable (provider : P) (key : String) : Option Signature :=
  (Provider.signature provider key).value.toOption

theorem scanned_of_readable {provider : P} {key : String} {signature : Signature}
    (signed : readable provider key = some signature) :
    ((scanAnswers provider).signature key).value = signature := by
  simp only [scanAnswers, Reply.map]
  rw [readable] at signed
  cases reads : (Provider.signature provider key).value with
  | error refusal => rw [reads] at signed; cases signed
  | ok present => rw [reads] at signed; exact Option.some.inj signed

theorem cacheSignature_ok {station : Station P} {cache : SignatureCache}
    (cached : station.source.cache = .ok cache) (key : String) :
    ∃ after next, cacheSignature key station = .ok () after ∧ after.source.cache = .ok next ∧
      next.snapshot =
        (match readable station.source.provider key with
          | some signature => Entries.place key signature cache.snapshot
          | none => cache.snapshot) ∧
      after.source.report = station.source.report ∧
      (after.Calm → (Provider.signature station.source.provider key).cancels = false) := by
  rw [cacheSignature, bind_of_ok (source_eq _), bind_of_ok (hear_heard _ _), readable]
  cases (Provider.signature station.source.provider key).value with
  | error refusal => exact ⟨_, cache, rfl, cached, rfl, rfl, quiet_of_heard⟩
  | ok signature =>
    have put := updateCache_ok
      (station.heard (Provider.signature station.source.provider key).cancels) cached
      fun cache => cache.put key signature
    exact ⟨_, cache.put key signature, put, rfl, cache.snapshot_put key signature, rfl,
      quiet_of_heard⟩

/-- A provider that signs every key that was not known before without a request to cancel. -/
def SignsQuietly (provider : P) (known entries : List (String × Signature)) : Prop :=
  ∀ key, (entries.lookup key).isSome →
    (known.lookup key).isSome ∨ (Provider.signature provider key).cancels = false

theorem SignsQuietly.refl (provider : P) (entries : List (String × Signature)) :
    SignsQuietly provider entries entries := fun _ => .inl

theorem takeVerdict_ok {station : Station P} {cache : SignatureCache} (syncs : station.Syncs cache)
    (command : Command) (verdict : Verdict) :
    ∃ after next, takeVerdict command verdict station = .ok () after ∧
      after.source.cache = .ok next ∧
      next.snapshot = answered station.source.config.success (readable station.source.provider)
        command verdict cache.snapshot ∧
      after.source.report =
        station.source.report.answered station.source.config.success command verdict ∧
      (after.Calm → SignsQuietly station.source.provider cache.snapshot next.snapshot) := by
  have cached := (syncs.recorded .server command verdict).cached
  have source := station.source_recorded .server command verdict
  rw [takeVerdict, guards_ok syncs, bind_of_ok (discard_of_ok (cache_ok syncs.cached)),
    bind_of_ok (record_eq _ _ _ _)]
  generalize station.recorded .server command verdict = recorded at *
  have provider : recorded.source.provider = station.source.provider := by rw [source]
  have report : recorded.source.report = station.source.report.record .server command verdict := by
    rw [source]
  have kept := SignsQuietly.refl station.source.provider cache.snapshot
  rw [answered, SourceReport.answered, fills, ← report]
  cases chunk : verdict.code.isChunkAck with
  | true => exact ⟨_, cache, rfl, cached, rfl, rfl, fun _ => kept⟩
  | false =>
    have config : recorded.source.config = station.source.config := by rw [source]
    rw [if_neg Bool.false_ne_true, bind_of_ok (source_eq _), config]
    cases success : station.source.config.success.isSuccess verdict.code with
    | false =>
      cases quota : verdict.code.isFull with
      | true => exact ⟨_, cache, recordFault_eq _ _, cached, rfl, rfl, fun _ => kept⟩
      | false => exact ⟨_, cache, rfl, cached, rfl, rfl, fun _ => kept⟩
    | true =>
      by_cases deletion : command = .delete
      · have removed := updateCache_ok _ cached fun cache => (cache.remove verdict.id).2
        rw [if_pos deletion, if_pos deletion]
        refine ⟨_, _, removed, rfl, cache.snapshot_remove _, rfl, fun _ key held => ?_⟩
        rw [cache.snapshot_remove, Entries.lookup_without] at held
        split at held
        · cases held
        · exact .inl held
      · obtain ⟨after, next, ran, given, entries, reported, quiet⟩ :=
          cacheSignature_ok cached verdict.id
        rw [if_neg deletion, if_neg deletion]
        rw [provider] at entries quiet
        refine ⟨after, next, ran, given, entries, reported, fun calm key held => ?_⟩
        by_cases own : key = verdict.id
        · exact .inr (own ▸ quiet calm)
        · rw [entries] at held
          split at held
          · rw [Entries.lookup_place, if_neg own] at held
            exact .inl held
          · exact .inl held

/-! ### Changes of the server -/

def refusalCode : Refusal → StatusCode
  | .deviceFull => StatusCode.deviceFull
  | .notFound _ => StatusCode.notFound
  | .failed _ => StatusCode.failed

/-- The verdict of a write: the given code for the key that was written, or that of the refusal for
the key that was asked for. -/
def writeVerdict (asked : String) (code : StatusCode) : Except Refusal String → Verdict
  | .ok key => { id := key, code }
  | .error error => { id := asked, code := refusalCode error }

end SourceM

def SourceReport.written (report : SourceReport) : Except Refusal α → SourceReport
  | .error .deviceFull => report.recordFull .client
  | _ => report

theorem SourceReport.written_map {β : Type} (report : SourceReport) (outcome : Except Refusal α)
    (name : α → β) : report.written (outcome.map name) = report.written outcome := by
  cases outcome with
  | ok value => rfl
  | error error => cases error <;> rfl

theorem SourceReport.standing_written {report : SourceReport} (begun : report.standing ≠ .resting)
    (outcome : Except Refusal α) : (report.written outcome).standing ≠ .resting := by
  unfold written
  split
  · exact fun resting => nomatch resting
  · exact begun

namespace SourceM

theorem refusal_ok (station : Station P) (error : Refusal) :
    ∃ after, refusal error station = .ok (refusalCode error) after ∧
      after.source = { station.source with
        report := station.source.report.written (.error error : Except Refusal α) } := by
  cases error with
  | notFound key => exact ⟨_, rfl, rfl⟩
  | failed reason => exact ⟨_, rfl, rfl⟩
  | deviceFull => exact ⟨_, rfl, rfl⟩

theorem write_eq (action : P → Reply (Except Refusal α) × P) (station : Station P) :
    write action station = .ok (action station.source.provider).1.value
      (station.written (action station.source.provider)) := by
  rw [write, bind_of_ok (source_eq _)]
  exact hear_heard _ _

/-- What a change of the server does: the provider is written once, the cache takes part in it only if
the provider did as it was asked, and the report is as given. -/
structure Applied {β : Type} (station after : Station P) (cache : SignatureCache)
    (written : Reply (Except Refusal β) × P)
    (keep : β → List (String × Signature) → List (String × Signature)) (report : SourceReport) :
    Prop where
  provider : after.source.provider = written.2
  begun : after.source.report.standing ≠ .resting
  cached : ∃ next, after.source.cache = .ok next ∧
    next.snapshot = match written.1.value with
      | .ok value => keep value cache.snapshot
      | .error _ => cache.snapshot
  reported : after.source.report = report

section Applied

variable {β : Type} {station after : Station P} {cache : SignatureCache}
  {written : Reply (Except Refusal β) × P} {report : SourceReport}
  {keep : β → List (String × Signature) → List (String × Signature)}

theorem Applied.caches (applied : Applied station after cache written keep report)
    {entries : List (String × Signature)}
    (follows : (match written.1.value with
      | .ok value => keep value cache.snapshot
      | .error _ => cache.snapshot) = entries) : after.Caches entries where
  begun := applied.begun
  cached := by
    obtain ⟨next, cached, same⟩ := applied.cached
    exact ⟨next, cached, same.trans follows⟩

theorem Applied.recorded (applied : Applied station after cache written keep report) (side : Side)
    (command : Command) (verdict : Verdict) :
    Applied station (after.recorded side command verdict) cache written keep
      (report.record side command verdict) where
  provider := by
    rw [Station.source_recorded]
    exact applied.provider
  begun := by
    rw [Station.source_recorded, SourceReport.standing_record]
    exact applied.begun
  cached := by
    rw [Station.source_recorded]
    exact applied.cached
  reported := by
    rw [Station.source_recorded, ← applied.reported]

theorem applied_ok (syncs : station.Syncs cache)
    (keep : β → List (String × Signature) → List (String × Signature)) {value : β}
    (done : written.1.value = .ok value) (change : SignatureCache → SignatureCache)
    (changed : (change cache).snapshot = keep value cache.snapshot) :
    updateCache change (station.written written) =
        .ok () ((station.written written).withCache (change cache)) ∧
      Applied station ((station.written written).withCache (change cache)) cache written keep
        station.source.report := by
  refine ⟨updateCache_ok (station.written written) syncs.cached change, rfl, syncs.begun, ?_, rfl⟩
  rw [done]
  exact ⟨_, rfl, changed⟩

theorem applied_error (syncs : station.Syncs cache)
    (keep : β → List (String × Signature) → List (String × Signature)) {error : Refusal}
    (refused : written.1.value = .error error) :
    ∃ after, refusal error (station.written written) = .ok (refusalCode error) after ∧
      Applied station after cache written keep (station.source.report.written written.1.value) := by
  obtain ⟨after, ran, source⟩ := @refusal_ok P β (station.written written) error
  have reported : after.source.report = station.source.report.written written.1.value := by
    rw [source, refused]
    rfl
  refine ⟨after, ran, by rw [source]; rfl, ?_, ⟨cache, ?_, ?_⟩, reported⟩
  · rw [reported]
    exact SourceReport.standing_written syncs.begun _
  · rw [source]
    exact syncs.cached
  · rw [refused]

end Applied

variable [Provider P]

theorem applyAdd_ok {station : Station P} {cache : SignatureCache} (syncs : station.Syncs cache)
    (serverId : String) (content : Bytes) :
    let written := Provider.insert station.source.provider content
    let verdict := writeVerdict serverId station.source.config.success.addedCode written.1.value
    ∃ after, applyAdd serverId content station = .ok verdict.code after ∧
      Applied station after cache written (fun key => Entries.place key (.of content))
        ((station.source.report.written written.1.value).record .client .add verdict) := by
  intro written verdict
  rw [applyAdd, guards_ok syncs, bind_of_ok (write_eq _ _)]
  cases done : written.1.value with
  | ok key =>
    obtain ⟨put, applied⟩ := applied_ok syncs (fun key => Entries.place key (.of content)) done
      (fun cache => cache.put key (.of content)) (cache.snapshot_put key _)
    have recorded := applied.recorded .client .add verdict
    simp only [verdict, done, writeVerdict] at recorded ⊢
    rw [bind_of_ok put, bind_of_ok (source_eq _), bind_of_ok (record_eq _ _ _ _)]
    exact ⟨_, rfl, recorded⟩
  | error error =>
    obtain ⟨after, ran, applied⟩ :=
      applied_error syncs (fun key => Entries.place key (.of content)) done
    have recorded := applied.recorded .client .add verdict
    simp only [verdict, done, writeVerdict] at recorded ⊢
    rw [bind_of_ok ran, bind_of_ok (record_eq _ _ _ _)]
    exact ⟨_, rfl, recorded⟩

omit [Provider P] in
theorem changeItem_ok {station : Station P} {cache : SignatureCache} (syncs : station.Syncs cache)
    (operation : String) (command : Command) (key : String)
    (action : P → Reply (Except Refusal Unit) × P) {follow : SignatureCache → SignatureCache}
    {keep : List (String × Signature) → List (String × Signature)}
    (follows : (follow cache).snapshot = keep cache.snapshot) :
    let written := action station.source.provider
    let outcome := written.1.value.map fun _ => key
    let verdict := writeVerdict key station.source.config.success.okCode outcome
    ∃ after, changeItem operation command key action follow station = .ok verdict.code after ∧
      Applied station after cache written (fun _ => keep)
        ((station.source.report.written written.1.value).record .client command verdict) := by
  intro written outcome verdict
  rw [changeItem, guards_ok syncs, bind_of_ok (write_eq _ _)]
  cases done : written.1.value with
  | ok _ =>
    obtain ⟨followed, applied⟩ := applied_ok syncs (fun _ => keep) done follow follows
    have recorded := applied.recorded .client command verdict
    simp only [verdict, outcome, done, writeVerdict, Except.map] at recorded ⊢
    rw [bind_of_ok followed, bind_of_ok (source_eq _), bind_of_ok (pure_eq _ _),
      bind_of_ok (record_eq _ _ _ _)]
    exact ⟨_, rfl, recorded⟩
  | error error =>
    obtain ⟨after, ran, applied⟩ := applied_error syncs (fun _ => keep) done
    have recorded := applied.recorded .client command verdict
    simp only [verdict, outcome, done, writeVerdict, Except.map] at recorded ⊢
    rw [bind_of_ok ran, bind_of_ok (record_eq _ _ _ _)]
    exact ⟨_, rfl, recorded⟩

theorem applyReplace_ok {station : Station P} {cache : SignatureCache} (syncs : station.Syncs cache)
    (key : String) (content : Bytes) :
    let written := Provider.update station.source.provider key content
    let outcome := written.1.value.map fun _ => key
    let verdict := writeVerdict key station.source.config.success.okCode outcome
    ∃ after, applyReplace key content station = .ok verdict.code after ∧
      Applied station after cache written (fun _ => Entries.place key (.of content))
        ((station.source.report.written written.1.value).record .client .replace verdict) :=
  changeItem_ok syncs _ _ _ _ (cache.snapshot_put key _)

theorem applyDelete_ok {station : Station P} {cache : SignatureCache} (syncs : station.Syncs cache)
    (key : String) :
    let written := Provider.delete station.source.provider key
    let outcome := written.1.value.map fun _ => key
    let verdict := writeVerdict key station.source.config.success.okCode outcome
    ∃ after, applyDelete key station = .ok verdict.code after ∧
      Applied station after cache written (fun _ => Entries.without key)
        ((station.source.report.written written.1.value).record .client .delete verdict) :=
  changeItem_ok syncs _ _ _ _ (cache.snapshot_remove key)

end SourceM

end Reconcile
