import Reconcile.Proofs.Session.Download
import Reconcile.Proofs.Session.Upload

/-!
Exchanges of a session. One whose flag stays down uploads and then downloads, each as its mode asks,
and stops where a call of the link fails; what the source has then follows from the record of the
link.
-/

namespace Reconcile

variable {P L : Type} [Provider P] [ServerLink L]

namespace ExchangeM

variable {exchange : Exchange P (Recorded L)} {origin : Station P}
  {base : List (String × Signature)} {mode : SyncMode} {items : List OutgoingItem}

def Finished (mode : SyncMode) (uploaded after : Exchange P (Recorded L)) : Prop :=
  if mode.receives then Downloaded uploaded after else after = uploaded

def Finishes (mode : SyncMode) (uploaded after : Exchange P (Recorded L))
    (outcome : Except SyncFailure Unit) : Prop :=
  if mode.receives then Downloads uploaded after outcome else after = uploaded ∧ outcome = .ok ()

/-- How an exchange went: it came to its end after the upload, or the upload was cut short. -/
inductive Exchanged (mode : SyncMode) (before after : Exchange P (Recorded L)) (origin : Station P)
    (base : List (String × Signature)) (items : List OutgoingItem) : Except SyncFailure Unit → Prop
  | finished {between : Exchange P (Recorded L)} {result : Option InFlight}
      {outcome : Except SyncFailure Unit}
      (uploaded : Uploaded before between origin base items (.ok result))
      (finishes : Finishes mode between after outcome) :
      Exchanged mode before after origin base items outcome
  | cut {error : SyncFailure} (uploaded : Uploaded before after origin base items (.error error)) :
      Exchanged mode before after origin base items (.error error)

omit [ServerLink L] in
theorem Finished.finishes {uploaded after : Exchange P (Recorded L)}
    (finished : Finished mode uploaded after) : Finishes mode uploaded after (.ok ()) := by
  unfold Finished at finished
  unfold Finishes
  split at finished
  · rename_i receives
    rw [if_pos receives]
    exact .done finished
  · rename_i keeps
    rw [if_neg keeps]
    exact ⟨finished, rfl⟩

section Finishes

variable {uploaded after : Exchange P (Recorded L)} {outcome : Except SyncFailure Unit}

omit [ServerLink L] in
theorem Downloaded.steps (downloaded : Downloaded uploaded after) :
    uploadSteps after.link.events = uploadSteps uploaded.link.events := by
  obtain ⟨reply, changes, verdicts, answer, _, _, events⟩ := downloaded
  rw [events, uploadSteps, List.flatMap_append, List.flatMap_append]
  simp [LinkEvent.steps, uploadSteps]

omit [ServerLink L] in
theorem Downloaded.fetched {entries : List (String × Signature)}
    (downloaded : Downloaded uploaded after) (unfetched : uploaded.fetched = [])
    (caches : uploaded.station.Caches entries) :
    Written after.fetched uploaded.station after.station entries := by
  obtain ⟨reply, changes, verdicts, answer, replied, applied, events⟩ := downloaded
  have changed : after.fetched = changes := by
    rw [Exchange.fetched, events, fetchedChanges, List.flatMap_append, List.flatMap_append,
      ← fetchedChanges, ← Exchange.fetched, unfetched]
    simp [LinkEvent.changes, replied, Except.toOption]
  have written := gives_applyChanges caches changes
  rw [Gives, Ends, yields_of_ok applied, leaves_of_ok applied] at written
  rw [changed]
  exact written.1

omit [ServerLink L] in
theorem Finishes.steps (finishes : Finishes mode uploaded after outcome) :
    uploadSteps after.link.events = uploadSteps uploaded.link.events := by
  unfold Finishes at finishes
  split at finishes
  · cases finishes with
    | done downloaded => exact downloaded.steps
    | unanswered downloaded broken => exact downloaded.steps
    | unfetched station failed events =>
      rw [events, uploadSteps, List.flatMap_append]
      simp [LinkEvent.steps, uploadSteps]
  · rw [finishes.1]

omit [ServerLink L] in
theorem Finishes.fetched {entries : List (String × Signature)}
    (finishes : Finishes mode uploaded after outcome) (unfetched : uploaded.fetched = [])
    (caches : uploaded.station.Caches entries) :
    Written after.fetched uploaded.station after.station entries := by
  unfold Finishes at finishes
  split at finishes
  · cases finishes with
    | done downloaded => exact downloaded.fetched unfetched caches
    | unanswered downloaded broken => exact downloaded.fetched unfetched caches
    | @unfetched _ reply station failed events =>
      have nothing : after.fetched = [] := by
        rw [Exchange.fetched_add events, unfetched, LinkEvent.changes, failed]
        rfl
      rw [nothing, station]
      exact caches.unwritten
  · rw [finishes.1, unfetched]
    exact caches.unwritten

end Finishes

omit [ServerLink L] in
theorem Exchanged.finished_of_unbroken {before after : Exchange P (Recorded L)}
    {outcome : Except SyncFailure Unit}
    (exchanged : Exchanged mode before after origin base items outcome) (whole : ¬ after.Broken) :
    outcome = .ok () ∧ ∃ between result,
      Uploaded before between origin base items (.ok result) ∧ Finished mode between after := by
  cases exchanged with
  | cut uploaded =>
    cases uploaded with
    | broken breaks => exact absurd breaks.broken whole
  | @finished between result outcome uploaded finishes =>
    unfold Finishes at finishes
    split at finishes
    · rename_i receives
      have downloaded : Downloaded between after ∧ outcome = .ok () := by
        cases finishes with
        | done downloaded => exact ⟨downloaded, rfl⟩
        | unanswered downloaded broken => exact absurd broken whole
        | unfetched station failed events =>
          have broken : after.Broken := Exchange.broken_add events (by
            rw [LinkEvent.succeeded, failed]
            rfl)
          exact absurd broken whole
      refine ⟨downloaded.2, between, result, uploaded, ?_⟩
      rw [Finished, if_pos receives]
      exact downloaded.1
    · rename_i keeps
      refine ⟨finishes.2, between, result, uploaded, ?_⟩
      rw [Finished, if_neg keeps]
      exact finishes.1

theorem calm_streams (sends : mode.sends = true)
    (calm : (leaves (ExchangeM.exchange mode) exchange).Calm) :
    (leaves (sendStreams (streamsOf mode) {}) exchange).Calm := by
  rw [exchange_eq sends] at calm
  have uploaded := Preserves.before
    (fun _ => (Within.elementary.operative.carries_afterUpload mode).calm) calm
  rw [upload_eq] at uploaded
  exact Preserves.before (fun _ => (Within.elementary.operative.carries_concludeUpload _).calm) uploaded

theorem ends_afterUpload (mode : SyncMode) {entries : List (String × Signature)}
    (caches : exchange.station.Caches entries) :
    EndsIn Exchange.Calm (if mode.receives then download else pure ()) exchange
      fun outcome left => Finishes mode exchange left outcome := by
  unfold Finishes
  split
  · exact ends_download caches
  · exact .of_ok rfl fun _ => ⟨rfl, rfl⟩

theorem ends_exchange (sends : mode.sends = true)
    (streams : Ends (sendStreams (streamsOf mode) {}) exchange fun outcome left =>
      Streamed exchange left origin base items outcome) :
    EndsIn Exchange.Calm (ExchangeM.exchange mode) exchange fun outcome left =>
      Exchanged mode exchange left origin base items outcome := by
  have uploads : EndsIn Exchange.Calm (upload mode) exchange fun outcome left =>
      ∃ result, result.map (fun _ => ()) = outcome ∧
        Uploaded exchange left origin base items result := by
    intro calm
    obtain ⟨result, same, streamed⟩ := posts_upload streams
    exact ⟨result, same, streamed.uploaded calm⟩
  rw [exchange_eq sends]
  refine uploads.bind (fun _ => (Within.elementary.operative.carries_afterUpload mode).calm) ?_ ?_
  · rintro error left _ ⟨result, same, uploaded⟩
    cases result with
    | ok result => cases same
    | error error =>
      cases same
      exact .cut uploaded
  · rintro _ between _ ⟨result, same, uploaded⟩
    cases result with
    | error error => cases same
    | ok result =>
      exact (ends_afterUpload mode uploaded.caches).mono fun outcome left finishes =>
        .finished uploaded finishes

theorem upload_unlisted {exchange : Exchange P L} {cache : SignatureCache} {refusal : Refusal}
    (mode : SyncMode) (begun : exchange.station.source.report.standing ≠ .resting)
    (idle : exchange.station.source.streaming = .idle)
    (cached : exchange.station.source.cache = .ok cache)
    (refused : (Provider.keys exchange.station.source.provider).value = .error refusal) :
    ∃ left, upload mode exchange =
        .error (.provider refusal) { exchange with station := left } ∧
      Within [.streaming] exchange.station left := by
  obtain ⟨stream, rest, streams⟩ : ∃ stream rest, streamsOf mode = stream :: rest := by
    unfold streamsOf
    split
    · exact ⟨_, _, rfl⟩
    · exact ⟨_, _, rfl⟩
  obtain ⟨left, failed, within⟩ := SourceM.first_unlisted stream begun idle cached refused
  have first : onStation (SourceM.first stream) exchange =
      .error (.provider refusal) { exchange with station := left } := by
    rw [onStation, failed]
  refine ⟨left, ?_, within⟩
  rw [upload_eq, streams, sendStreams_cons]
  exact bind_of_error (bind_of_error (bind_of_error first _) _) _

theorem exchange_unlisted {exchange : Exchange P L} {cache : SignatureCache} {refusal : Refusal}
    (begun : exchange.station.source.report.standing ≠ .resting)
    (idle : exchange.station.source.streaming = .idle)
    (cached : exchange.station.source.cache = .ok cache) (sends : mode.sends = true)
    (refused : (Provider.keys exchange.station.source.provider).value = .error refusal) :
    ∃ left, ExchangeM.exchange mode exchange =
        .error (.provider refusal) { exchange with station := left } ∧
      Within [.streaming] exchange.station left := by
  obtain ⟨left, failed, within⟩ := upload_unlisted mode begun idle cached refused
  refine ⟨left, ?_, within⟩
  rw [exchange_eq sends]
  exact bind_of_error failed _

end ExchangeM

def Source.modeFor (source : Source P) (mode : Option SyncMode) : SyncMode :=
  mode.getD source.config.preferredMode

/-- The source of a session, which polls the flag of the session. -/
def Station.sharing (station : Station P) (flag : StopFlag) : Station P :=
  { station with source := station.source.shareFlag flag }

namespace Session

def begun (session : Session) (mode : SyncMode) (exchange : Exchange P L) :
    Exchange P (Recorded L) :=
  { exchange.recorded with station := (exchange.station.sharing session.flag).begun mode }

variable {session : Session} {exchange : Exchange P L} {cache : SignatureCache}
  {chosen : SyncMode} {replies : List (Reply String)}

omit [Provider P] [ServerLink L] in
theorem standing_begun (session : Session) (mode : SyncMode) (exchange : Exchange P L) :
    (session.begun mode exchange).station.source.report.standing ≠ .resting := by
  intro resting
  cases resting

omit [ServerLink L] in
theorem underway_begun (cached : exchange.station.source.cache = .ok cache) :
    (session.begun chosen exchange).Underway (session.begun chosen exchange).station
      cache.snapshot {} := .begun rfl rfl (.refl _) cached

theorem ends_incremental (cached : exchange.station.source.cache = .ok cache)
    (sends : chosen.sends = true) (changes : chosen.sendsAll = false)
    (enumerated : (Provider.keys exchange.station.source.provider).value = .ok replies) :
    EndsIn Exchange.Calm (ExchangeM.exchange chosen) (session.begun chosen exchange)
      fun outcome left => ExchangeM.Exchanged chosen (session.begun chosen exchange) left
        (session.begun chosen exchange).station cache.snapshot
        (ItemStream.bucketItems exchange.station.source.provider
          (ChangeScan.partition (SourceM.scanAnswers exchange.station.source.provider) replies
            cache.snapshot) ChangeBucket.all) outcome := by
  have streams : ExchangeM.streamsOf chosen = ChangeBucket.all.map .bucket := by
    rw [ExchangeM.streamsOf, changes]
    rfl
  have finds : SourceM.Finds (session.begun chosen exchange).station
      (ChangeScan.partition (SourceM.scanAnswers exchange.station.source.provider) replies
        cache.snapshot) := .now rfl cached enumerated rfl
  have sent := ExchangeM.posts_sendBuckets ChangeBucket.all (underway_begun cached) rfl finds
  rw [← streams] at sent
  exact ExchangeM.ends_exchange sends sent

theorem ends_full (cached : exchange.station.source.cache = .ok cache)
    (sends : chosen.sends = true) (everything : chosen.sendsAll = true)
    (enumerated : (Provider.keys exchange.station.source.provider).value = .ok replies) :
    EndsIn Exchange.Calm (ExchangeM.exchange chosen) (session.begun chosen exchange)
      fun outcome left => ExchangeM.Exchanged chosen (session.begun chosen exchange) left
        (session.begun chosen exchange).station []
        ((replies.map Reply.value).filterMap
          (ItemStream.full.item? exchange.station.source.provider)) outcome := by
  have streams : ExchangeM.streamsOf chosen = [.full] := by
    rw [ExchangeM.streamsOf, everything]
    rfl
  have silent : (session.begun chosen exchange).link.events = [] := rfl
  have sent := ExchangeM.posts_sendAll silent rfl rfl cached enumerated
  rw [← streams] at sent
  obtain ⟨base, emptied, streamed⟩ := sent
  intro calm
  obtain rfl := emptied (ExchangeM.calm_streams sends calm)
  exact ExchangeM.ends_exchange sends streamed calm

theorem ends_silent (cached : exchange.station.source.cache = .ok cache)
    (silent : chosen.sends = false) :
    EndsIn Exchange.Calm (ExchangeM.exchange chosen) (session.begun chosen exchange)
      fun outcome left => ExchangeM.Exchanged chosen (session.begun chosen exchange) left
        (session.begun chosen exchange).station cache.snapshot [] outcome := by
  rw [ExchangeM.exchange_of_silent silent]
  intro calm
  have began := (Within.elementary.operative.carries_afterUpload chosen).calm _ calm
  have unsent : Uploaded (session.begun chosen exchange) (session.begun chosen exchange)
      (session.begun chosen exchange).station cache.snapshot [] (.ok (some {})) :=
    .all ((underway_begun cached).posts.tracks began) (List.append_nil _).symm
  exact .finished unsent (ExchangeM.ends_afterUpload chosen unsent.caches calm)

/-! ### Syncs -/

variable {mode : Option SyncMode}

omit [Provider P] [ServerLink L] in
theorem finish_eq (session : Session) (exchanged : Except SyncFailure Unit) (exchange : Exchange P L) :
    (session.finish exchanged exchange).exchange =
        { exchange with station := leaves SourceM.finish exchange.station } ∧
      (session.finish exchanged exchange).outcome =
        exchanged.bind fun _ => yields SourceM.finish exchange.station := by
  unfold finish leaves yields
  cases SourceM.finish exchange.station <;> exact ⟨rfl, rfl⟩

omit [Provider P] [ServerLink L] in
theorem within_noteFailure (session : Session) (error : SyncFailure) (station : Station P) :
    Within [] station (session.noteFailure error station).2 := by
  have raised : Within [] station { station with host := station.host.raise session.flag } := by
    refine .of_host rfl fun flag up => ?_
    show (station.host.flags.raise session.flag).isRaised flag = true
    rw [FlagBoard.isRaised_raise]
    exact (Bool.or_eq_true _ _).mpr (.inl up)
  unfold noteFailure
  cases error with
  | protocol => exact raised
  | cancelled => exact .refl station
  | _ => exact .refl station

/-- A sync that does not begin goes one way whatever the link, and leaves the cache and the disk
alone. -/
theorem sync_unbegun (session : Session) (mode : Option SyncMode) (station : Station P)
    (idle : station.source.config.enabled = true → station.host.isRaised session.flag = false →
      ∀ cache, station.source.cache = .ok cache → station.source.report.standing = .running) :
    ∃ outcome after left, left.source.cache = station.source.cache ∧
      left.host.disk = station.host.disk ∧ ∀ {L : Type} [ServerLink L] (link : L),
        session.sync mode { station, link } = ⟨outcome, after, { station := left, link }⟩ := by
  cases enabled : station.source.config.enabled with
  | false => exact ⟨.ok (), session, station, rfl, rfl, fun link => by simp [sync, enabled]⟩
  | true =>
    cases flag : station.host.isRaised session.flag with
    | true =>
      exact ⟨.error .cancelled, session, station, rfl, rfl, fun link => by simp [sync, enabled, flag]⟩
    | false =>
      have refuses : ∃ error left,
          SourceM.start (station.source.modeFor mode) (station.sharing session.flag) =
            .error error left ∧
          left.source.cache = station.source.cache ∧ left.host.disk = station.host.disk := by
        by_cases running : (station.sharing session.flag).source.report.standing = .running
        · exact ⟨_, _, SourceM.start_running running _, rfl, rfl⟩
        · cases cached : (station.sharing session.flag).source.cache with
          | ok cache => exact absurd (idle enabled flag cache cached) running
          | error cause => exact ⟨_, _, SourceM.start_uncached cached running _, rfl, rfl⟩
      obtain ⟨error, left, refused, cache, disk⟩ := refuses
      refine ⟨.error error, session.publish left.source, left, cache, disk, fun link => ?_⟩
      change SourceM.start (mode.getD station.source.config.preferredMode)
        { station with source := station.source.shareFlag session.flag } = _ at refused
      simp [sync, enabled, flag, refused]

theorem lowered_before (enabled : exchange.station.source.config.enabled = true)
    (lowered : (session.sync mode exchange).exchange.station.host.isRaised session.flag = false) :
    exchange.station.host.isRaised session.flag = false := by
  cases raised : exchange.station.host.isRaised session.flag with
  | false => rfl
  | true =>
    have unchanged : (session.sync mode exchange).exchange = exchange := by
      unfold sync
      simp [enabled, raised]
    rw [unchanged, raised] at lowered
    cases lowered

end Session

end Reconcile
