import Reconcile.Proofs.Session.Course

/-!
Uploads whose flag stays down. The items that are sent are those of the streams, in order, up to the
point where the server is full or a call fails; and the books are right in the end.
-/

namespace Reconcile

variable {P L : Type} [Provider P] {base : List (String × Signature)}

/-- How sending the items of some streams went: all of them were sent, or the server was full or a
call failed after the first of them. -/
inductive Uploaded (before after : Exchange P (Recorded L)) (origin : Station P)
    (base : List (String × Signature)) (items : List OutgoingItem) :
    Except SyncFailure (Option InFlight) → Prop
  | all {inFlight : InFlight} (tracks : after.Tracks origin base)
      (sent : after.sent = before.sent ++ items) :
      Uploaded before after origin base items (.ok (some inFlight))
  | stopped {first : List OutgoingItem} (tracks : after.Tracks origin base)
      (sent : after.sent = before.sent ++ first) (part : first <+: items)
      (full : after.station.source.report.isFull .server = true) :
      Uploaded before after origin base items (.ok none)
  | broken {error : SyncFailure} {first : List OutgoingItem} (breaks : after.Breaks origin base)
      (sent : after.sent = before.sent ++ first) (part : first <+: items) :
      Uploaded before after origin base items (.error error)

namespace Uploaded

variable {first second : Exchange P (Recorded L)} {origin : Station P} {items : List OutgoingItem}
  {outcome : Except SyncFailure (Option InFlight)}

theorem tracks {result : Option InFlight}
    (uploaded : Uploaded first second origin base items (.ok result)) :
    second.Tracks origin base := by
  cases uploaded with
  | all tracks => exact tracks
  | stopped tracks => exact tracks

theorem within (uploaded : Uploaded first second origin base items outcome) :
    Within [.cache, .report, .streaming] origin second.station := by
  cases uploaded with
  | all tracks => exact tracks.within
  | stopped tracks => exact tracks.within
  | broken breaks => exact breaks.within

theorem caches (uploaded : Uploaded first second origin base items outcome) :
    second.station.Caches (second.ledger origin.terms base).entries := by
  cases uploaded with
  | all tracks => exact tracks.books.caches
  | stopped tracks => exact tracks.books.caches
  | broken breaks => exact breaks.caches

theorem unfetched (uploaded : Uploaded first second origin base items outcome) :
    second.fetched = [] := by
  cases uploaded with
  | all tracks => exact tracks.unfetched
  | stopped tracks => exact tracks.unfetched
  | broken breaks => exact breaks.unfetched

theorem sent_first (uploaded : Uploaded first second origin base items outcome) :
    ∃ sent, second.sent = first.sent ++ sent ∧ sent <+: items := by
  cases uploaded with
  | all tracks sent => exact ⟨items, sent, List.prefix_refl items⟩
  | stopped tracks sent part => exact ⟨_, sent, part⟩
  | broken breaks sent part => exact ⟨_, sent, part⟩

end Uploaded

/-! ### Uploads whose flag stays down -/

theorem HeardAll.entries {steps : List UploadStep} {events : List LinkEvent}
    (heard : HeardAll steps events) (terms : Terms) (ledger : Ledger) :
    (ledger.run terms (uploadSteps events)).entries = (ledger.run terms steps).entries := by
  obtain ⟨failed, all⟩ := heard
  rw [all, Ledger.run_append, (Ledger.run_sends _ _ _).1]

theorem Exchange.Posts.tracks {after : Exchange P (Recorded L)} {origin : Station P}
    (posts : after.Posts origin base (uploadSteps after.link.events)) (calm : after.Calm) :
    after.Tracks origin base where
  within := posts.posted.within
  books := ⟨posts.posted.within.config ▸ posts.posted.report, posts.posted.cached,
    posts.posted.within.provider (by simp) ▸ posts.posted.quiet calm⟩
  unfetched := posts.unfetched

theorem Streamed.uploaded {before after : Exchange P (Recorded L)} {origin : Station P}
    {items : List OutgoingItem} {outcome : Except SyncFailure (Option InFlight)}
    (streamed : Streamed before after origin base items outcome) (calm : after.Calm) :
    Uploaded before after origin base items outcome := by
  cases streamed with
  | all underway room sent => exact .all (underway.posts.tracks calm) sent
  | full posts full sent part =>
    exact .stopped (posts.tracks calm) sent part (posts.posted.full.trans full)
  | cut posts short sent part =>
    have heard := short.heard.resolve_right fun stopped => stopped.2 calm
    have broken := short.cause.resolve_right fun stopped => stopped calm
    obtain ⟨begun, cache, cached, entries⟩ := posts.posted.caches
    refine .broken ⟨posts.posted.within, ⟨begun, cache, cached, ?_⟩, broken, posts.unfetched⟩ sent part
    rw [entries, Exchange.ledger, heard.entries]

namespace ExchangeM

variable {exchange : Exchange P (Recorded L)} {inFlight : InFlight} [ServerLink L]

theorem quiet_of_sendBuckets {cache : SignatureCache} {replies : List (Reply String)}
    (begun : exchange.station.source.report.standing ≠ .resting)
    (idle : exchange.station.source.streaming = .idle)
    (cached : exchange.station.source.cache = .ok cache)
    (enumerated : (Provider.keys exchange.station.source.provider).value = .ok replies)
    (calm : (leaves (sendStreams (ChangeBucket.all.map .bucket) inFlight) exchange).Calm) :
    SourceM.scanCancels exchange.station.source.provider replies cache.snapshot = false := by
  rw [ChangeBucket.all, List.map_cons, sendStreams_cons] at calm
  have first := Preserves.before (fun _ => (Within.elementary.operative.carries_sendMore _ _).calm) calm
  rw [sendStream_eq] at first
  have scanned := Preserves.before (fun item exchange =>
    (Within.elementary.operative.carries_sendFrom (.bucket .added)
      (exchange.station.source.remaining (.bucket .added) + 1) item inFlight).calm exchange) first
  rw [leaves_onStation] at scanned
  exact SourceM.quiet_of_firstChange begun idle cached enumerated scanned

end ExchangeM

end Reconcile
