import Reconcile.Proofs.Source.Items
import Reconcile.Proofs.Source.Scanning

/-!
The streams of a source. As long as no step of it fails, the items of a stream are those of its keys
that can be read, in order, each with the content that the provider gives; and only a stop makes a
step fail.
-/

namespace Reconcile

variable {P α : Type}

/-- How one step of a stream goes over the keys that are left: past those that give no item, up to the
first that gives one; without such a key, past all of them. -/
inductive Takes (item? : String → Option OutgoingItem) :
    List String → Option OutgoingItem → List String → Prop
  | nil : Takes item? [] none []
  | found {key : String} {rest : List String} {item : OutgoingItem} (reads : item? key = some item) :
      Takes item? (key :: rest) (some item) rest
  | skip {key : String} {keys rest : List String} {item : Option OutgoingItem}
      (unread : item? key = none) (takes : Takes item? keys item rest) :
      Takes item? (key :: keys) item rest

namespace Takes

variable {item? : String → Option OutgoingItem} {keys rest : List String} {item : Option OutgoingItem}

theorem items (takes : Takes item? keys item rest) :
    keys.filterMap item? = item.toList ++ rest.filterMap item? := by
  induction takes with
  | nil => rfl
  | found reads => rw [List.filterMap_cons, reads]; rfl
  | skip unread _ ih => rw [List.filterMap_cons, unread]; exact ih

theorem of_nil (takes : Takes item? [] item rest) : item = none ∧ rest = [] := by
  cases takes
  exact ⟨rfl, rfl⟩

theorem ends (takes : Takes item? keys item rest) (none : item = none) : rest = [] := by
  induction takes with
  | nil => rfl
  | found reads => cases none
  | skip unread _ ih => exact ih none

theorem shorter (takes : Takes item? keys item rest) (some : item ≠ none) :
    rest.length < keys.length := by
  induction takes with
  | nil => exact absurd rfl some
  | found reads => exact Nat.lt_succ_self _
  | skip unread _ ih => exact Nat.lt_succ_of_lt (ih some)

end Takes

def Station.Streams (station : Station P) (stream : ItemStream) (keys : List String) : Prop :=
  match stream with
  | .full => station.source.streaming = .full keys
  | .bucket bucket => ∃ changes cursors,
    station.source.streaming = .incremental changes cursors ∧ bucket.rest cursors = keys

theorem Station.Streams.remaining {station : Station P} {stream : ItemStream} {keys : List String}
    (streams : station.Streams stream keys) : station.source.remaining stream = keys.length := by
  cases stream with
  | full => simp only [Source.remaining, show station.source.streaming = .full keys from streams]
  | bucket bucket =>
    obtain ⟨changes, cursors, streaming, left⟩ := streams
    simp only [Source.remaining, streaming, left]

structure Station.Offers (station : Station P) (provider : P) (found : Option ChangeSet)
    (stream : ItemStream) (keys : List String) : Prop where
  streams : station.Streams stream keys
  provider : station.source.provider = provider
  found : station.source.changes? = found

theorem Station.Offers.within {station left : Station P} {provider : P} {found : Option ChangeSet}
    {stream : ItemStream} {keys : List String} {parts : List Part}
    (offers : station.Offers provider found stream keys) (within : Within parts station left)
    (provides : .provider ∉ parts) (streams : .streaming ∉ parts) :
    left.Offers provider found stream keys := by
  have streaming := within.streaming streams
  refine ⟨?_, (within.provider provides).trans offers.provider, ?_⟩
  · have streams := offers.streams
    unfold Streams at *
    rwa [streaming]
  · rw [Source.changes?, streaming]
    exact offers.found

theorem Stays.preserves {parts : List Part} {operation : SourceM P α}
    (stays : Stays parts operation) : Preserves Station.Calm operation :=
  fun _ calm => stays.calm calm

theorem Stays.ends {parts : List Part} {operation : SourceM P α} {station : Station P}
    {result : Except SyncFailure α → Station P → Prop} (stays : Stays parts operation)
    (ends : Ends operation station result) :
    Ends operation station fun outcome left => Within parts station left ∧ result outcome left :=
  ⟨stays station, ends⟩

theorem Stays.gives {parts : List Part} {operation : SourceM P α} {station : Station P}
    {result : α → Station P → Prop} (stays : Stays parts operation)
    (gives : Gives Station.Calm operation station result) :
    Gives Station.Calm operation station fun value left =>
      Within parts station left ∧ result value left := by
  refine (stays.ends gives).mono ?_
  rintro (error | value) left ⟨within, holds⟩
  · exact holds
  · exact ⟨within, holds⟩

def Station.enumerating (station : Station P) (keys : List String) : Station P :=
  { station with source := { station.source with streaming := .full keys } }

namespace SourceM

theorem gives_poll (station : Station P) :
    Gives Station.Calm poll station fun _ left => left = station := by
  by_cases calm : station.Calm
  · exact .of_ok (poll_of_calm calm) rfl
  · exact Ends.of_error (poll_of_stopped calm) calm

theorem rest_move (bucket : ChangeBucket) (cursors : Cursors) (keys : List String) :
    bucket.rest (bucket.move cursors keys) = keys := by
  cases bucket <;> rfl

theorem moveCursor_eq {station : Station P} {changes : ChangeSet} {cursors : Cursors}
    (streaming : station.source.streaming = .incremental changes cursors) (bucket : ChangeBucket)
    (keys : List String) :
    moveCursor bucket keys station = .ok () { station with
      source := { station.source with
        streaming := .incremental changes (bucket.move cursors keys) } } := by
  show EStateM.Result.ok () _ = _
  dsimp only
  rw [streaming]

theorem setStreaming_full (keys : List String) (station : Station P) :
    setStreaming (.full keys) station = .ok () (station.enumerating keys) := rfl

variable [Provider P]

theorem load_eq (key : String) (state : Finding) (station : Station P) :
    ∃ left, load key state station = .ok (readItem station.source.provider state key) left := by
  rw [load, bind_of_ok (source_eq _), bind_of_ok (hear_eq _ _), readItem]
  cases (Provider.content station.source.provider key).value with
  | ok content => exact ⟨_, rfl⟩
  | error refusal => exact ⟨_, rfl⟩

theorem itemOf_eq (bucket : ChangeBucket) (key : String) (station : Station P) :
    ∃ left, itemOf bucket key station =
      .ok ((ItemStream.bucket bucket).item? station.source.provider key) left := by
  cases bucket with
  | added => exact load_eq key .added station
  | updated => exact load_eq key .updated station
  | deleted => exact ⟨station, rfl⟩

/-! ### The next item -/

variable {provider : P} {found : Option ChangeSet} {station : Station P}

theorem gives_step {stream : ItemStream} {key : String} {keys : List String} {moved : Station P}
    {move : SourceM P Unit} {read again : SourceM P (Option OutgoingItem)}
    (moves : move station = .ok () moved) (offers : moved.Offers provider found stream keys)
    (reads : ∃ left, read moved = .ok (stream.item? provider key) left) (stays : Stays [] read)
    (later : ∀ left, left.Offers provider found stream keys →
      Gives Station.Calm again left fun item final => ∃ rest,
        final.Offers provider found stream rest ∧ Takes (stream.item? provider) keys item rest) :
    Gives Station.Calm (do
      poll
      move
      match ← read with
      | some item => return some item
      | none => again) station fun item final => ∃ rest,
        final.Offers provider found stream rest ∧
          Takes (stream.item? provider) (key :: keys) item rest := by
  refine (gives_poll station).bind ?_
  rintro _ _ rfl
  obtain ⟨left, read_eq⟩ := reads
  have offered := offers.within (stays.within read_eq) (by simp) (by simp)
  refine .after_ok moves (.after_ok read_eq ?_)
  cases item : stream.item? provider key with
  | some item => exact .of_ok rfl ⟨keys, offered, .found item⟩
  | none =>
    exact (later left offered).mono fun _ _ ⟨rest, offers, takes⟩ => ⟨rest, offers, takes.skip item⟩

theorem gives_end {stream : ItemStream} (offers : station.Offers provider found stream []) :
    Gives Station.Calm (do poll; return none) station fun item final => ∃ rest,
      final.Offers provider found stream rest ∧ Takes (stream.item? provider) [] item rest := by
  refine (gives_poll station).bind ?_
  rintro _ _ rfl
  exact .of_ok rfl ⟨[], offers, .nil⟩

theorem gives_nextReadable (keys : List String)
    (offers : station.Offers provider none .full keys) :
    Gives Station.Calm (nextReadable keys) station fun item left => ∃ rest,
      left.Offers provider none .full rest ∧
        Takes (ItemStream.full.item? provider) keys item rest := by
  induction keys generalizing station with
  | nil => exact gives_end offers
  | cons key rest ih =>
    obtain ⟨_, rfl, _⟩ := offers
    exact gives_step rfl ⟨rfl, rfl, rfl⟩ (load_eq key .full _) (stays_load _ _) fun left offers =>
      ih offers

theorem gives_nextOfBucket {changes : ChangeSet} (bucket : ChangeBucket) (keys : List String)
    (offers : station.Offers provider (some changes) (.bucket bucket) keys) :
    Gives Station.Calm (nextOfBucket bucket keys) station fun item left => ∃ rest,
      left.Offers provider (some changes) (.bucket bucket) rest ∧
        Takes ((ItemStream.bucket bucket).item? provider) keys item rest := by
  induction keys generalizing station with
  | nil => exact gives_end offers
  | cons key rest ih =>
    obtain ⟨⟨_, cursors, streaming, _⟩, rfl, found⟩ := offers
    rw [Source.changes?, streaming] at found
    cases found
    exact gives_step (moveCursor_eq streaming bucket rest)
      ⟨⟨changes, _, rfl, rest_move bucket cursors rest⟩, rfl, rfl⟩ (itemOf_eq bucket key _)
      (stays_itemOf _ _) fun left offers => ih offers

theorem gives_next (stream : ItemStream) {keys : List String}
    (begun : station.source.report.standing ≠ .resting)
    (offers : station.Offers provider found stream keys) :
    Gives Station.Calm (next stream) station fun item left => ∃ rest,
      left.Offers provider found stream rest ∧ Takes (stream.item? provider) keys item rest := by
  cases stream with
  | full =>
    have streaming : station.source.streaming = .full keys := offers.streams
    have none : found = none := by rw [← offers.found, Source.changes?, streaming]
    subst none
    refine .after_ok (source_eq _) ?_
    rw [streaming]
    exact gives_nextReadable keys offers
  | bucket bucket =>
    obtain ⟨changes, cursors, streaming, left⟩ := offers.streams
    have some : found = some changes := by rw [← offers.found, Source.changes?, streaming]
    subst some
    have scanned : scanOnce station = .ok () station := by
      rw [scanOnce, bind_of_ok (requireRunning_ok begun _), bind_of_ok (source_eq _), streaming]
      rfl
    refine .after_ok scanned (.after_ok (source_eq _) ?_)
    rw [streaming]
    dsimp only
    rw [left]
    exact gives_nextOfBucket bucket keys offers

/-! ### The first item -/

/-- A scan of a source, now or earlier in its sync, gives a change set. -/
inductive Finds (station : Station P) (changes : ChangeSet) : Prop
  | earlier (found : station.source.changes? = some changes)
  | now {cache : SignatureCache} {replies : List (Reply String)}
      (idle : station.source.streaming = .idle) (cached : station.source.cache = .ok cache)
      (enumerated : (Provider.keys station.source.provider).value = .ok replies)
      (found : changes =
        ChangeScan.partition (scanAnswers station.source.provider) replies cache.snapshot)

theorem gives_scanOnce {changes : ChangeSet} (begun : station.source.report.standing ≠ .resting)
    (finds : Finds station changes) :
    Gives Station.Calm scanOnce station fun _ left => left.source.changes? = some changes := by
  refine .after_ok (requireRunning_ok begun _) (.after_ok (source_eq _) ?_)
  cases finds with
  | earlier found =>
    cases streaming : station.source.streaming with
    | incremental changes cursors => exact .of_ok rfl found
    | idle => rw [Source.changes?, streaming] at found; cases found
    | full queue => rw [Source.changes?, streaming] at found; cases found
  | now idle cached enumerated found =>
    rw [idle]
    refine (gives_scan station cached enumerated).bind ?_
    rintro _ left rfl
    exact .of_ok rfl (congrArg some found.symm)

theorem scan_unlisted {cache : SignatureCache} {refusal : Refusal}
    (cached : station.source.cache = .ok cache)
    (refused : (Provider.keys station.source.provider).value = .error refusal) :
    ∃ left, scan station = .error (.provider refusal) left := by
  rw [scan, bind_of_ok (cache_ok cached), bind_of_ok (source_eq _), bind_of_ok (hear_eq _ _), refused,
    bind_of_error (expect_error _ _)]
  exact ⟨_, rfl⟩

theorem firstChange_unlisted {cache : SignatureCache} {refusal : Refusal} (bucket : ChangeBucket)
    (begun : station.source.report.standing ≠ .resting) (idle : station.source.streaming = .idle)
    (cached : station.source.cache = .ok cache)
    (refused : (Provider.keys station.source.provider).value = .error refusal) :
    ∃ left, firstChange bucket station = .error (.provider refusal) left := by
  obtain ⟨left, failed⟩ := scan_unlisted cached refused
  have once : scanOnce station = .error (.provider refusal) left := by
    rw [scanOnce_eq begun idle, bind_of_error failed]
  exact ⟨left, by rw [firstChange, bind_of_error once]⟩

theorem first_unlisted {cache : SignatureCache} {refusal : Refusal} (stream : ItemStream)
    (begun : station.source.report.standing ≠ .resting) (idle : station.source.streaming = .idle)
    (cached : station.source.cache = .ok cache)
    (refused : (Provider.keys station.source.provider).value = .error refusal) :
    ∃ left, first stream station = .error (.provider refusal) left ∧
      Within [.streaming] station left := by
  cases stream with
  | full =>
    have heard := hear_eq (Provider.keys station.source.provider) station
    have stays : Stays (P := P) [.streaming] (hear (Provider.keys station.source.provider)) :=
      stays_hear _
    refine ⟨_, ?_, stays.within heard⟩
    rw [refused] at heard
    refine (bind_of_ok (requireRunning_ok begun _) _).trans ((bind_of_ok (source_eq _) _).trans ?_)
    rw [idle]
    refine (bind_of_ok (source_eq _) _).trans ((bind_of_ok heard _).trans ?_)
    exact bind_of_error (expect_error refusal _) _
  | bucket bucket =>
    obtain ⟨left, failed⟩ := firstChange_unlisted bucket begun idle cached refused
    have stays : Stays (P := P) [.streaming] (firstChange bucket) := stays_firstChange (by simp) bucket
    have within := stays station
    rw [leaves_of_error failed] at within
    exact ⟨left, failed, within⟩

theorem stays_restartBucket (bucket : ChangeBucket) : Stays [.streaming] (do
    if let some changes := (← source).changes? then moveCursor bucket (bucket.keys changes)
    nextChange bucket : SourceM P (Option OutgoingItem)) := by
  refine stays_source.bind fun source => ?_
  split
  · exact (stays_moveCursor (by simp) _ _).bind fun _ => stays_nextChange (by simp) _
  · exact stays_nextChange (by simp) _

/-- No reply to the scan that begins a bucket asks for a stop, if the source is calm after it. -/
theorem quiet_of_firstChange {cache : SignatureCache} {replies : List (Reply String)}
    {bucket : ChangeBucket} (begun : station.source.report.standing ≠ .resting)
    (idle : station.source.streaming = .idle) (cached : station.source.cache = .ok cache)
    (enumerated : (Provider.keys station.source.provider).value = .ok replies)
    (calm : (leaves (firstChange bucket) station).Calm) :
    scanCancels station.source.provider replies cache.snapshot = false := by
  have scanned : (leaves scanOnce station).Calm :=
    Preserves.before (fun _ => (stays_restartBucket bucket).preserves) calm
  rw [leaves, scanOnce_eq begun idle, ← leaves] at scanned
  have streams : ∀ changes : ChangeSet, Stays [.streaming] (setStreaming
      (.incremental changes ⟨changes.added, changes.updated, changes.deleted⟩) : SourceM P Unit) :=
    fun _ => stays_setStreaming (by simp) _
  have ended : (leaves scan station).Calm :=
    Preserves.before (fun changes => (streams changes).preserves) scanned
  exact ((scan_eq station cached enumerated).1.mp ended).2

theorem gives_firstChange {changes : ChangeSet} (bucket : ChangeBucket)
    (begun : station.source.report.standing ≠ .resting) (finds : Finds station changes) :
    Gives Station.Calm (firstChange bucket) station fun item left => ∃ rest,
      left.Offers station.source.provider (some changes) (.bucket bucket) rest ∧
        Takes ((ItemStream.bucket bucket).item? station.source.provider) (bucket.keys changes) item
          rest := by
  have scans : Stays [.streaming] (scanOnce : SourceM P Unit) := stays_scanOnce (by simp)
  refine (scans.gives (gives_scanOnce begun finds)).bind ?_
  rintro _ left ⟨within, found⟩
  refine .after_ok (source_eq _) ?_
  rw [found]
  cases streaming : left.source.streaming with
  | idle => rw [Source.changes?, streaming] at found; cases found
  | full queue => rw [Source.changes?, streaming] at found; cases found
  | incremental changes cursors =>
    rw [Source.changes?, streaming] at found
    cases found
    refine .after_ok (moveCursor_eq streaming bucket _) ?_
    refine gives_next (.bucket bucket) ?_ ⟨⟨changes, _, rfl, rest_move _ _ _⟩, ?_, rfl⟩
    · show left.source.report.standing ≠ .resting
      rwa [within.report (by simp)]
    · exact within.provider (by simp)

omit [Provider P] in
theorem noteLongKey_ok (key : String) (station : Station P) :
    ∃ left, noteLongKey key station = .ok () left := by
  rw [noteLongKey, bind_of_ok (source_eq _)]
  split
  · exact ⟨_, rfl⟩
  · exact ⟨_, rfl⟩

omit [Provider P] in
theorem gives_collectKeys (replies : List (Reply String)) (station : Station P) :
    Gives Station.Calm (collectKeys replies) station fun keys _ =>
      keys = replies.map Reply.value := by
  induction replies generalizing station with
  | nil => exact .of_ok rfl rfl
  | cons reply rest ih =>
    refine .after_ok (hear_eq _ _) ((gives_poll _).bind ?_)
    rintro _ left rfl
    obtain ⟨noted, ran⟩ := noteLongKey_ok reply.value { station with
      host := if reply.cancels then station.host.raise station.source.flag else station.host }
    refine .after_ok ran ((ih noted).bind ?_)
    rintro _ last rfl
    exact .of_ok rfl rfl

theorem gives_startEnumeration {cache : SignatureCache} {replies : List (Reply String)}
    (begun : station.source.report.standing ≠ .resting) (idle : station.source.streaming = .idle)
    (cached : station.source.cache = .ok cache)
    (enumerated : (Provider.keys station.source.provider).value = .ok replies) :
    Gives Station.Calm startEnumeration station fun item left => ∃ rest,
      left.Offers station.source.provider none .full rest ∧ left.source.cache = .ok cache.clear ∧
        Takes (ItemStream.full.item? station.source.provider) (replies.map Reply.value) item rest := by
  have streams : Stays [.streaming] (next .full : SourceM P (Option OutgoingItem)) :=
    stays_next (by simp) .full
  have collects : Stays [] (collectKeys replies : SourceM P (List String)) :=
    stays_collectKeys replies
  refine .after_ok (requireRunning_ok begun _) (.after_ok (source_eq _) ?_)
  rw [idle]
  refine .after_ok (source_eq _) (.after_ok (hear_eq _ _) ?_)
  rw [enumerated]
  refine .after_ok (expect_ok _) ((collects.gives (gives_collectKeys replies _)).bind ?_)
  rintro _ left ⟨within, rfl⟩
  have held : left.source.cache = .ok cache := (within.cache List.not_mem_nil).trans cached
  have provider : left.source.provider = station.source.provider := within.provider List.not_mem_nil
  have streaming := setStreaming_full (replies.map Reply.value) (left.withCache cache.clear)
  refine .after_ok (updateCache_ok left held _) (.after_ok streaming ?_)
  have active : ((left.withCache cache.clear).enumerating
      (replies.map Reply.value)).source.report.standing ≠ .resting := by
    show left.source.report.standing ≠ .resting
    rwa [within.report List.not_mem_nil]
  refine (streams.gives (gives_next .full active ⟨rfl, provider, rfl⟩)).mono ?_
  rintro item last ⟨kept, rest, offers, takes⟩
  exact ⟨rest, offers, kept.cache (by simp), takes⟩

end SourceM

end Reconcile
