import Reconcile.Proofs.Source.Bracketed
import Reconcile.Proofs.Source.Modes
import Reconcile.Proofs.Source.Refresh
import Reconcile.Proofs.Source.Unsaved

/-!
The turns of buckets in an incremental sync. The first call on a bucket scans for changes, and the
change set stays as it is. From then on each bucket streams its keys on its own: the answers to the
calls on it since it last began are the items of its keys, in order, as the provider gives them when
the calls come to them.
-/

namespace Reconcile

variable {P : Type}

/-- A call on a bucket that was answered: whether it went back to the start, the provider as it was
then, and the answer. -/
structure Turn (P : Type) where
  restarts : Bool
  provider : P
  answer : Option OutgoingItem
  deriving DecidableEq

namespace Turn

def keep (kept : List (Turn P)) (turn : Turn P) : List (Turn P) :=
  if turn.restarts then [turn] else kept ++ [turn]

def sinceFirst (turns : List (Turn P)) : List (Turn P) := turns.foldl keep []

theorem foldl_keep_onward {turns : List (Turn P)} (onward : ∀ turn ∈ turns, turn.restarts = false)
    (kept : List (Turn P)) : turns.foldl keep kept = kept ++ turns := by
  induction turns generalizing kept with
  | nil => exact (List.append_nil kept).symm
  | cons turn rest ih =>
    have keeps : keep kept turn = kept ++ [turn] := by
      rw [keep, onward turn List.mem_cons_self, if_neg Bool.false_ne_true]
    rw [List.foldl_cons, keeps, ih fun later member => onward later (List.mem_cons_of_mem _ member),
      List.append_assoc]
    rfl

theorem sinceFirst_concat (turns : List (Turn P)) (turn : Turn P) :
    ∃ before, sinceFirst (turns ++ [turn]) = before ++ [turn] := by
  rw [sinceFirst, List.foldl_append, List.foldl_cons, List.foldl_nil, keep]
  split
  · exact ⟨[], rfl⟩
  · exact ⟨_, rfl⟩

theorem eq_nil_of_sinceFirst {turns : List (Turn P)} (none : sinceFirst turns = []) : turns = [] := by
  rcases turns.eq_nil_or_concat with rfl | ⟨before, turn, rfl⟩
  · rfl
  · obtain ⟨kept, same⟩ := sinceFirst_concat before turn
    rw [List.concat_eq_append, same] at none
    exact absurd none (by simp)

theorem mem_sinceFirst_append {turns later : List (Turn P)} {last : Turn P}
    (taken : turns.getLast? = some last) (onward : ∀ turn ∈ later, turn.restarts = false) :
    last ∈ sinceFirst (turns ++ later) := by
  obtain ⟨before, rfl⟩ := List.getLast?_eq_some_iff.mp taken
  obtain ⟨kept, same⟩ := sinceFirst_concat before last
  have more : sinceFirst (before ++ [last] ++ later) = sinceFirst (before ++ [last]) ++ later := by
    rw [sinceFirst, List.foldl_append, foldl_keep_onward onward]
    rfl
  rw [more, same]
  simp

end Turn

/-- How the turns of a bucket go over its keys: one after the other from the start, each from where the
one before it stopped. The keys after the last stop are left. -/
inductive Walk (item? : P → String → Option OutgoingItem) (keys : List String) :
    List (Turn P) → List String → Prop
  | begun : Walk item? keys [] keys
  | turned {turns : List (Turn P)} {turn : Turn P} {left rest : List String}
      (walk : Walk item? keys turns left) (takes : Takes (item? turn.provider) left turn.answer rest) :
      Walk item? keys (turns ++ [turn]) rest

theorem Takes.passed {item? : String → Option OutgoingItem} {keys rest : List String}
    {item : Option OutgoingItem} (takes : Takes item? keys item rest) :
    ∃ passed, keys = passed ++ rest ∧ passed.filterMap item? = item.toList := by
  induction takes with
  | nil => exact ⟨[], rfl, rfl⟩
  | found reads => exact ⟨[_], rfl, by rw [List.filterMap_cons, reads]; rfl⟩
  | skip unread _ ih =>
    obtain ⟨passed, rfl, gives⟩ := ih
    exact ⟨_ :: passed, rfl, by rw [List.filterMap_cons, unread]; exact gives⟩

namespace Walk

variable {item? : P → String → Option OutgoingItem} {keys left rest : List String}
  {turns : List (Turn P)} {turn : Turn P}

theorem keep (walk : Walk item? keys turns left)
    (takes : Takes (item? turn.provider) (if turn.restarts then keys else left) turn.answer rest) :
    Walk item? keys (Turn.keep turns turn) rest := by
  rw [Turn.keep]
  cases restarts : turn.restarts with
  | true =>
    rw [restarts, if_pos rfl] at takes
    exact .turned .begun takes
  | false =>
    rw [restarts, if_neg Bool.false_ne_true] at takes
    exact .turned walk takes

/-- The keys that turns came to, each with the provider as it was then, give the answers and are
followed by those that are left. -/
theorem reached (walk : Walk item? keys turns left) :
    ∃ reached : List (P × String), keys = reached.map Prod.snd ++ left ∧
      turns.filterMap Turn.answer = reached.filterMap (fun moment => item? moment.1 moment.2) ∧
      ∀ moment ∈ reached, ∃ turn ∈ turns, turn.provider = moment.1 := by
  induction walk with
  | begun => exact ⟨[], rfl, rfl, nofun⟩
  | @turned turns turn left rest walk takes ih =>
    obtain ⟨reached, covers, gives, moments⟩ := ih
    obtain ⟨passed, rfl, items⟩ := takes.passed
    refine ⟨reached ++ passed.map (turn.provider, ·), ?_, ?_, ?_⟩
    · simp [covers, Function.comp_def]
    · have last : ([turn] : List (Turn P)).filterMap Turn.answer = turn.answer.toList := by
        rw [List.filterMap_cons]
        cases turn.answer <;> rfl
      rw [List.filterMap_append, List.filterMap_append, gives, last, ← items, List.filterMap_map]
      rfl
    · intro moment member
      rcases List.mem_append.mp member with early | now
      · obtain ⟨turn, taken, same⟩ := moments moment early
        exact ⟨turn, List.mem_append_left _ taken, same⟩
      · obtain ⟨key, _, rfl⟩ := List.mem_map.mp now
        exact ⟨turn, by simp, rfl⟩

theorem ended (walk : Walk item? keys turns left) {last : Turn P} (taken : last ∈ turns)
    (none : last.answer = none) : left = [] := by
  induction walk with
  | begun => cases taken
  | @turned turns turn left rest walk takes ih =>
    rcases List.mem_append.mp taken with early | now
    · rw [ih early] at takes
      exact takes.of_nil.2
    · obtain rfl := List.mem_singleton.mp now
      exact takes.ends none

end Walk

/-! ### Turns in a run -/

def Operation.isBucketwise : Operation → Bool
  | start _ | finish | first .full | next .full | probe => false
  | _ => true

namespace Event

/-- An event of an incremental sync that is left alone: a call on a bucket, a verdict, a change of
the server, what the session records, or an edit of the items. -/
def isBucketwise : Event P → Bool
  | act operation => operation.isBucketwise
  | transfer .. | note _ | edit _ => true
  | signal _ | share _ => false

theorem goesOn_of_bucketwise {event : Event P} (bucketwise : event.isBucketwise = true) :
    event.goesOn = true ∧ event.isFlagless = true := by
  cases event with
  | act operation =>
    refine ⟨?_, rfl⟩
    cases operation with
    | start mode => cases bucketwise
    | finish => cases bucketwise
    | _ => rfl
  | transfer side command key => exact ⟨rfl, rfl⟩
  | note notice => exact ⟨rfl, rfl⟩
  | edit change => exact ⟨rfl, rfl⟩
  | signal change => cases bucketwise
  | share flag => cases bucketwise

theorem bucket_of_stream {event : Event P} (bucketwise : event.isBucketwise = true)
    {stream : ItemStream} {restarts : Bool} (calls : event.stream? = some (stream, restarts)) :
    ∃ bucket, stream = .bucket bucket := by
  cases stream with
  | bucket bucket => exact ⟨bucket, rfl⟩
  | full =>
    cases event with
    | act operation => cases operation <;> cases calls <;> cases bucketwise
    | _ => cases calls

variable [Provider P] {event : Event P} {station : Station P}

def turns (bucket : ChangeBucket) (event : Event P) (station : Station P) : List (Turn P) :=
  match event.stream? with
  | some (.bucket called, restarts) =>
    if called = bucket then
      (yields (SourceM.ask (.bucket called) restarts) station).toOption.toList.map fun answer =>
        { restarts, provider := station.source.provider, answer }
    else []
  | _ => []

def turnsAll (bucket : ChangeBucket) : List (Event P) → Station P → List (Turn P)
  | [], _ => []
  | event :: rest, station => event.turns bucket station ++ turnsAll bucket rest (event.after station)

theorem turnsAll_append (bucket : ChangeBucket) (early later : List (Event P)) (station : Station P) :
    turnsAll bucket (early ++ later) station =
      turnsAll bucket early station ++ turnsAll bucket later (runAll early station) := by
  induction early generalizing station with
  | nil => rfl
  | cons event rest ih =>
    rw [List.cons_append, turnsAll, ih, turnsAll, List.append_assoc]
    rfl

theorem turns_still (still : event.stream? = none) (bucket : ChangeBucket) :
    event.turns bucket station = [] := by
  rw [turns, still]

theorem turns_of_ok {called : ChangeBucket} {restarts : Bool} {answer : Option OutgoingItem}
    (calls : event.stream? = some (.bucket called, restarts))
    (answers : yields (SourceM.ask (.bucket called) restarts) station = .ok answer)
    (bucket : ChangeBucket) : event.turns bucket station =
      if called = bucket then [⟨restarts, station.source.provider, answer⟩] else [] := by
  rw [turns, calls]
  dsimp only
  rw [answers]
  rfl

theorem turns_of_error {called : ChangeBucket} {restarts : Bool} {error : SyncFailure}
    (calls : event.stream? = some (.bucket called, restarts))
    (fails : yields (SourceM.ask (.bucket called) restarts) station = .error error)
    (bucket : ChangeBucket) : event.turns bucket station = [] := by
  rw [turns, calls]
  dsimp only
  rw [fails]
  split <;> rfl

theorem restarts_of_mem {bucket : ChangeBucket} {turn : Turn P}
    (taken : turn ∈ event.turns bucket station) :
    event.stream? = some (.bucket bucket, turn.restarts) := by
  rw [turns] at taken
  split at taken
  · rename_i called restarts calls
    split at taken
    · rename_i same
      obtain ⟨answer, _, rfl⟩ := List.mem_map.mp taken
      rw [calls, same]
    · cases taken
  · cases taken

theorem onward_of_mem {bucket : ChangeBucket} {events : List (Event P)} {turn : Turn P}
    (onward : ∀ event ∈ events, event.stream? ≠ some (.bucket bucket, true))
    (taken : turn ∈ turnsAll bucket events station) : turn.restarts = false := by
  induction events generalizing station with
  | nil => cases taken
  | cons event rest ih =>
    rcases List.mem_append.mp taken with now | later
    · refine (Bool.not_eq_true _).mp fun restarts => onward event List.mem_cons_self ?_
      rw [restarts_of_mem now, restarts]
    · exact ih (fun other member => onward other (List.mem_cons_of_mem _ member)) later

/-! ### An open sync -/

theorem within_after (goesOn : event.goesOn = true) (flagless : event.isFlagless = true) :
    Within [.provider, .cache, .report, .streaming] station (event.after station) :=
  keeps_after Within.elementary goesOn flagless station

theorem begun_after (begun : station.source.report.standing ≠ .resting)
    (bucketwise : event.isBucketwise = true) :
    (event.after station).source.report.standing ≠ .resting := by
  obtain ⟨goesOn, flagless⟩ := goesOn_of_bucketwise bucketwise
  rcases keeps_after FailsAtMost.elementary goesOn flagless station with ⟨standing, _⟩ | ⟨failed, _⟩
  · rwa [standing]
  · rw [failed]
    exact nofun

theorem calm_runAll {events : List (Event P)}
    (bucketwise : ∀ event ∈ events, event.isBucketwise = true)
    (calm : (runAll events station).Calm) : station.Calm := by
  induction events generalizing station with
  | nil => exact calm
  | cons event rest ih =>
    obtain ⟨goesOn, flagless⟩ := goesOn_of_bucketwise (bucketwise event List.mem_cons_self)
    exact (within_after goesOn flagless).calm
      (ih (fun later member => bucketwise later (List.mem_cons_of_mem _ member)) calm)

theorem syncs_after {cache : SignatureCache} (syncs : station.Syncs cache)
    (bucketwise : event.isBucketwise = true) (calm : (event.after station).Calm) :
    ∃ next, (event.after station).Syncs next := by
  obtain ⟨goesOn, flagless⟩ := goesOn_of_bucketwise bucketwise
  obtain ⟨change, cached⟩ :=
    (keeps_after Unsaved.elementary goesOn flagless station).updated _ syncs.cached
  exact ⟨_, calm, begun_after syncs.begun bucketwise, cached⟩

end Event

/-! ### The cursors over a run -/

/-- What a source in a sync tells of the turns of its buckets: there were none before the first scan,
and since then they go over the keys of the change set as far as the cursors are. -/
inductive Station.Tells [Provider P] (station : Station P) (kept : ChangeBucket → List (Turn P)) :
    Prop
  | unscanned (idle : station.source.streaming = .idle) (untold : ∀ bucket, kept bucket = [])
  | scanned {changes : ChangeSet} (found : station.source.changes? = some changes)
      (distinct : (ChangeBucket.all.flatMap fun bucket => bucket.keys changes).Nodup)
      (walks : ∀ bucket, ∃ left, station.Streams (.bucket bucket) left ∧
        Walk bucket.item? (bucket.keys changes) (kept bucket) left)

section Tells

variable [Provider P] {station : Station P} {kept : ChangeBucket → List (Turn P)}

theorem Station.Tells.of_streaming {after : Station P} (tells : station.Tells kept)
    (same : after.source.streaming = station.source.streaming) : after.Tells kept := by
  cases tells with
  | unscanned idle untold => exact .unscanned (same.trans idle) untold
  | scanned found distinct walks =>
    refine .scanned (by rwa [Source.changes?, same]) distinct fun bucket => ?_
    obtain ⟨left, streams, walk⟩ := walks bucket
    refine ⟨left, ?_, walk⟩
    unfold Streams at *
    rwa [same]

def Turn.keepAt (kept : ChangeBucket → List (Turn P)) (bucket : ChangeBucket) (turn : Turn P)
    (other : ChangeBucket) : List (Turn P) :=
  if bucket = other then Turn.keep (kept other) turn else kept other

theorem Station.Tells.ask_scanned {changes : ChangeSet}
    (begun : station.source.report.standing ≠ .resting)
    (found : station.source.changes? = some changes)
    (distinct : (ChangeBucket.all.flatMap fun bucket => bucket.keys changes).Nodup)
    (walks : ∀ bucket, ∃ left, station.Streams (.bucket bucket) left ∧
      Walk bucket.item? (bucket.keys changes) (kept bucket) left)
    (bucket : ChangeBucket) (restarts : Bool)
    (calm : (leaves (SourceM.ask (.bucket bucket) restarts) station).Calm) :
    ∃ answer, yields (SourceM.ask (.bucket bucket) restarts) station = .ok answer ∧
      (leaves (SourceM.ask (.bucket bucket) restarts) station).Tells
        (Turn.keepAt kept bucket ⟨restarts, station.source.provider, answer⟩) := by
  obtain ⟨cursors, streaming⟩ := SourceM.streaming_of_found found
  have elsewhere := SourceM.elsewhere_ask begun streaming bucket restarts
  have gives := SourceM.gives_ask begun streaming bucket restarts
  cases ran : SourceM.ask (.bucket bucket) restarts station with
  | error error left =>
    rw [Gives, Ends, yields_of_error ran, leaves_of_error ran] at gives
    exact absurd (leaves_of_error ran ▸ calm) gives
  | ok answer left =>
    rw [Gives, Ends, yields_of_ok ran, leaves_of_ok ran] at gives
    rw [leaves_of_ok ran] at elsewhere ⊢
    obtain ⟨rest, offers, takes⟩ := gives
    refine ⟨answer, yields_of_ok ran, .scanned offers.found distinct fun other => ?_⟩
    obtain ⟨start, streams, walk⟩ := walks other
    rw [Turn.keepAt]
    by_cases own : bucket = other
    · subst own
      obtain ⟨_, _, same, rfl⟩ := streams
      cases streaming.symm.trans same
      rw [if_pos rfl]
      exact ⟨rest, offers.streams, walk.keep takes⟩
    · rw [if_neg own]
      exact ⟨start, elsewhere other start (Ne.symm own) streams, walk⟩

theorem Station.Tells.ask_idle {cache : SignatureCache} (syncs : station.Syncs cache)
    (idle : station.source.streaming = .idle) (bucket : ChangeBucket) (restarts : Bool)
    (calm : (leaves (SourceM.ask (.bucket bucket) restarts) station).Calm) :
    (∃ refusal left, (Provider.keys station.source.provider).value = .error refusal ∧
      SourceM.ask (.bucket bucket) restarts station = .error (.provider refusal) left ∧
      left.source.streaming = .idle) ∨
    ∃ replies answer, (Provider.keys station.source.provider).value = .ok replies ∧
      yields (SourceM.ask (.bucket bucket) restarts) station = .ok answer ∧
      (leaves (SourceM.ask (.bucket bucket) restarts) station).source.changes? = some
        (ChangeScan.partition (SourceM.scanAnswers station.source.provider) replies cache.snapshot) ∧
      (leaves (SourceM.ask (.bucket bucket) restarts) station).Tells
        (Turn.keepAt (fun _ => []) bucket ⟨restarts, station.source.provider, answer⟩) := by
  have scans : Stays (P := P) [] SourceM.scan := SourceM.stays_scan
  cases listed : (Provider.keys station.source.provider).value with
  | error refusal =>
    obtain ⟨left, failed⟩ := SourceM.scan_unlisted syncs.cached listed
    have once : SourceM.scanOnce station = .error (.provider refusal) left := by
      rw [SourceM.scanOnce_eq syncs.begun idle, bind_of_error failed]
    have within := scans station
    rw [leaves_of_error failed] at within
    exact .inl ⟨refusal, left, rfl, SourceM.ask_unscanned once bucket restarts,
      (within.streaming List.not_mem_nil).trans idle⟩
  | ok replies =>
    refine .inr ⟨replies, ?_⟩
    have gives := SourceM.gives_scan station syncs.cached listed
    cases ran : SourceM.scan station with
    | error error left =>
      have once : SourceM.scanOnce station = .error error left := by
        rw [SourceM.scanOnce_eq syncs.begun idle, bind_of_error ran]
      rw [Gives, Ends, yields_of_error ran, leaves_of_error ran] at gives
      rw [leaves_of_error (SourceM.ask_unscanned once bucket restarts)] at calm
      exact absurd calm gives
    | ok changes between =>
      rw [Gives, Ends, yields_of_ok ran, leaves_of_ok ran] at gives
      have within := scans.within ran
      have once := SourceM.scanOnce_of_scan syncs.begun idle ran
      have begun : (SourceM.scannedAs between changes).source.report.standing ≠ .resting := by
        show between.source.report.standing ≠ .resting
        rw [within.report List.not_mem_nil]
        exact syncs.begun
      have same := SourceM.ask_of_scanOnce once begun rfl bucket restarts
      have provider : between.source.provider = station.source.provider :=
        within.provider List.not_mem_nil
      have distinct : (ChangeBucket.all.flatMap fun bucket => bucket.keys changes).Nodup := by
        rw [gives]
        exact ItemStream.nodup_buckets cache.nodup_snapshot
      rw [leaves, same, ← leaves] at calm
      rw [yields, leaves, same, ← leaves, ← yields]
      obtain ⟨answer, answers, tells⟩ := ask_scanned begun rfl distinct
        (fun bucket => ⟨_, SourceM.streams_scannedAs between changes bucket, .begun⟩) bucket restarts calm
      refine ⟨answer, rfl, answers, ?_, ?_⟩
      · rw [← gives]
        exact SourceM.keepsFound_ask bucket restarts _ changes rfl
      · rw [← provider]
        exact tells

end Tells

namespace Event

variable [Provider P] {event : Event P} {station : Station P} {kept : ChangeBucket → List (Turn P)}

theorem tells_after {cache : SignatureCache} (syncs : station.Syncs cache)
    (tells : station.Tells kept) (bucketwise : event.isBucketwise = true)
    (calm : (event.after station).Calm) : (event.after station).Tells fun bucket =>
      (event.turns bucket station).foldl Turn.keep (kept bucket) := by
  cases calls : event.stream? with
  | none =>
    have same := streaming_after (goesOn_of_bucketwise bucketwise).1 calls station
    simpa only [turns_still calls, List.foldl_nil] using tells.of_streaming same
  | some call =>
    obtain ⟨stream, restarts⟩ := call
    obtain ⟨bucket, rfl⟩ := bucket_of_stream bucketwise calls
    rw [after_of_stream calls] at calm ⊢
    have answered : ∀ {told answer}, told = kept →
        yields (SourceM.ask (.bucket bucket) restarts) station = .ok answer →
        (leaves (SourceM.ask (.bucket bucket) restarts) station).Tells
          (Turn.keepAt told bucket ⟨restarts, station.source.provider, answer⟩) →
        (leaves (SourceM.ask (.bucket bucket) restarts) station).Tells fun other =>
          (event.turns other station).foldl Turn.keep (kept other) := by
      rintro told answer rfl answers tells
      refine (funext fun other => ?_ : (fun other => (event.turns other station).foldl Turn.keep
        (told other)) = Turn.keepAt told bucket _) ▸ tells
      rw [turns_of_ok calls answers, Turn.keepAt]
      split <;> rfl
    cases tells with
    | scanned found distinct walks =>
      obtain ⟨answer, answers, tells⟩ :=
        Station.Tells.ask_scanned syncs.begun found distinct walks bucket restarts calm
      exact answered rfl answers tells
    | unscanned idle untold =>
      rcases Station.Tells.ask_idle syncs idle bucket restarts calm with
        ⟨refusal, left, -, failed, still⟩ | ⟨replies, answer, -, answers, -, tells⟩
      · rw [leaves_of_error failed]
        refine .unscanned still fun other => ?_
        rw [turns_of_error calls (yields_of_error failed), untold]
        rfl
      · exact answered (funext fun other => (untold other).symm) answers tells

theorem tells_runAll {events : List (Event P)} {cache : SignatureCache} (syncs : station.Syncs cache)
    (tells : station.Tells kept) (bucketwise : ∀ event ∈ events, event.isBucketwise = true)
    (calm : (runAll events station).Calm) :
    (∃ held, (runAll events station).Syncs held) ∧ (runAll events station).Tells fun bucket =>
      (turnsAll bucket events station).foldl Turn.keep (kept bucket) := by
  induction events generalizing station kept cache with
  | nil => exact ⟨⟨cache, syncs⟩, tells⟩
  | cons event rest ih =>
    have now := bucketwise event List.mem_cons_self
    have later := fun other member => bucketwise other (List.mem_cons_of_mem event member)
    have between : (event.after station).Calm := calm_runAll later calm
    obtain ⟨held, goes⟩ := syncs_after syncs now between
    simp only [turnsAll, List.foldl_append]
    exact ih goes (tells_after syncs tells now between) later calm

/-- No event moves the cursor of a bucket but a call on that bucket. -/
theorem streams_after {bucket : ChangeBucket} {left : List String}
    (begun : station.source.report.standing ≠ .resting)
    (streams : station.Streams (.bucket bucket) left) (bucketwise : event.isBucketwise = true)
    (elsewhere : ∀ restarts, event.stream? ≠ some (.bucket bucket, restarts)) :
    (event.after station).Streams (.bucket bucket) left := by
  cases calls : event.stream? with
  | none =>
    have same := streaming_after (goesOn_of_bucketwise bucketwise).1 calls station
    unfold Station.Streams at *
    rwa [same]
  | some call =>
    obtain ⟨stream, restarts⟩ := call
    obtain ⟨other, rfl⟩ := bucket_of_stream bucketwise calls
    rw [after_of_stream calls]
    have apart : bucket ≠ other := by
      rintro rfl
      exact elsewhere restarts calls
    obtain ⟨changes, cursors, streaming, -⟩ := id streams
    exact SourceM.elsewhere_ask begun streaming other restarts bucket left apart streams

theorem streams_runAll {events : List (Event P)} {bucket : ChangeBucket} {left : List String}
    (begun : station.source.report.standing ≠ .resting)
    (streams : station.Streams (.bucket bucket) left)
    (bucketwise : ∀ event ∈ events, event.isBucketwise = true)
    (elsewhere : ∀ event ∈ events, ∀ restarts, event.stream? ≠ some (.bucket bucket, restarts)) :
    (runAll events station).Streams (.bucket bucket) left := by
  induction events generalizing station with
  | nil => exact streams
  | cons event rest ih =>
    have now := bucketwise event List.mem_cons_self
    exact ih (begun_after begun now)
      (streams_after begun streams now (elsewhere event List.mem_cons_self))
      (fun later member => bucketwise later (List.mem_cons_of_mem _ member))
      (fun later member => elsewhere later (List.mem_cons_of_mem _ member))

end Event

/-! ### Without further enumerations -/

section Relisting

variable [Provider P] {station : Station P} {changes : ChangeSet}
  (listing : P → Reply (Except Refusal (List (Reply String))))

theorem SourceM.nextOfBucket_relisting (bucket : ChangeBucket) (keys : List String) :
    @nextOfBucket P (Provider.relisting listing) bucket keys = nextOfBucket bucket keys := by
  induction keys with
  | nil => rfl
  | cons key rest ih =>
    unfold nextOfBucket
    rw [ih]
    rfl

theorem SourceM.ask_relisting (begun : station.source.report.standing ≠ .resting)
    (found : station.source.changes? = some changes) (bucket : ChangeBucket) (restarts : Bool) :
    @ask P (Provider.relisting listing) (.bucket bucket) restarts station =
      ask (.bucket bucket) restarts station := by
  obtain ⟨cursors, streaming⟩ := streaming_of_found found
  rw [ask_scanned begun streaming, @ask_scanned P (Provider.relisting listing) _ _ _ begun streaming,
    nextOfBucket_relisting]

namespace Event

variable {event : Event P}

theorem after_relisting (begun : station.source.report.standing ≠ .resting)
    (found : station.source.changes? = some changes) (bucketwise : event.isBucketwise = true) :
    @after P (Provider.relisting listing) event station = event.after station := by
  cases calls : event.stream? with
  | some call =>
    obtain ⟨stream, restarts⟩ := call
    obtain ⟨bucket, rfl⟩ := bucket_of_stream bucketwise calls
    rw [after_of_stream calls, @after_of_stream P (Provider.relisting listing) _ _ _ calls, leaves,
      SourceM.ask_relisting listing begun found, ← leaves]
  | none =>
    cases event with
    | act operation =>
      cases operation with
      | start mode => cases bucketwise
      | finish => cases bucketwise
      | probe => cases bucketwise
      | first stream => cases calls
      | next stream => cases calls
      | _ => rfl
    | _ => rfl

theorem turns_relisting (begun : station.source.report.standing ≠ .resting)
    (found : station.source.changes? = some changes) (bucket : ChangeBucket) :
    @turns P (Provider.relisting listing) bucket event station = event.turns bucket station := by
  unfold turns
  split
  · rw [yields, SourceM.ask_relisting listing begun found, ← yields]
  · rfl

/-- Once there is a change set, a run does not depend on the keys that the provider would give. -/
theorem runAll_relisting {events : List (Event P)}
    (begun : station.source.report.standing ≠ .resting)
    (found : station.source.changes? = some changes)
    (bucketwise : ∀ event ∈ events, event.isBucketwise = true) :
    @runAll P (Provider.relisting listing) events station = runAll events station ∧
      ∀ bucket, @turnsAll P (Provider.relisting listing) bucket events station =
        turnsAll bucket events station := by
  induction events generalizing station with
  | nil => exact ⟨rfl, fun _ => rfl⟩
  | cons event rest ih =>
    have now := bucketwise event List.mem_cons_self
    have after := after_relisting listing begun found now
    obtain ⟨runs, gives⟩ := ih (begun_after begun now)
      (keepsFound_after (goesOn_of_bucketwise now).1 station changes found)
      (fun later member => bucketwise later (List.mem_cons_of_mem _ member))
    refine ⟨?_, fun bucket => ?_⟩
    · show @runAll P (Provider.relisting listing) rest
        (@Event.after P (Provider.relisting listing) event station) = _
      rw [after]
      exact runs
    · unfold turnsAll
      rw [after, gives, turns_relisting listing begun found]

end Event

end Relisting

/-! ### A whole sync -/

theorem SourceM.syncs_of_start [Provider P] {before station : Station P} {mode : SyncMode}
    (begins : start mode before = .ok () station) (calm : station.Calm) :
    station.source.streaming = .idle ∧ ∃ cache, station.Syncs cache := by
  obtain ⟨within, cache, cached⟩ := within_start begins
  refine ⟨within.streaming (by simp), cache, calm, ?_, cached⟩
  rw [within.report (by simp)]
  exact nofun

theorem Station.Tells.ended [Provider P] {station : Station P} {kept : ChangeBucket → List (Turn P)}
    (tells : station.Tells kept) {bucket : ChangeBucket} {last : Turn P} (taken : last ∈ kept bucket)
    (none : last.answer = none) : station.Streams (.bucket bucket) [] := by
  cases tells with
  | unscanned idle untold =>
    rw [untold] at taken
    cases taken
  | scanned found distinct walks =>
    obtain ⟨left, streams, walk⟩ := walks bucket
    rwa [← walk.ended taken none]

theorem SourceM.ask_ended [Provider P] {station : Station P} {bucket : ChangeBucket}
    (begun : station.source.report.standing ≠ .resting) (streams : station.Streams (.bucket bucket) [])
    (calm : (leaves (ask (.bucket bucket) false) station).Calm) :
    yields (ask (.bucket bucket) false) station = .ok none := by
  obtain ⟨changes, cursors, streaming, left⟩ := streams
  have gives := gives_ask begun streaming bucket false
  cases ran : ask (.bucket bucket) false station with
  | error error left =>
    rw [Gives, Ends, yields_of_error ran, leaves_of_error ran] at gives
    exact absurd (leaves_of_error ran ▸ calm) gives
  | ok answer after =>
    rw [Gives, Ends, yields_of_ok ran, leaves_of_ok ran] at gives
    obtain ⟨rest, -, takes⟩ := gives
    rw [startOf, if_neg Bool.false_ne_true, left] at takes
    rw [yields_of_ok ran, takes.of_nil.1]

/-- The buckets of an incremental sync stream each on its own, and exactly. There are no turns before
the first scan that succeeds; a call on a bucket scans as soon as the provider gives its keys, and the
change set is their partition. It stays, and nothing that follows depends on the keys that the provider
would give. The keys of a bucket are those that its calls since the last for its first item came to,
each with its item if it could be read at that moment, and those that are left. A bucket moves with the
calls on it only, and one that came to its end stays there until it is called for its first item. -/
theorem SourceM.buckets_in_turn [Provider P] {before station : Station P} {mode : SyncMode}
    {events later : List (Event P)} (begins : start mode before = .ok () station)
    (bucketwise : ∀ event ∈ events ++ later, event.isBucketwise = true)
    (calm : (Event.runAll (events ++ later) station).Calm) :
    let middle := Event.runAll events station
    let final := Event.runAll (events ++ later) station
    (middle.source.changes? = none →
      (∀ bucket, Event.turnsAll bucket events station = []) ∧
      ∃ cache, middle.source.cache = .ok cache ∧
      ∀ bucket restarts, (leaves (ask (.bucket bucket) restarts) middle).Calm →
        (∃ refusal left, (Provider.keys middle.source.provider).value = .error refusal ∧
          ask (.bucket bucket) restarts middle = .error (.provider refusal) left ∧
          left.source.changes? = none) ∨
        ∃ replies answer, (Provider.keys middle.source.provider).value = .ok replies ∧
          yields (ask (.bucket bucket) restarts) middle = .ok answer ∧
          (leaves (ask (.bucket bucket) restarts) middle).source.changes? = some
            (ChangeScan.partition (scanAnswers middle.source.provider) replies cache.snapshot)) ∧
    (∀ changes, middle.source.changes? = some changes → final.source.changes? = some changes ∧
      ∀ listing, @Event.runAll P (Provider.relisting listing) later middle = final ∧
        ∀ bucket, @Event.turnsAll P (Provider.relisting listing) bucket later middle =
          Event.turnsAll bucket later middle) ∧
    (∀ changes, final.source.changes? = some changes →
      (ChangeBucket.all.flatMap fun bucket => bucket.keys changes).Nodup ∧
      ∀ bucket, let turns := Turn.sinceFirst (Event.turnsAll bucket (events ++ later) station)
        (∀ restarts, (leaves (ask (.bucket bucket) restarts) final).Calm →
          ∃ answer, yields (ask (.bucket bucket) restarts) final = .ok answer) ∧
        ∃ left, final.Streams (.bucket bucket) left ∧
          Walk bucket.item? (bucket.keys changes) turns left ∧
          ∃ reached : List (P × String), bucket.keys changes = reached.map Prod.snd ++ left ∧
            turns.filterMap Turn.answer =
              reached.filterMap (fun moment => bucket.item? moment.1 moment.2) ∧
            ∀ moment ∈ reached, ∃ turn ∈ turns, turn.provider = moment.1) ∧
    (∀ bucket, (∀ event ∈ later, ∀ restarts, event.stream? ≠ some (.bucket bucket, restarts)) →
      ∀ left, middle.Streams (.bucket bucket) left → final.Streams (.bucket bucket) left) ∧
    ∀ bucket turn, (Event.turnsAll bucket events station).getLast? = some turn →
      turn.answer = none → (∀ event ∈ later, event.stream? ≠ some (.bucket bucket, true)) →
      (leaves (ask (.bucket bucket) false) final).Calm →
      yields (ask (.bucket bucket) false) final = .ok none := by
  intro middle final
  have early : ∀ event ∈ events, event.isBucketwise = true := fun event member =>
    bucketwise event (List.mem_append_left _ member)
  have late : ∀ event ∈ later, event.isBucketwise = true := fun event member =>
    bucketwise event (List.mem_append_right _ member)
  have goes : final = Event.runAll later middle := Event.runAll_append events later station
  have halfway : middle.Calm := Event.calm_runAll late (goes ▸ calm)
  obtain ⟨idle, cache, syncs⟩ := syncs_of_start begins (Event.calm_runAll bucketwise calm)
  have fresh : station.Tells fun _ => [] := .unscanned idle fun _ => rfl
  obtain ⟨⟨held, opened⟩, told⟩ := Event.tells_runAll syncs fresh early halfway
  obtain ⟨⟨_, ends⟩, tells⟩ := Event.tells_runAll syncs fresh bucketwise calm
  refine ⟨fun unscanned => ?_, fun changes found => ?_, fun changes found => ?_,
    fun bucket elsewhere left streams => ?_, fun bucket turn last none onward quiet => ?_⟩
  · cases told with
    | scanned found distinct walks => cases unscanned.symm.trans found
    | unscanned idle untold =>
      refine ⟨fun bucket => Turn.eq_nil_of_sinceFirst (untold bucket), held, opened.cached,
        fun bucket restarts quiet => ?_⟩
      rcases Station.Tells.ask_idle opened idle bucket restarts quiet with
        ⟨refusal, left, refused, failed, still⟩ | ⟨replies, answer, listed, answers, scanned, -⟩
      · exact .inl ⟨refusal, left, refused, failed, by rw [Source.changes?, still]⟩
      · exact .inr ⟨replies, answer, listed, answers, scanned⟩
  · have kept := Event.keeps_runAll onward_keepsFound (fun event member =>
      Event.keepsFound_after (Event.goesOn_of_bucketwise (late event member)).1) middle changes found
    rw [goes]
    exact ⟨kept, fun listing => Event.runAll_relisting listing opened.begun found late⟩
  · cases tells with
    | unscanned idle untold =>
      change final.source.streaming = .idle at idle
      rw [Source.changes?, idle] at found
      cases found
    | scanned same distinct walks =>
      cases found.symm.trans same
      refine ⟨distinct, fun bucket => ⟨fun restarts quiet => ?_, ?_⟩⟩
      · obtain ⟨answer, answers, -⟩ :=
          Station.Tells.ask_scanned ends.begun found distinct walks bucket restarts quiet
        exact ⟨answer, answers⟩
      · obtain ⟨left, streams, walk⟩ := walks bucket
        exact ⟨left, streams, walk, walk.reached⟩
  · rw [goes]
    exact Event.streams_runAll opened.begun streams late elsewhere
  · have taken : turn ∈ Turn.sinceFirst (Event.turnsAll bucket (events ++ later) station) := by
      rw [Event.turnsAll_append]
      exact Turn.mem_sinceFirst_append last fun turn member => Event.onward_of_mem onward member
    exact ask_ended ends.begun (tells.ended taken none) quiet

/-! ### Turns of one sync -/

namespace SourceM

def shuffled : Station MemoryProvider :=
  Source.make { name := "contact" } (.ofList [("a", [1]), ("b", [2]), ("c", [])])
    (.ok { backing := .memory (.ofList [("c", "7"), ("d", "4")]) }) {}

def shuffledBegun : Station MemoryProvider := leaves (start .twoWay) shuffled

theorem begins_shuffled : start .twoWay shuffled = .ok () shuffledBegun :=
  start_ok rfl (by decide) (by decide)

/-- Calls on all buckets, in which one of the added items becomes unreadable. -/
def shuffledEvents : List (Event MemoryProvider) :=
  [.act (.next (.bucket .added)), .edit fun provider => provider.hide "b",
    .act (.first (.bucket .deleted)), .act (.next (.bucket .added)),
    .act (.verdict .delete { id := "d", code := 200 })]

/-- The item can be read again, too late for its bucket. -/
def shuffledLater : List (Event MemoryProvider) :=
  [.edit fun provider => { provider with unreadable := [] }, .act (.first (.bucket .updated))]

def shuffledChanges : ChangeSet where
  keys := ["a", "b", "c"]
  added := ["a", "b"]
  updated := ["c"]
  deleted := ["d"]
  previous := [("c", ⟨"7"⟩), ("d", ⟨"4"⟩)]

theorem bucketwise_shuffled :
    ∀ event ∈ shuffledEvents ++ shuffledLater, event.isBucketwise = true := by
  simp [shuffledEvents, shuffledLater, Event.isBucketwise, Operation.isBucketwise]

theorem buckets_in_turn_shuffled :
    let middle := Event.runAll shuffledEvents shuffledBegun
    let final := Event.runAll (shuffledEvents ++ shuffledLater) shuffledBegun
    (Event.turnsAll .added shuffledEvents shuffledBegun).filterMap Turn.answer =
      [{ key := "a", content := some [1], state := .added }] ∧
    middle.source.changes? = some shuffledChanges ∧
    final.source.changes? = middle.source.changes? ∧
    yields (ask (.bucket .added) false) final = .ok none := by
  intro middle final
  have found : middle.source.changes? = some shuffledChanges := by decide +kernel
  have streams := buckets_in_turn begins_shuffled bucketwise_shuffled (by decide +kernel)
  refine ⟨by decide +kernel, found, (streams.2.1 _ found).1.trans found.symm, ?_⟩
  refine streams.2.2.2.2 .added ⟨false, middle.source.provider, none⟩ (by decide +kernel) rfl ?_
    (by decide +kernel)
  simp [shuffledLater, Event.stream?]

end SourceM

end Reconcile
