import Reconcile.Proofs.Source.Streams

/-!
Calls on the buckets of an incremental sync. Once there is a change set, a call on a bucket takes the
first item of its keys from the start or from where its cursor is, and leaves the cursors of the other
buckets where they are.
-/

namespace Reconcile

variable {P : Type}

def ChangeBucket.item? [Provider P] (bucket : ChangeBucket) (provider : P) :
    String → Option OutgoingItem := (ItemStream.bucket bucket).item? provider

/-- A provider that hands out other keys, and is the same otherwise. -/
@[reducible] def Provider.relisting [Provider P]
    (listing : P → Reply (Except Refusal (List (Reply String)))) : Provider P :=
  { ‹Provider P› with keys := listing }

def Station.pointed (station : Station P) (changes : ChangeSet) (cursors : Cursors) : Station P :=
  { station with source := { station.source with streaming := .incremental changes cursors } }

/-! ### Calls -/

namespace SourceM

variable [Provider P]

def ask (stream : ItemStream) (restarts : Bool) : SourceM P (Option OutgoingItem) :=
  if restarts then first stream else next stream

variable {station : Station P} {changes : ChangeSet} {cursors : Cursors}

theorem scanOnce_scanned (begun : station.source.report.standing ≠ .resting)
    (streaming : station.source.streaming = .incremental changes cursors) :
    scanOnce station = .ok () station := by
  rw [scanOnce, bind_of_ok (requireRunning_ok begun _), bind_of_ok (source_eq _), streaming]
  rfl

theorem nextChange_scanned (begun : station.source.report.standing ≠ .resting)
    (streaming : station.source.streaming = .incremental changes cursors) (bucket : ChangeBucket) :
    nextChange bucket station = nextOfBucket bucket (bucket.rest cursors) station := by
  rw [nextChange, bind_of_ok (scanOnce_scanned begun streaming), bind_of_ok (source_eq _), streaming]

def startOf (bucket : ChangeBucket) (restarts : Bool) (changes : ChangeSet) (cursors : Cursors) :
    List String :=
  if restarts then bucket.keys changes else bucket.rest cursors

omit [Provider P] in
theorem move_rest (bucket : ChangeBucket) (cursors : Cursors) :
    bucket.move cursors (bucket.rest cursors) = cursors := by
  cases bucket <;> rfl

theorem ask_scanned (begun : station.source.report.standing ≠ .resting)
    (streaming : station.source.streaming = .incremental changes cursors) (bucket : ChangeBucket)
    (restarts : Bool) :
    ask (.bucket bucket) restarts station =
      nextOfBucket bucket (startOf bucket restarts changes cursors)
        (station.pointed changes
          (bucket.move cursors (startOf bucket restarts changes cursors))) := by
  cases restarts with
  | false =>
    have same : station.pointed changes cursors = station := by
      rw [Station.pointed, ← streaming]
    show nextChange bucket station = nextOfBucket bucket (bucket.rest cursors) _
    rw [nextChange_scanned begun streaming, startOf, if_neg Bool.false_ne_true, move_rest, same]
  | true =>
    have found : station.source.changes? = some changes := by rw [Source.changes?, streaming]
    show firstChange bucket station = nextOfBucket bucket (bucket.keys changes) _
    rw [firstChange, bind_of_ok (scanOnce_scanned begun streaming), bind_of_ok (source_eq _), found]
    refine (bind_of_ok (moveCursor_eq streaming bucket _) _).trans ?_
    have moved := @nextChange_scanned P _
      (station.pointed changes (bucket.move cursors (bucket.keys changes))) changes _ begun rfl bucket
    rwa [rest_move] at moved

/-- A call that scans goes on as if the scan had been made before. -/
theorem ask_of_scanOnce {scanned : Station P} (ran : scanOnce station = .ok () scanned)
    (begun : scanned.source.report.standing ≠ .resting)
    (streaming : scanned.source.streaming = .incremental changes cursors) (bucket : ChangeBucket)
    (restarts : Bool) : ask (.bucket bucket) restarts station = ask (.bucket bucket) restarts scanned := by
  have again := scanOnce_scanned begun streaming
  cases restarts with
  | false =>
    show nextChange bucket station = nextChange bucket scanned
    rw [nextChange, bind_of_ok ran, bind_of_ok again]
  | true =>
    show firstChange bucket station = firstChange bucket scanned
    rw [firstChange, bind_of_ok ran, bind_of_ok again]

theorem ask_unscanned {error : SyncFailure} {left : Station P}
    (failed : scanOnce station = .error error left) (bucket : ChangeBucket) (restarts : Bool) :
    ask (.bucket bucket) restarts station = .error error left := by
  cases restarts with
  | false => exact bind_of_error failed _
  | true => exact bind_of_error failed _

theorem stays_ask (bucket : ChangeBucket) (restarts : Bool) :
    Stays [.streaming] (ask (.bucket bucket) restarts : SourceM P _) := by
  cases restarts with
  | false =>
    have stays : Stays (P := P) [.streaming] (nextChange bucket) := stays_nextChange (by simp) bucket
    exact stays
  | true =>
    have stays : Stays (P := P) [.streaming] (firstChange bucket) := stays_firstChange (by simp) bucket
    exact stays

/-! ### Other buckets -/

def Elsewhere (bucket : ChangeBucket) (before after : Station P) : Prop :=
  ∀ other keys, other ≠ bucket → before.Streams (.bucket other) keys →
    after.Streams (.bucket other) keys

omit [Provider P] in
theorem onward_elsewhere (bucket : ChangeBucket) : Onward (Elsewhere (P := P) bucket) where
  refl _ _ _ _ := id
  trans early late other keys apart streams := late other keys apart (early other keys apart streams)

omit [Provider P] in
theorem streams_within {parts : List Part} {before after : Station P} {stream : ItemStream}
    {keys : List String} (within : Within parts before after) (unmoved : .streaming ∉ parts)
    (streams : before.Streams stream keys) : after.Streams stream keys := by
  unfold Station.Streams at *
  rwa [within.streaming unmoved]

omit [Provider P] in
theorem elsewhere_of_stays {α : Type} {operation : SourceM P α} (stays : Stays [] operation)
    (bucket : ChangeBucket) : Keeps (Elsewhere bucket) operation :=
  fun station _ _ _ => streams_within (stays station) List.not_mem_nil

omit [Provider P] in
theorem rest_move_other {bucket other : ChangeBucket} (apart : other ≠ bucket) (cursors : Cursors)
    (keys : List String) : other.rest (bucket.move cursors keys) = other.rest cursors := by
  cases bucket <;> cases other <;> first | rfl | exact absurd rfl apart

omit [Provider P] in
theorem elsewhere_moveCursor (bucket : ChangeBucket) (keys : List String) :
    Keeps (Elsewhere (P := P) bucket) (moveCursor bucket keys) := by
  rintro station other left apart ⟨changes, cursors, streaming, rfl⟩
  rw [leaves_of_ok (moveCursor_eq streaming bucket keys)]
  exact ⟨changes, _, rfl, rest_move_other apart cursors keys⟩

theorem elsewhere_nextOfBucket (bucket : ChangeBucket) (keys : List String) :
    Keeps (Elsewhere (P := P) bucket) (nextOfBucket bucket keys) := by
  have onward := onward_elsewhere (P := P) bucket
  induction keys with
  | nil =>
    exact onward.keeps_bind (elsewhere_of_stays stays_poll bucket) fun _ => onward.keeps_pure _
  | cons key rest ih =>
    refine onward.keeps_bind (elsewhere_of_stays stays_poll bucket) fun _ =>
      onward.keeps_bind (elsewhere_moveCursor bucket rest) fun _ =>
      onward.keeps_bind (elsewhere_of_stays (stays_itemOf bucket key) bucket) fun item => ?_
    cases item with
    | none => exact ih
    | some item => exact onward.keeps_pure _

/-! ### One call -/

theorem elsewhere_ask (begun : station.source.report.standing ≠ .resting)
    (streaming : station.source.streaming = .incremental changes cursors) (bucket : ChangeBucket)
    (restarts : Bool) : Elsewhere bucket station (leaves (ask (.bucket bucket) restarts) station) := by
  have moved := elsewhere_moveCursor bucket (startOf bucket restarts changes cursors) station
  rw [leaves_of_ok (moveCursor_eq streaming bucket _)] at moved
  rw [leaves, ask_scanned begun streaming, ← leaves]
  exact (onward_elsewhere bucket).trans moved (elsewhere_nextOfBucket bucket _ _)

theorem gives_ask (begun : station.source.report.standing ≠ .resting)
    (streaming : station.source.streaming = .incremental changes cursors) (bucket : ChangeBucket)
    (restarts : Bool) :
    Gives Station.Calm (ask (.bucket bucket) restarts) station fun answer left => ∃ rest,
      left.Offers station.source.provider (some changes) (.bucket bucket) rest ∧
        Takes (bucket.item? station.source.provider) (startOf bucket restarts changes cursors) answer
          rest := by
  rw [Gives, Ends, yields, leaves, ask_scanned begun streaming, ← leaves, ← yields]
  exact gives_nextOfBucket bucket _
    ⟨⟨changes, _, rfl, rest_move bucket cursors _⟩, rfl, rfl⟩

/-- The source after a scan: it has a change set, and every cursor is at its start. -/
def scannedAs (station : Station P) (changes : ChangeSet) : Station P :=
  station.pointed changes ⟨changes.added, changes.updated, changes.deleted⟩

omit [Provider P] in
theorem streams_scannedAs (station : Station P) (changes : ChangeSet) (bucket : ChangeBucket) :
    (scannedAs station changes).Streams (.bucket bucket) (bucket.keys changes) :=
  ⟨changes, _, rfl, by cases bucket <;> rfl⟩

theorem scanOnce_of_scan {between : Station P} (begun : station.source.report.standing ≠ .resting)
    (idle : station.source.streaming = .idle) (scanned : scan station = .ok changes between) :
    scanOnce station = .ok () (scannedAs between changes) := by
  rw [scanOnce_eq begun idle, bind_of_ok scanned]
  rfl

end SourceM

end Reconcile
