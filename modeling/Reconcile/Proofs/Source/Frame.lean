import Reconcile.Proofs.Change.Partition
import Reconcile.Proofs.Run
import Reconcile.Source.Bracket
import Reconcile.Source.Incoming
import Reconcile.Source.Outgoing

/-!
Frames of operations. Each operation of a source stays within the parts of its station that it
may write; everything else is left alone, and a raised flag stays raised.
-/

namespace Reconcile

variable {P α β : Type}

/-- The parts of a station that operations write, besides the log and the flags. -/
inductive Part where
  | provider
  | cache
  | report
  | streaming
  | disk
  deriving DecidableEq

/-- Only the given parts of a station were written. -/
structure Within (parts : List Part) (before after : Station P) : Prop where
  config : after.source.config = before.source.config
  flag : after.source.flag = before.source.flag
  flagShared : after.source.flagShared = before.source.flagShared
  mode : after.source.mode = before.source.mode
  provider : .provider ∉ parts → after.source.provider = before.source.provider
  cache : .cache ∉ parts → after.source.cache = before.source.cache
  report : .report ∉ parts → after.source.report = before.source.report
  streaming : .streaming ∉ parts → after.source.streaming = before.source.streaming
  disk : .disk ∉ parts → after.host.disk = before.host.disk
  raised : ∀ flag, before.host.isRaised flag = true → after.host.isRaised flag = true

def Station.Calm (station : Station P) : Prop :=
  station.host.isRaised station.source.flag = false

instance (station : Station P) : Decidable station.Calm := inferInstanceAs (Decidable (_ = false))

namespace Within

variable {parts more : List Part} {before between after : Station P}

theorem refl (station : Station P) : Within parts station station :=
  ⟨rfl, rfl, rfl, rfl, fun _ => rfl, fun _ => rfl, fun _ => rfl, fun _ => rfl, fun _ => rfl, fun _ => id⟩

theorem trans (first : Within parts before between) (second : Within parts between after) :
    Within parts before after where
  config := second.config.trans first.config
  flag := second.flag.trans first.flag
  flagShared := second.flagShared.trans first.flagShared
  mode := second.mode.trans first.mode
  provider kept := (second.provider kept).trans (first.provider kept)
  cache kept := (second.cache kept).trans (first.cache kept)
  report kept := (second.report kept).trans (first.report kept)
  streaming kept := (second.streaming kept).trans (first.streaming kept)
  disk kept := (second.disk kept).trans (first.disk kept)
  raised flag up := second.raised flag (first.raised flag up)

theorem onward : Onward (Within (P := P) parts) := ⟨refl, trans⟩

theorem mono (fewer : parts ⊆ more) (within : Within parts before after) :
    Within more before after where
  config := within.config
  flag := within.flag
  flagShared := within.flagShared
  mode := within.mode
  provider kept := within.provider fun part => kept (fewer part)
  cache kept := within.cache fun part => kept (fewer part)
  report kept := within.report fun part => kept (fewer part)
  streaming kept := within.streaming fun part => kept (fewer part)
  disk kept := within.disk fun part => kept (fewer part)
  raised := within.raised

theorem of_host {station : Station P} {host : Host} (disk : host.disk = station.host.disk)
    (raised : ∀ flag, station.host.isRaised flag = true → host.isRaised flag = true) :
    Within parts station { station with host } :=
  { refl station with disk := fun _ => disk, raised }

theorem calm (within : Within parts before after) (calm : after.Calm) : before.Calm := by
  rw [Station.Calm, within.flag] at calm
  rw [Station.Calm, ← Bool.not_eq_true]
  intro up
  rw [within.raised _ up] at calm
  cases calm

end Within

def Stays (parts : List Part) (operation : SourceM P α) : Prop := Keeps (Within parts) operation

namespace Stays

variable {parts more : List Part}

theorem mono {operation : SourceM P α} (stays : Stays parts operation) (fewer : parts ⊆ more) :
    Stays more operation := fun station => (stays station).mono fewer

theorem bind {operation : SourceM P α} {next : α → SourceM P β} (first : Stays parts operation)
    (second : ∀ value, Stays parts (next value)) : Stays parts (operation >>= next) :=
  Within.onward.keeps_bind first second

theorem pure (value : α) : Stays parts (Pure.pure value : SourceM P α) :=
  Within.onward.keeps_pure value

theorem throw (error : SyncFailure) : Stays parts (MonadExcept.throw error : SourceM P α) :=
  Within.onward.keeps_throw error

theorem modify {change : Station P → Station P}
    (within : ∀ station, Within parts station (change station)) :
    Stays parts (modify change : SourceM P Unit) := within

theorem get : Stays parts (MonadState.get : SourceM P (Station P)) := Within.onward.keeps_get

theorem within {operation : SourceM P α} {station left : Station P} {value : α}
    (stays : Stays parts operation) (ran : operation station = .ok value left) :
    Within parts station left := leaves_of_ok ran ▸ stays station

theorem calm {operation : SourceM P α} {station : Station P} (stays : Stays parts operation)
    (calm : (leaves operation station).Calm) : station.Calm := (stays station).calm calm

end Stays

namespace SourceM

variable {parts : List Part}

/-! ### Steps -/

theorem stays_source : Stays parts (source : SourceM P (Source P)) :=
  Stays.get.bind fun _ => .pure _

theorem stays_note (notice : Notice) : Stays parts (note notice : SourceM P Unit) :=
  .modify fun _ => .of_host rfl fun _ => id

theorem stays_isStopped : Stays parts (isStopped : SourceM P Bool) :=
  Stays.get.bind fun _ => Stays.get.bind fun _ => .pure _

theorem stays_poll : Stays parts (poll : SourceM P Unit) :=
  stays_isStopped.bind fun stopped => by
    cases stopped
    · exact .pure _
    · exact .throw _

theorem stays_hear (reply : Reply α) : Stays parts (hear reply : SourceM P α) := by
  unfold hear
  split
  · refine Stays.bind (.modify fun station => .of_host rfl fun flag up => ?_) fun _ => .pure _
    show (station.host.flags.raise station.source.flag).isRaised flag = true
    rw [FlagBoard.isRaised_raise]
    exact (Bool.or_eq_true _ _).mpr (.inl up)
  · exact .pure _

theorem stays_expect (outcome : Except Refusal α) : Stays parts (expect outcome : SourceM P α) := by
  cases outcome
  · exact .throw _
  · exact .pure _

theorem stays_requireRunning (operation : String) :
    Stays parts (requireRunning operation : SourceM P Unit) :=
  stays_source.bind fun source => by
    split
    · exact .throw _
    · exact .pure _

theorem stays_cache : Stays parts (cache : SourceM P SignatureCache) :=
  stays_source.bind fun source => by
    split
    · exact .pure _
    · exact stays_source.bind fun _ => .throw _

theorem stays_setCache (writes : .cache ∈ parts) (cache : SignatureCache) :
    Stays parts (setCache cache : SourceM P Unit) :=
  .modify fun station => { Within.refl station with cache := fun kept => absurd writes kept }

theorem stays_updateCache (writes : .cache ∈ parts) (change : SignatureCache → SignatureCache) :
    Stays parts (updateCache change : SourceM P Unit) :=
  stays_cache.bind fun _ => stays_setCache writes _

theorem stays_setStreaming (writes : .streaming ∈ parts) (streaming : Streaming) :
    Stays parts (setStreaming streaming : SourceM P Unit) :=
  .modify fun station => { Within.refl station with streaming := fun kept => absurd writes kept }

theorem stays_modifyReport (writes : .report ∈ parts) (change : SourceReport → SourceReport) :
    Stays parts (modifyReport change : SourceM P Unit) :=
  .modify fun station => { Within.refl station with report := fun kept => absurd writes kept }

theorem stays_setDisk (writes : .disk ∈ parts) (disk : Disk) :
    Stays parts (modifyHost fun host => { host with disk } : SourceM P Unit) :=
  .modify fun station =>
    { Within.refl station with disk := fun kept => absurd writes kept, raised := fun _ => id }

theorem stays_commit (writes : .cache ∈ parts) (saves : .disk ∈ parts) (cache : SignatureCache) :
    Stays parts (commit cache : SourceM P (Except StoreError Unit)) :=
  Stays.get.bind fun _ => (stays_setCache writes _).bind fun _ =>
    (stays_setDisk saves _).bind fun _ => .pure _

theorem stays_record (writes : .report ∈ parts) (side : Side) (command : Command)
    (verdict : Verdict) : Stays parts (record side command verdict : SourceM P Unit) := by
  unfold record
  split
  · exact (stays_note _).bind fun _ => stays_modifyReport writes _
  · exact stays_modifyReport writes _

theorem stays_recordFault (writes : .report ∈ parts) (error : Fault) :
    Stays parts (recordFault error : SourceM P Unit) :=
  (stays_note _).bind fun _ => stays_modifyReport writes _

theorem stays_recordTransfer (writes : .report ∈ parts) (side : Side) (command : Command)
    (key : String) : Stays parts (recordTransfer side command key : SourceM P Unit) :=
  stays_source.bind fun _ => stays_record writes _ _ _

theorem stays_noteLongKey (key : String) : Stays parts (noteLongKey key : SourceM P Unit) :=
  stays_source.bind fun source => by
    split
    · exact stays_note _
    · exact .pure _

theorem stays_setProvider (writes : .provider ∈ parts) (provider : P) :
    Stays parts (modifySource fun source => { source with provider } : SourceM P Unit) :=
  .modify fun station => { Within.refl station with provider := fun kept => absurd writes kept }

theorem stays_collectKeys (replies : List (Reply String)) :
    Stays parts (collectKeys replies : SourceM P (List String)) := by
  induction replies with
  | nil => exact .pure _
  | cons reply rest ih =>
    exact (stays_hear _).bind fun _ => stays_poll.bind fun _ => (stays_noteLongKey _).bind fun _ =>
      ih.bind fun _ => .pure _

theorem stays_write (writes : .provider ∈ parts) (action : P → Reply (Except Refusal α) × P) :
    Stays parts (write action : SourceM P (Except Refusal α)) :=
  stays_source.bind fun _ => (stays_setProvider writes _).bind fun _ => stays_hear _

variable [Provider P]

theorem stays_load (key : String) (state : Finding) :
    Stays parts (load key state : SourceM P (Option OutgoingItem)) :=
  stays_source.bind fun _ => (stays_hear _).bind fun content => by
    cases content
    · exact (stays_note _).bind fun _ => .pure _
    · exact .pure _

/-! ### Items on their way to the server -/

theorem stays_nextReadable (writes : .streaming ∈ parts) (keys : List String) :
    Stays parts (nextReadable keys : SourceM P (Option OutgoingItem)) := by
  induction keys with
  | nil => exact stays_poll.bind fun _ => .pure _
  | cons key rest ih =>
    refine stays_poll.bind fun _ => (stays_setStreaming writes _).bind fun _ =>
      (stays_load _ _).bind fun item => ?_
    cases item
    · exact ih
    · exact .pure _

theorem stays_nextEnumerated (writes : .streaming ∈ parts) :
    Stays parts (nextEnumerated : SourceM P (Option OutgoingItem)) := by
  refine stays_source.bind fun source => ?_
  split
  · exact stays_nextReadable writes _
  · exact stays_poll.bind fun _ => .throw _

theorem stays_startEnumeration (empties : .cache ∈ parts) (writes : .streaming ∈ parts) :
    Stays parts (startEnumeration : SourceM P (Option OutgoingItem)) := by
  refine (stays_requireRunning _).bind fun _ => stays_source.bind fun source => ?_
  have starts : ∀ _ : PUnit, Stays parts (do
      let replies ← expect (← hear (Provider.keys (← SourceM.source).provider))
      let keys ← collectKeys replies
      updateCache SignatureCache.clear
      setStreaming (.full keys)
      nextEnumerated : SourceM P (Option OutgoingItem)) := fun _ =>
    stays_source.bind fun _ => (stays_hear _).bind fun _ => (stays_expect _).bind fun _ =>
      (stays_collectKeys _).bind fun _ => (stays_updateCache empties _).bind fun _ =>
      (stays_setStreaming writes _).bind fun _ => stays_nextEnumerated writes
  split
  · exact (Stays.throw _).bind starts
  · exact starts ⟨⟩

def OnlyRaises (before after : Host) : Prop :=
  after.disk = before.disk ∧ ∀ flag, before.isRaised flag = true → after.isRaised flag = true

theorem keeps_scanContext (source : Source P) (probing : Bool) :
    (scanContext source probing).Keeps OnlyRaises := by
  have raise : ∀ (cancels : Bool) (host : Host),
      (if cancels then host.raise source.flag else host).disk = host.disk ∧
        ∀ flag, host.isRaised flag = true →
          (if cancels then host.raise source.flag else host).isRaised flag = true := by
    intro cancels host
    cases cancels
    · exact ⟨rfl, fun _ => id⟩
    · refine ⟨rfl, fun flag up => ?_⟩
      show (host.flags.raise source.flag).isRaised flag = true
      rw [FlagBoard.isRaised_raise]
      exact (Bool.or_eq_true _ _).mpr (.inl up)
  refine ⟨⟨fun _ => ⟨rfl, fun _ => id⟩, fun first second =>
    ⟨second.1.trans first.1, fun flag up => second.2 flag (first.2 flag up)⟩⟩, ?_, ?_, ?_, ?_⟩
  · intro reply host
    have raised := raise reply.cancels host
    simp only [scanContext]
    split <;> exact raised
  · exact fun _ _ => ⟨rfl, fun _ => id⟩
  · intro key host
    have raised := raise (Provider.signature source.provider key).cancels host
    simp only [scanContext]
    split <;> exact raised
  · exact fun key host => raise (Provider.confirmsDeletion source.provider key).cancels host

omit [Provider P] in
theorem get_eq (station : Station P) : (get : SourceM P (Station P)) station = .ok station station := rfl

theorem stays_scan : Stays parts (scan : SourceM P ChangeSet) := by
  refine stays_cache.bind fun cache => stays_source.bind fun source => (stays_hear _).bind fun _ =>
    (stays_expect _).bind fun replies => stays_source.bind fun source => ?_
  intro station
  have kept := ChangeScan.keeps_run (keeps_scanContext source false) replies cache.snapshot station.host
  rw [leaves_bind_of_ok (get_eq station)]
  generalize ChangeScan.run (scanContext source false) replies cache.snapshot station.host = ran at *
  obtain ⟨found, host⟩ := ran
  have within : Within parts station { station with host } := .of_host kept.1 kept.2
  cases found
  · exact within
  · exact within

theorem stays_isModified : Stays parts (isModified : SourceM P Bool) := by
  refine stays_cache.bind fun cache => stays_source.bind fun source => (stays_hear _).bind fun _ =>
    (stays_expect _).bind fun replies => stays_source.bind fun source => ?_
  intro station
  have kept :=
    ChangeScan.keeps_probeFrom (keeps_scanContext source true) cache.snapshot replies [] station.host
  rw [leaves_bind_of_ok (get_eq station)]
  change OnlyRaises station.host
    (ChangeScan.probe (scanContext source true) replies cache.snapshot station.host).2 at kept
  generalize ChangeScan.probe (scanContext source true) replies cache.snapshot station.host = ran at *
  obtain ⟨found, host⟩ := ran
  have within : Within parts station { station with host } := .of_host kept.1 kept.2
  cases found
  · exact within
  · exact within

theorem stays_scanOnce (writes : .streaming ∈ parts) : Stays parts (scanOnce : SourceM P Unit) := by
  refine (stays_requireRunning _).bind fun _ => stays_source.bind fun source => ?_
  split
  · exact .pure _
  · exact .throw _
  · exact stays_scan.bind fun _ => stays_setStreaming writes _

omit [Provider P] in
theorem stays_moveCursor (writes : .streaming ∈ parts) (bucket : ChangeBucket) (keys : List String) :
    Stays parts (moveCursor bucket keys : SourceM P Unit) := by
  refine .modify fun station => ?_
  cases streaming : station.source.streaming with
  | incremental changes cursors =>
    simp only [streaming]
    exact { Within.refl station with streaming := fun kept => absurd writes kept }
  | idle => simpa only [streaming] using Within.refl station
  | full queue => simpa only [streaming] using Within.refl station

theorem stays_itemOf (bucket : ChangeBucket) (key : String) :
    Stays parts (itemOf bucket key : SourceM P (Option OutgoingItem)) := by
  cases bucket
  · exact stays_load _ _
  · exact stays_load _ _
  · exact .pure _

theorem stays_nextOfBucket (writes : .streaming ∈ parts) (bucket : ChangeBucket)
    (keys : List String) :
    Stays parts (nextOfBucket bucket keys : SourceM P (Option OutgoingItem)) := by
  induction keys with
  | nil => exact stays_poll.bind fun _ => .pure _
  | cons key rest ih =>
    refine stays_poll.bind fun _ => (stays_moveCursor writes _ _).bind fun _ =>
      (stays_itemOf _ _).bind fun item => ?_
    cases item
    · exact ih
    · exact .pure _

theorem stays_nextChange (writes : .streaming ∈ parts) (bucket : ChangeBucket) :
    Stays parts (nextChange bucket : SourceM P (Option OutgoingItem)) := by
  refine (stays_scanOnce writes).bind fun _ => stays_source.bind fun source => ?_
  split
  · exact stays_nextOfBucket writes _ _
  · exact stays_poll.bind fun _ => .throw _

theorem stays_firstChange (writes : .streaming ∈ parts) (bucket : ChangeBucket) :
    Stays parts (firstChange bucket : SourceM P (Option OutgoingItem)) := by
  refine (stays_scanOnce writes).bind fun _ => stays_source.bind fun source => ?_
  split
  · exact (stays_moveCursor writes _ _).bind fun _ => stays_nextChange writes _
  · exact stays_nextChange writes _

theorem stays_next (writes : .streaming ∈ parts) (stream : ItemStream) :
    Stays parts (next stream : SourceM P (Option OutgoingItem)) := by
  cases stream
  · exact stays_nextEnumerated writes
  · exact stays_nextChange writes _

/-! ### What comes from the server -/

theorem stays_cacheSignature (writes : .cache ∈ parts) (key : String) :
    Stays parts (cacheSignature key : SourceM P Unit) :=
  stays_source.bind fun _ => (stays_hear _).bind fun signature => by
    cases signature
    · exact stays_note _
    · exact stays_updateCache writes _

omit [Provider P] in
theorem stays_recordFull (writes : .report ∈ parts) (side : Side) :
    Stays parts (recordFull side : SourceM P Unit) := stays_recordFault writes _

theorem stays_takeVerdict (caches : .cache ∈ parts) (reports : .report ∈ parts) (command : Command)
    (verdict : Verdict) : Stays parts (takeVerdict command verdict : SourceM P Unit) := by
  refine stays_poll.bind fun _ => (stays_requireRunning _).bind fun _ =>
    (Stays.bind stays_cache fun _ => .pure _).bind fun _ =>
    (stays_record reports _ _ _).bind fun _ => ?_
  split
  · exact stays_note _
  · refine stays_source.bind fun source => ?_
    split
    · split
      · exact stays_recordFull reports _
      · exact .pure _
    · split
      · exact stays_updateCache caches _
      · exact stays_cacheSignature caches _

omit [Provider P] in
theorem stays_refusal (reports : .report ∈ parts) (error : Refusal) :
    Stays parts (refusal error : SourceM P StatusCode) := by
  refine (stays_note _).bind fun _ => ?_
  cases error with
  | deviceFull => exact (stays_recordFull reports _).bind fun _ => .pure _
  | notFound key => exact .pure _
  | failed reason => exact .pure _

omit [Provider P] in
theorem stays_changeItem (provides : .provider ∈ parts) (caches : .cache ∈ parts)
    (reports : .report ∈ parts) (operation : String) (command : Command) (key : String)
    (action : P → Reply (Except Refusal Unit) × P) (follow : SignatureCache → SignatureCache) :
    Stays parts (changeItem operation command key action follow) := by
  have records : ∀ code, Stays parts (do
      record .client command { id := key, code }
      return code : SourceM P StatusCode) := fun _ =>
    (stays_record reports _ _ _).bind fun _ => .pure _
  refine stays_poll.bind fun _ => (stays_requireRunning _).bind fun _ =>
    (stays_write provides _).bind fun outcome => ?_
  split
  · exact (stays_updateCache caches _).bind fun _ => stays_source.bind fun _ =>
      (Stays.pure _).bind records
  · exact (stays_refusal reports _).bind records

theorem stays_applyAdd (provides : .provider ∈ parts) (caches : .cache ∈ parts)
    (reports : .report ∈ parts) (serverId : String) (content : Bytes) :
    Stays parts (applyAdd serverId content : SourceM P StatusCode) := by
  refine stays_poll.bind fun _ => (stays_requireRunning _).bind fun _ =>
    (stays_write provides _).bind fun outcome => ?_
  split
  · exact (stays_updateCache caches _).bind fun _ => stays_source.bind fun _ =>
      (stays_record reports _ _ _).bind fun _ => .pure _
  · exact (stays_refusal reports _).bind fun _ => (stays_record reports _ _ _).bind fun _ => .pure _

/-! ### The end of a sync -/

omit [Provider P] in
theorem stays_commitOrFail (cache : SignatureCache) :
    Stays [.cache, .report, .disk] (commitOrFail cache : SourceM P Unit) := by
  refine (stays_commit (by simp) (by simp) _).bind fun outcome => ?_
  split
  · exact .pure _
  · exact (stays_recordFault (by simp) _).bind fun _ => stays_source.bind fun _ => .throw _

omit [Provider P] in
theorem stays_settle (writes : .report ∈ parts) : Stays parts (settle : SourceM P Unit) :=
  stays_modifyReport writes _

/-- The last step of a sync: the source settles, and its last recorded error is the result. -/
def conclude (name : String) : SourceM P Unit := do
  settle
  match (← source).report.fault with
  | none => return
  | some error => throw (recordedFailure name error)

omit [Provider P] in
theorem stays_conclude (writes : .report ∈ parts) (name : String) :
    Stays parts (conclude name : SourceM P Unit) := by
  refine (stays_settle writes).bind fun _ => stays_source.bind fun _ => ?_
  split
  · exact .pure _
  · exact .throw _

omit [Provider P] in
theorem stays_finish : Stays [.cache, .report, .streaming, .disk] (finish : SourceM P Unit) := by
  unfold finish
  refine (stays_setStreaming (by simp) _).bind fun _ => stays_isStopped.bind fun stopped => ?_
  have closes : ∀ name, Stays [.cache, .report, .streaming, .disk] (conclude name : SourceM P Unit) :=
    fun name => stays_conclude (by simp) name
  split
  · exact (stays_settle (by simp)).bind fun _ => .throw _
  · refine stays_source.bind fun present => ?_
    split
    · split
      · exact ((stays_commitOrFail _).mono (by simp)).bind fun _ => closes _
      · exact closes _
    · exact closes _

end SourceM

end Reconcile
