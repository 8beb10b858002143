import Reconcile.Change.Scan
import Reconcile.Settings
import Reconcile.Host
import Reconcile.Interface
import Reconcile.Report
import Reconcile.Store.Cache

/-!
Sources: one data source with the cache of its last sync, and the steps that its operations are
made of. An operation runs on a station, which is the source together with its host, and keeps
what it did before it failed.
-/

namespace Reconcile

structure Cursors where
  added : List String
  updated : List String
  deleted : List String
  deriving DecidableEq, Inhabited

inductive Streaming where
  | idle
  | full (queue : List String)
  | incremental (changes : ChangeSet) (cursors : Cursors)
  deriving DecidableEq, Inhabited

def Streaming.name : Streaming → String
  | idle => "idle"
  | full _ => "full enumeration"
  | incremental .. => "incremental"

structure Source (P : Type) where
  config : SourceSettings
  provider : P
  cache : Except StoreError SignatureCache
  report : SourceReport
  flag : StopFlag
  /-- Whether the flag belongs to someone else, who lowers it again. -/
  flagShared : Bool := false
  mode : SyncMode
  streaming : Streaming := .idle

structure Station (P : Type) where
  source : Source P
  host : Host

abbrev SourceM (P : Type) := EStateM SyncFailure (Station P)

namespace Source

variable {P : Type}

def blankReport (config : SourceSettings) : SourceReport :=
  { source := config.name, success := config.success }

def make (config : SourceSettings) (provider : P) (cache : Except StoreError SignatureCache)
    (host : Host) : Station P :=
  let (flag, host) := host.freshFlag
  { source :=
      { config, provider, cache, report := blankReport config, flag, mode := config.preferredMode }
    host }

/-- A new source over the cache file of its name. A cache that cannot be opened leaves the source
without one, and its syncs will not begin. -/
def openNamed (config : SourceSettings) (client : ClientSettings) (provider : P) (host : Host) :
    Station P :=
  match PropertyFile.openNamed client.directory config.name host.disk with
  | (.ok (store, malformed), disk) =>
    let host := malformed.foldl (fun host _ => host.note .malformedLine) { host with disk }
    make config provider (.ok { backing := .file store }) host
  | (.error error, disk) =>
    make config provider (.error error) ({ host with disk }.note .cannotOpenCache)

/-- A new source over the same store. A cache file is read again, so that what was not made
durable is lost. -/
def reopen (source : Source P) (client : ClientSettings) (host : Host) : Station P :=
  match source.cache with
  | .ok { backing := .memory _, .. } => make source.config source.provider source.cache host
  | _ => openNamed source.config client source.provider host

def hasCache (source : Source P) : Bool := source.cache.isOk

def changes? (source : Source P) : Option ChangeSet :=
  match source.streaming with
  | .incremental changes _ => some changes
  | _ => none

def shareFlag (source : Source P) (flag : StopFlag) : Source P :=
  { source with flag, flagShared := true }

def missingCache (config : SourceSettings) (cause : StoreError) : SyncFailure :=
  .noCache config.name cause.message

def describe (source : Source P) (provider : String) : String :=
  "CacheSyncSource \x7b config: " ++ source.config.describe ++
    ", provider: " ++ provider ++
    ", store: " ++
      (match source.cache with
        | .ok cache => "Some(" ++ cache.describe ++ ")"
        | .error _ => "None") ++
    ", state: " ++ source.report.standing.name ++
    ", streaming: " ++ Text.quoted source.streaming.name ++ " \x7d"

end Source

namespace SourceM

variable {P : Type}

/-! ### The host -/

def source : SourceM P (Source P) := return (← get).source

def modifySource (change : Source P → Source P) : SourceM P Unit :=
  modify fun station => { station with source := change station.source }

def modifyHost (change : Host → Host) : SourceM P Unit :=
  modify fun station => { station with host := change station.host }

def note (notice : Notice) : SourceM P Unit := modifyHost fun host => host.note notice

def isStopped : SourceM P Bool :=
  return (← get).host.isRaised (← get).source.flag

def poll : SourceM P Unit := do
  if ← isStopped then throw .cancelled

def attempt {α : Type} (operation : SourceM P α) : SourceM P (Except SyncFailure α) :=
  fun station =>
    match operation station with
    | .ok value station => .ok (.ok value) station
    | .error error station => .ok (.error error) station

/-- Takes the value of a reply, and raises the flag if the reply asks for it. -/
def hear {α : Type} (reply : Reply α) : SourceM P α := do
  if reply.cancels then
    modify fun station => { station with host := station.host.raise station.source.flag }
  return reply.value

def expect {α : Type} (outcome : Except Refusal α) : SourceM P α :=
  match outcome with
  | .ok value => return value
  | .error error => throw (.provider error)

/-! ### The sync -/

/-- Fails unless a sync was begun and not ended. A recorded error does not end it. -/
def requireRunning (operation : String) : SourceM P Unit := do
  if (← source).report.standing = .resting then
    throw (.invalidTransition Standing.resting.name operation)

def cache : SourceM P SignatureCache := do
  match (← source).cache with
  | .ok cache => return cache
  | .error cause => throw (Source.missingCache (← source).config cause)

def setCache (cache : SignatureCache) : SourceM P Unit :=
  modifySource fun source => { source with cache := .ok cache }

def updateCache (change : SignatureCache → SignatureCache) : SourceM P Unit := do
  setCache (change (← cache))

def commit (cache : SignatureCache) : SourceM P (Except StoreError Unit) := do
  let (outcome, cache, disk) := cache.commit (← get).host.disk
  setCache cache
  modifyHost fun host => { host with disk }
  return outcome

def setStreaming (streaming : Streaming) : SourceM P Unit :=
  modifySource fun source => { source with streaming }

/-! ### The report -/

def modifyReport (change : SourceReport → SourceReport) : SourceM P Unit :=
  modifySource fun source => { source with report := change source.report }

def record (side : Side) (command : Command) (verdict : Verdict) : SourceM P Unit := do
  if (SourceReport.lane? side command).isNone then note .untracked
  modifyReport fun report => report.record side command verdict

def recordFault (error : Fault) : SourceM P Unit := do
  note .fault
  modifyReport fun report => report.recordFault error

def recordTransfer (side : Side) (command : Command) (key : String) : SourceM P Unit := do
  record side command { id := key, code := (← source).config.success.okCode }

/-! ### The provider -/

def noteLongKey (key : String) : SourceM P Unit := do
  if (← source).config.maxKeyLength < key.length then note .longKey

variable [Provider P]

def load (key : String) (state : Finding) : SourceM P (Option OutgoingItem) := do
  match ← hear (Provider.content (← source).provider key) with
  | .ok content => return some { key, content := some content, state }
  | .error _ =>
    note .skippedItem
    return none

def write {α : Type} (action : P → Reply (Except Refusal α) × P) :
    SourceM P (Except Refusal α) := do
  let (reply, provider) := action (← source).provider
  modifySource fun source => { source with provider }
  hear reply

end SourceM

end Reconcile
