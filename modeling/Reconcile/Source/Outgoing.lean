import Reconcile.Change.Scan
import Reconcile.Source.Basic

/-!
Items on their way to the server. A full enumeration empties the cache and streams every item; an
incremental sync scans for changes once and streams the buckets of the change set on demand. The
two exclude each other within a sync.
-/

namespace Reconcile

inductive ChangeBucket where
  | added
  | updated
  | deleted
  deriving DecidableEq, Inhabited

namespace ChangeBucket

def all : List ChangeBucket := [added, updated, deleted]

def keys (changes : ChangeSet) : ChangeBucket → List String
  | added => changes.added
  | updated => changes.updated
  | deleted => changes.deleted

def rest (cursors : Cursors) : ChangeBucket → List String
  | added => cursors.added
  | updated => cursors.updated
  | deleted => cursors.deleted

def move (cursors : Cursors) (keys : List String) : ChangeBucket → Cursors
  | added => { cursors with added := keys }
  | updated => { cursors with updated := keys }
  | deleted => { cursors with deleted := keys }

def state : ChangeBucket → Finding
  | added => .added
  | updated => .updated
  | deleted => .deleted

end ChangeBucket

/-- The streams of items, in the order in which an upload takes them. -/
inductive ItemStream where
  | full
  | bucket (bucket : ChangeBucket)
  deriving DecidableEq, Inhabited

def Source.remaining {P : Type} (source : Source P) : ItemStream → Nat
  | .full =>
    match source.streaming with
    | .full queue => queue.length
    | _ => 0
  | .bucket bucket =>
    match source.streaming with
    | .incremental _ cursors => (bucket.rest cursors).length
    | _ => 0

namespace SourceM

variable {P : Type} [Provider P]

/-! ### Full enumeration -/

def collectKeys : List (Reply String) → SourceM P (List String)
  | [] => return []
  | reply :: rest => do
    let key ← hear reply
    poll
    noteLongKey key
    return key :: (← collectKeys rest)

def nextReadable : List String → SourceM P (Option OutgoingItem)
  | [] => do
    poll
    return none
  | key :: rest => do
    poll
    setStreaming (.full rest)
    match ← load key .full with
    | some item => return some item
    | none => nextReadable rest

def nextEnumerated : SourceM P (Option OutgoingItem) := do
  match (← source).streaming with
  | .full queue => nextReadable queue
  | other =>
    poll
    throw (.invalidTransition other.name "next_item")

/-- Begins a full enumeration: empties the cache, and streams the first item. -/
def startEnumeration : SourceM P (Option OutgoingItem) := do
  requireRunning "first_item"
  if let .incremental changes cursors := (← source).streaming then
    throw (.invalidTransition (Streaming.incremental changes cursors).name "full enumeration")
  let replies ← expect (← hear (Provider.keys (← source).provider))
  let keys ← collectKeys replies
  updateCache SignatureCache.clear
  setStreaming (.full keys)
  nextEnumerated

/-! ### Incremental sync -/

/-- What a scan asks of a source: its provider and its flag. Keys are logged when they are too
long, but not by a probe. -/
def scanContext (source : Source P) (probing : Bool) : ScanContext Host where
  isStopped host := host.isRaised source.flag
  handOut reply host :=
    let host := if reply.cancels then host.raise source.flag else host
    if !probing && source.config.maxKeyLength < reply.value.length then host.note .longKey
    else host
  repeated _ host := host.note .repeatedKey
  signature key host :=
    let reply := Provider.signature source.provider key
    let host := if reply.cancels then host.raise source.flag else host
    match reply.value with
    | .ok signature => (signature, host)
    | .error _ => (.empty, host.note .unreadableSignature)
  confirmsDeletion key host :=
    let reply := Provider.confirmsDeletion source.provider key
    (reply.value, if reply.cancels then host.raise source.flag else host)

def scan : SourceM P ChangeSet := do
  let previous := (← cache).snapshot
  let replies ← expect (← hear (Provider.keys (← source).provider))
  let (found, host) :=
    ChangeScan.run (scanContext (← source) false) replies previous (← get).host
  set { (← get) with host }
  match found with
  | some changes => return changes
  | none => throw .cancelled

def scanOnce : SourceM P Unit := do
  requireRunning "incremental sync"
  match (← source).streaming with
  | .incremental .. => return
  | .full queue => throw (.invalidTransition (Streaming.full queue).name "incremental sync")
  | .idle =>
    let changes ← scan
    setStreaming (.incremental changes ⟨changes.added, changes.updated, changes.deleted⟩)

def moveCursor (bucket : ChangeBucket) (keys : List String) : SourceM P Unit :=
  modifySource fun source =>
    match source.streaming with
    | .incremental changes cursors =>
      { source with streaming := .incremental changes (bucket.move cursors keys) }
    | _ => source

def itemOf (bucket : ChangeBucket) (key : String) : SourceM P (Option OutgoingItem) :=
  match bucket with
  | .deleted => return some { key, content := none, state := .deleted }
  | _ => load key bucket.state

/-- The first item that can be read among the keys left of a bucket. -/
def nextOfBucket (bucket : ChangeBucket) : List String → SourceM P (Option OutgoingItem)
  | [] => do
    poll
    return none
  | key :: rest => do
    poll
    moveCursor bucket rest
    match ← itemOf bucket key with
    | some item => return some item
    | none => nextOfBucket bucket rest

def nextChange (bucket : ChangeBucket) : SourceM P (Option OutgoingItem) := do
  scanOnce
  match (← source).streaming with
  | .incremental _ cursors => nextOfBucket bucket (bucket.rest cursors)
  | other =>
    poll
    throw (.invalidTransition other.name "incremental item")

/-- Goes back to the start of a bucket, and streams its first item. -/
def firstChange (bucket : ChangeBucket) : SourceM P (Option OutgoingItem) := do
  scanOnce
  if let some changes := (← source).changes? then moveCursor bucket (bucket.keys changes)
  nextChange bucket

/-! ### Streams -/

def first : ItemStream → SourceM P (Option OutgoingItem)
  | .full => startEnumeration
  | .bucket bucket => firstChange bucket

def next : ItemStream → SourceM P (Option OutgoingItem)
  | .full => nextEnumerated
  | .bucket bucket => nextChange bucket

/-- The item and those that follow it in a stream, at most `bound` of them, and the failure that
cut the stream short. -/
def drainFrom (stream : ItemStream) : Nat → Option OutgoingItem →
    SourceM P (List OutgoingItem × Option SyncFailure)
  | _, none => return ([], none)
  | 0, some item => return ([item], none)
  | bound + 1, some item => do
    match ← attempt (next stream) with
    | .error error => return ([item], some error)
    | .ok following =>
      let (items, failure) ← drainFrom stream bound following
      return (item :: items, failure)

/-- All items of a stream up to its end, or up to a failure, which comes with them. -/
def drain (stream : ItemStream) : SourceM P (List OutgoingItem × Option SyncFailure) := do
  match ← attempt (first stream) with
  | .error error => return ([], some error)
  | .ok item => drainFrom stream ((← source).remaining stream + 1) item

/-! ### Probe -/

/-- Whether a sync would find local changes. Neither cache nor streams are touched. -/
def isModified : SourceM P Bool := do
  let previous := (← cache).snapshot
  let replies ← expect (← hear (Provider.keys (← source).provider))
  let (answer, host) :=
    ChangeScan.probe (scanContext (← source) true) replies previous (← get).host
  set { (← get) with host }
  match answer with
  | some answer => return answer
  | none => throw .cancelled

end SourceM

end Reconcile
