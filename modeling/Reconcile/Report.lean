import Reconcile.Item.Basic

/-!
Reports. A bucket lists each item once, in the order in which the items were first seen, with its
latest verdict. The report of one source's sync holds its standing, its last error, and a bucket for
each combination of side and command that is tracked; the report of a session holds the latest
report of each of its sources, in the order of their first runs.
-/

namespace Reconcile

/-- The outcomes of one command on one side, with the place of every item in the list. -/
structure Bucket where
  verdicts : List Verdict := []
  index : List (String × Nat) := []
  deriving DecidableEq, Inhabited

namespace Bucket

def get? (bucket : Bucket) (id : String) : Option Verdict :=
  (bucket.index.lookup id).bind fun place => bucket.verdicts[place]?

/-- Whether a verdict is kept at all: it needs an item, and must be final. -/
def accepts (verdict : Verdict) : Bool := verdict.id != "" && !verdict.code.isChunkAck

def add (bucket : Bucket) (verdict : Verdict) : Bucket :=
  if accepts verdict then
    match bucket.index.lookup verdict.id with
    | some place => { bucket with verdicts := bucket.verdicts.set place verdict }
    | none =>
      { verdicts := bucket.verdicts ++ [verdict]
        index := (verdict.id, bucket.verdicts.length) :: bucket.index }
  else bucket

def size (bucket : Bucket) : Nat := bucket.verdicts.length

def isEmpty (bucket : Bucket) : Bool := bucket.verdicts.isEmpty

def successful (bucket : Bucket) (rule : SuccessRule) : Nat :=
  bucket.verdicts.countP fun verdict => rule.isSuccess verdict.code

def failed (bucket : Bucket) (rule : SuccessRule) : Nat := bucket.size - bucket.successful rule

def alreadyExisting (bucket : Bucket) : Nat :=
  bucket.verdicts.countP fun verdict => verdict.code == StatusCode.alreadyExists

end Bucket

inductive Standing where
  | resting
  | running
  | failed
  deriving DecidableEq, Inhabited

namespace Standing

def all : List Standing := [resting, running, failed]

def name : Standing → String
  | resting => "Inactive"
  | running => "Active"
  | failed => "Error"

end Standing

inductive FaultKind where
  | generic
  | noCache
  | commitFailed
  | full (side : Side)
  deriving DecidableEq, Inhabited

structure Fault where
  code : StatusCode
  message : String
  kind : FaultKind
  deriving DecidableEq, Inhabited

structure SourceReport where
  source : String
  success : SuccessRule
  standing : Standing := .resting
  fault : Option Fault := none
  buckets : Vector Bucket 8 := Vector.replicate 8 {}
  deriving DecidableEq

namespace SourceReport

/-- What the buckets track, in their order: outcomes first, then the progress of transfers. -/
def lanes : List (Side × Command) :=
  [(.client, .add), (.client, .replace), (.client, .delete),
    (.server, .add), (.server, .replace), (.server, .delete),
    (.client, .download), (.server, .upload)]

/-- The number of lanes, from the first, that track outcomes. -/
def outcomeLanes : Nat := 6

def lane? (side : Side) (command : Command) : Option (Fin 8) :=
  lanes.finIdxOf? (side, command)

def bucket? (report : SourceReport) (side : Side) (command : Command) : Option Bucket :=
  (lane? side command).map fun lane => report.buckets[lane]

/-- Records the verdict of an item. A combination that is not tracked is left out. -/
def record (report : SourceReport) (side : Side) (command : Command) (verdict : Verdict) :
    SourceReport :=
  match lane? side command with
  | none => report
  | some lane =>
    { report with buckets := report.buckets.set lane (report.buckets[lane].add verdict) }

/-- Counts in the bucket of a combination, zero if that is not tracked. -/
def tally (report : SourceReport) (side : Side) (command : Command) (count : Bucket → Nat) : Nat :=
  ((report.bucket? side command).map count).getD 0

def count (report : SourceReport) (side : Side) (command : Command) : Nat :=
  report.tally side command Bucket.size

def successfulCount (report : SourceReport) (side : Side) (command : Command) : Nat :=
  report.tally side command fun bucket => bucket.successful report.success

def failedCount (report : SourceReport) (side : Side) (command : Command) : Nat :=
  report.tally side command fun bucket => bucket.failed report.success

def alreadyExistingCount (report : SourceReport) (side : Side) (command : Command) : Nat :=
  report.tally side command Bucket.alreadyExisting

/-- The number of successful outcomes on both sides. Progress does not count. -/
def totalSuccessful (report : SourceReport) : Nat :=
  (report.buckets.toList.take outcomeLanes).foldr
    (fun bucket total => bucket.successful report.success + total) 0

def recordFault (report : SourceReport) (error : Fault) : SourceReport :=
  { report with fault := some error, standing := .failed }

def fullFault (side : Side) : Fault where
  code := StatusCode.deviceFull
  message :=
    match side with
    | .client => "local storage is full"
    | .server => "server quota exceeded"
  kind := .full side

def recordFull (report : SourceReport) (side : Side) : SourceReport :=
  report.recordFault (fullFault side)

def isFull (report : SourceReport) (side : Side) : Bool :=
  report.fault.map Fault.kind == some (.full side)

def faultCode (report : SourceReport) : StatusCode :=
  (report.fault.map Fault.code).getD 0

def isSuccessful (report : SourceReport) : Bool :=
  report.fault.isNone && report.standing != .failed

/-- Empties every bucket. The standing and the last error stay. -/
def clear (report : SourceReport) : SourceReport :=
  { report with buckets := report.buckets.map fun _ => {} }

end SourceReport

structure SessionReport where
  sources : List SourceReport := []
  fault : Option (StatusCode × String) := none
  deriving DecidableEq, Inhabited

namespace SessionReport

def source? (report : SessionReport) (name : String) : Option SourceReport :=
  report.sources.find? fun entry => entry.source == name

def place (entry : SourceReport) : List SourceReport → List SourceReport
  | [] => [entry]
  | other :: rest =>
    if other.source == entry.source then entry :: rest else other :: place entry rest

def push (report : SessionReport) (entry : SourceReport) : SessionReport :=
  { report with sources := place entry report.sources }

def recordFault (report : SessionReport) (code : StatusCode) (message : String) : SessionReport :=
  { report with fault := some (code, message) }

def faultCode (report : SessionReport) : StatusCode := (report.fault.map Prod.fst).getD 0

def isFull (report : SessionReport) (name : String) (side : Side) : Bool :=
  (report.source? name).any fun entry => entry.isFull side

def totalSuccessful (report : SessionReport) : Nat :=
  report.sources.foldr (fun entry total => entry.totalSuccessful + total) 0

def isSuccessful (report : SessionReport) : Bool :=
  report.fault.isNone && report.sources.all SourceReport.isSuccessful

end SessionReport

end Reconcile
