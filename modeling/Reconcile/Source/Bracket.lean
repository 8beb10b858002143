import Reconcile.Source.Basic

/-!
The bracket of a sync: `start` opens it, `finish` commits the cache and closes it.
-/

namespace Reconcile.SourceM

variable {P : Type}

def commitError (cause : StoreError) : Fault where
  code := StatusCode.failed
  message := "cannot commit item cache: " ++ cause.message
  kind := .commitFailed

/-- Makes the cache durable. A failure is recorded as the error of the source. -/
def commitOrFail (cache : SignatureCache) : SourceM P Unit := do
  match ← commit cache with
  | .ok () => return
  | .error cause =>
    recordFault (commitError cause)
    throw (.commitFailed (← source).config.name cause)

/-- Lowers the source's own flag, by taking a fresh one. A shared flag is left to its owner. -/
def renewFlag : SourceM P Unit := do
  unless (← source).flagShared do
    let (flag, host) := (← get).host.freshFlag
    set { (← get) with host }
    modifySource fun source => { source with flag }

/-- Empties the cache for good, then deletes every local item. The cache goes first: the items of
a stale cache would become deletions on the server with the next sync. -/
def wipe [Provider P] : SourceM P Unit := do
  let cache := (← cache).clear
  setCache cache
  commitOrFail cache
  expect (← write Provider.deleteAll)

def start [Provider P] (mode : SyncMode) : SourceM P Unit := do
  if (← source).report.standing = .running then
    throw (.invalidTransition Standing.running.name "begin_sync")
  modifySource fun source =>
    { source with report := Source.blankReport source.config, streaming := .idle, mode }
  renewFlag
  if let .error cause := (← source).cache then
    let error := Source.missingCache (← source).config cause
    recordFault { code := StatusCode.failed, message := error.message, kind := .noCache }
    note .cannotStart
    throw error
  if mode = .refreshFromServer then wipe
  modifyReport fun report => { report with standing := .running }

/-- Moves an active source back to rest. A recorded error stays in sight. -/
def settle : SourceM P Unit :=
  modifyReport fun report =>
    if report.standing = .running then { report with standing := .resting } else report

def recordedFailure (name : String) (error : Fault) : SyncFailure :=
  if error.kind = .noCache then .noCache name error.message
  else .sourceFailed name error.code error.message

/-- Ends the sync. After a stop nothing is made durable, so that the next sync finds the same
changes; otherwise the cache is committed, and the last recorded error is the result. -/
def finish : SourceM P Unit := do
  setStreaming .idle
  if ← isStopped then
    settle
    throw .cancelled
  let present ← source
  if let .ok cache := present.cache then
    if present.report.standing ≠ .resting then commitOrFail cache
  settle
  match (← source).report.fault with
  | none => return
  | some error => throw (recordedFailure present.config.name error)

end Reconcile.SourceM
