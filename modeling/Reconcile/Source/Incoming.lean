import Reconcile.Source.Basic

/-!
What comes from the server: the verdicts of sent items, and changes to apply to the local data.
Both keep the cache in step.
-/

namespace Reconcile.SourceM

variable {P : Type}

def recordFull (side : Side) : SourceM P Unit := recordFault (SourceReport.fullFault side)

/-- Takes notice of a write that the provider refused, and gives the code to answer with. -/
def refusal (error : Refusal) : SourceM P StatusCode := do
  note .localFailure
  match error with
  | .deviceFull =>
    recordFull .client
    return StatusCode.deviceFull
  | .notFound _ => return StatusCode.notFound
  | .failed _ => return StatusCode.failed

/-- Carries out a change of a known item, which the cache follows unless the provider refuses. -/
def changeItem (operation : String) (command : Command) (key : String)
    (action : P → Reply (Except Refusal Unit) × P) (follow : SignatureCache → SignatureCache) :
    SourceM P StatusCode := do
  poll
  requireRunning operation
  let code ← do
    match ← write action with
    | .ok () =>
      updateCache follow
      pure (← source).config.success.okCode
    | .error error => refusal error
  record .client command { id := key, code }
  return code

variable [Provider P]

/-- Keeps the present signature of an item whose sending succeeded, if it can be read. -/
def cacheSignature (key : String) : SourceM P Unit := do
  match ← hear (Provider.signature (← source).provider key) with
  | .ok signature => updateCache fun cache => cache.put key signature
  | .error _ => note .vanishedItem

/-- Applies the verdict of a sent item. Success brings the cache up to date, or drops a deleted
key; failure leaves it alone, so that the change is found again; a chunk acknowledgment changes
nothing. -/
def takeVerdict (command : Command) (verdict : Verdict) : SourceM P Unit := do
  poll
  requireRunning "set_item_status"
  discard cache
  record .server command verdict
  if verdict.code.isChunkAck then
    note .chunkAccepted
  else if !(← source).config.success.isSuccess verdict.code then
    if verdict.code.isFull then recordFull .server
  else if command = .delete then
    updateCache fun cache => (cache.remove verdict.id).2
  else
    cacheSignature verdict.id

/-- Adds an item of the server. Its new key is cached at once, so that it is not sent back. -/
def applyAdd (serverId : String) (content : Bytes) : SourceM P StatusCode := do
  poll
  requireRunning "add_item"
  match ← write fun provider => Provider.insert provider content with
  | .ok key =>
    updateCache fun cache => cache.put key (.of content)
    let code := (← source).config.success.addedCode
    record .client .add { id := key, code }
    return code
  | .error error =>
    let code ← refusal error
    record .client .add { id := serverId, code }
    return code

def applyReplace (key : String) (content : Bytes) : SourceM P StatusCode :=
  changeItem "update_item" .replace key (fun provider => Provider.update provider key content)
    fun cache => cache.put key (.of content)

def applyDelete (key : String) : SourceM P StatusCode :=
  changeItem "delete_item" .delete key (fun provider => Provider.delete provider key)
    fun cache => (cache.remove key).2

end Reconcile.SourceM
