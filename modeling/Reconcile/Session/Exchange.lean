import Reconcile.Interface
import Reconcile.Source.Incoming
import Reconcile.Source.Outgoing

/-!
Exchanges: a source takes part in a session through a link to the server. An upload streams the
items and routes verdicts back to them; a download applies the changes of the server.
-/

namespace Reconcile

structure Exchange (P L : Type) where
  station : Station P
  link : L

abbrev ExchangeM (P L : Type) := EStateM SyncFailure (Exchange P L)

/-- The items that were sent and still wait for a final verdict, with their commands. -/
structure InFlight where
  commands : List (String × Command) := []
  deriving DecidableEq, Inhabited

namespace InFlight

def send (inFlight : InFlight) (item : OutgoingItem) : InFlight :=
  ⟨(item.key, item.state.command) :: inFlight.commands.filter fun entry => entry.1 != item.key⟩

/-- The command that a verdict answers. A final verdict takes its item out of the flight. -/
def answer (inFlight : InFlight) (verdict : Verdict) : Option Command × InFlight :=
  (inFlight.commands.lookup verdict.id,
    if verdict.code.isChunkAck then inFlight
    else ⟨inFlight.commands.filter fun entry => entry.1 != verdict.id⟩)

end InFlight

namespace ExchangeM

variable {P L : Type}

def onStation {α : Type} (operation : SourceM P α) : ExchangeM P L α := fun exchange =>
  match operation exchange.station with
  | .ok value station => .ok value { exchange with station }
  | .error error station => .error error { exchange with station }

def sourceName : ExchangeM P L String := return (← get).station.source.config.name

def isServerFull : ExchangeM P L Bool :=
  return (← get).station.source.report.isFull .server

def call {α : Type} (action : L → String → Reply (Except SyncFailure α) × L) :
    ExchangeM P L α := do
  let (reply, link) := action (← get).link (← sourceName)
  modify fun exchange => { exchange with link }
  match ← onStation (SourceM.hear reply) with
  | .ok value => return value
  | .error error => throw error

variable [Provider P] [ServerLink L]

/-! ### Upload -/

/-- Routes verdicts to the items that they answer. Verdicts of other items are dropped. -/
def route : List Verdict → InFlight → ExchangeM P L InFlight
  | [], inFlight => return inFlight
  | verdict :: rest, inFlight => do
    let (command, inFlight) := inFlight.answer verdict
    match command with
    | none => onStation (SourceM.note .unknownItem)
    | some command => onStation (SourceM.takeVerdict command verdict)
    route rest inFlight

/-- Sends the item and those that follow it in the stream, at most `bound` of them. Returned are
the items in flight, or nothing once the server is full. -/
def sendFrom (stream : ItemStream) : Nat → Option OutgoingItem → InFlight →
    ExchangeM P L (Option InFlight)
  | _, none, inFlight => return some inFlight
  | 0, some _, inFlight => return some inFlight
  | bound + 1, some item, inFlight => do
    let verdicts ← call fun link source => ServerLink.send link source item
    onStation (SourceM.recordTransfer .server .upload item.key)
    let inFlight ← route verdicts (inFlight.send item)
    if ← isServerFull then
      onStation (SourceM.note .uploadStopped)
      return none
    let following ← onStation (SourceM.next stream)
    sendFrom stream bound following inFlight

/-- Sends all items of a stream. Each item takes at least one key of the stream, so that the keys
left after the first item bound the number of items. -/
def sendStream (stream : ItemStream) (inFlight : InFlight) :
    ExchangeM P L (Option InFlight) := do
  let item ← onStation (SourceM.first stream)
  sendFrom stream ((← get).station.source.remaining stream + 1) item inFlight

def sendStreams : List ItemStream → InFlight → ExchangeM P L (Option InFlight)
  | [], inFlight => return some inFlight
  | stream :: rest, inFlight => do
    match ← sendStream stream inFlight with
    | none => return none
    | some inFlight => sendStreams rest inFlight

def streamsOf (mode : SyncMode) : List ItemStream :=
  if mode.sendsAll then [.full] else ChangeBucket.all.map .bucket

/-- Sends the local items, and takes in every verdict. A full server stops the upload. -/
def upload (mode : SyncMode) : ExchangeM P L Unit := do
  match ← sendStreams (streamsOf mode) {} with
  | none => return
  | some inFlight =>
    let verdicts ← call ServerLink.conclude
    let inFlight ← route verdicts inFlight
    if ← isServerFull then onStation (SourceM.note .serverFull)
    unless inFlight.commands.isEmpty do onStation (SourceM.note .unanswered)

/-! ### Download -/

/-- Applies one change of the server. Nothing answers a command that is none of items. -/
def applyChange (change : ServerChange) : SourceM P (Option StatusCode) := do
  let content := change.content.getD []
  match change.command with
  | .add => return some (← SourceM.applyAdd change.key content)
  | .replace => return some (← SourceM.applyReplace change.key content)
  | .delete => return some (← SourceM.applyDelete change.key)
  | .upload | .download =>
    SourceM.note .unsupportedCommand
    return none

def applyChanges : List ServerChange → SourceM P (List Verdict)
  | [] => return []
  | change :: rest => do
    SourceM.poll
    SourceM.recordTransfer .client .download change.key
    let code ← applyChange change
    let verdicts ← applyChanges rest
    return (code.map fun code => { id := change.key, code }).toList ++ verdicts

def download : ExchangeM P L Unit := do
  let changes ← call ServerLink.fetch
  let verdicts ← onStation (applyChanges changes)
  call fun link source => ServerLink.answer link source verdicts

def exchange (mode : SyncMode) : ExchangeM P L Unit := do
  if mode.sends then upload mode
  if mode.receives then download

end ExchangeM

end Reconcile
