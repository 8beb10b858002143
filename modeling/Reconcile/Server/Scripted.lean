import Reconcile.Interface

/-!
The scripted server. It answers every item with one code unless verdicts are scripted for its
key, and holds verdicts back until a batch of sends is full.
-/

namespace Reconcile

structure ScriptedServer where
  connected : Bool := true
  defaultCode : StatusCode := StatusCode.ok
  /-- The sends after which held back verdicts are released. -/
  batchSize : Nat := 1
  scripts : List (String × List Verdict) := []
  pending : List Verdict := []
  incoming : List (String × List ServerChange) := []
  sent : List (String × OutgoingItem) := []
  acknowledged : List (String × Verdict) := []
  /-- The number of items after which the connection is lost. -/
  sendLimit : Option Nat := none
  deriving DecidableEq, Inhabited

namespace ScriptedServer

def batched (server : ScriptedServer) (size : Nat) : ScriptedServer :=
  { server with batchSize := max size 1 }

def assign {α : Type} (key : String) (value : α) (entries : List (String × α)) :
    List (String × α) :=
  (key, value) :: entries.filter fun entry => entry.1 != key

def script (server : ScriptedServer) (verdict : Verdict) : ScriptedServer :=
  let queue := (server.scripts.lookup verdict.id).getD []
  { server with scripts := assign verdict.id (queue ++ [verdict]) server.scripts }

def scheduleChanges (server : ScriptedServer) (source : String) (changes : List ServerChange) :
    ScriptedServer :=
  { server with incoming := assign source changes server.incoming }

def keysFrom (server : ScriptedServer) (source : String) : List String :=
  (server.sent.filter fun entry => entry.1 == source).map fun entry => entry.2.key

/-- The verdicts of a queue up to the first final one, and the rest. -/
def cutAnswer : List Verdict → List Verdict × List Verdict
  | [] => ([], [])
  | verdict :: rest =>
    if verdict.code.isChunkAck then
      let (taken, left) := cutAnswer rest
      (verdict :: taken, left)
    else ([verdict], rest)

def verdictsFor (server : ScriptedServer) (key : String) : List Verdict × ScriptedServer :=
  match (server.scripts.lookup key).getD [] with
  | [] => ([{ id := key, code := server.defaultCode }], server)
  | queue =>
    let (taken, left) := cutAnswer queue
    (taken, { server with scripts := assign key left server.scripts })

def whenConnected {α : Type} (server : ScriptedServer)
    (call : Except SyncFailure α × ScriptedServer) :
    Reply (Except SyncFailure α) × ScriptedServer :=
  if server.connected then ({ value := call.1 }, call.2)
  else ({ value := .error (.protocol "not connected") }, server)

def send (server : ScriptedServer) (source : String) (item : OutgoingItem) :
    Except SyncFailure (List Verdict) × ScriptedServer :=
  if server.sendLimit.any fun limit => limit ≤ server.sent.length then
    (.error (.protocol ("connection lost while sending " ++ item.key)), server)
  else
    let sent := server.sent ++ [(source, item)]
    let (answers, server) := server.verdictsFor item.key
    let pending := server.pending ++ answers
    if sent.length % server.batchSize = 0 then (.ok pending, { server with sent, pending := [] })
    else (.ok [], { server with sent, pending })

def conclude (server : ScriptedServer) : Except SyncFailure (List Verdict) × ScriptedServer :=
  (.ok server.pending, { server with pending := [] })

def fetch (server : ScriptedServer) (source : String) :
    Except SyncFailure (List ServerChange) × ScriptedServer :=
  (.ok ((server.incoming.lookup source).getD []),
    { server with incoming := server.incoming.filter fun entry => entry.1 != source })

def answer (server : ScriptedServer) (source : String) (verdicts : List Verdict) :
    Except SyncFailure Unit × ScriptedServer :=
  (.ok (), { server with
    acknowledged := server.acknowledged ++ verdicts.map fun verdict => (source, verdict) })

instance : ServerLink ScriptedServer where
  send server source item := server.whenConnected (server.send source item)
  conclude server _ := server.whenConnected server.conclude
  fetch server source := server.whenConnected (server.fetch source)
  answer server source verdicts :=
    server.whenConnected (server.answer source verdicts)

end ScriptedServer

end Reconcile
