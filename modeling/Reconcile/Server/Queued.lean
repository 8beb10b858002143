import Reconcile.Interface

/-!
The link that is played from queued answers. Every call takes the next answer from the queue of
its kind; when that is empty the call succeeds plainly.
-/

namespace Reconcile

/-- A queued answer. It may ask for the sync to be cancelled, and may fail the call; otherwise it
says what the call returns, if not the plain answer. -/
structure QueuedAnswer (α : Type) where
  cancels : Bool := false
  error : Option SyncFailure := none
  value : Option α := none

/-- The queues of answers, and what was sent and acknowledged with success. -/
structure AnswerQueue where
  sends : List (QueuedAnswer (List Verdict)) := []
  conclusions : List (QueuedAnswer (List Verdict)) := []
  fetches : List (QueuedAnswer (List ServerChange)) := []
  answers : List (QueuedAnswer Unit) := []
  sent : List (String × OutgoingItem) := []
  acknowledged : List (String × Verdict) := []

namespace AnswerQueue

def reply {α : Type} (queue : List (QueuedAnswer α)) (plain : α) : Reply (Except SyncFailure α) :=
  match queue with
  | [] => { value := .ok plain }
  | answer :: _ =>
    { value :=
        match answer.error with
        | some error => .error error
        | none => .ok (answer.value.getD plain)
      cancels := answer.cancels }

instance : ServerLink AnswerQueue where
  send queue source item :=
    let reply := reply queue.sends [{ id := item.key, code := StatusCode.ok }]
    let sent := if reply.value.isOk then queue.sent ++ [(source, item)] else queue.sent
    (reply, { queue with sends := queue.sends.drop 1, sent })
  conclude queue _ :=
    (reply queue.conclusions [], { queue with conclusions := queue.conclusions.drop 1 })
  fetch queue _ :=
    (reply queue.fetches [], { queue with fetches := queue.fetches.drop 1 })
  answer queue source verdicts :=
    let reply := reply queue.answers ()
    let arrived := verdicts.map fun verdict => (source, verdict)
    let acknowledged :=
      if reply.value.isOk then queue.acknowledged ++ arrived else queue.acknowledged
    (reply, { queue with answers := queue.answers.drop 1, acknowledged })

end AnswerQueue

end Reconcile
