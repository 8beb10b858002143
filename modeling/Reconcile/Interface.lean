import Reconcile.Content
import Reconcile.Failure
import Reconcile.Item.Basic

/-!
What a sync calls outside itself. A provider holds the local data that a source synchronises; the
engine never looks inside the content of an item, it only takes its signature. A link is what a
session needs from the wire; verdicts may come back batched and out of order. The one who is called
may ask on the way that the sync be cancelled, and the caller raises its stop flag then.
-/

namespace Reconcile

structure Reply (α : Type) where
  value : α
  cancels : Bool := false
  deriving DecidableEq

namespace Reply

def map {α β : Type} (f : α → β) (reply : Reply α) : Reply β :=
  { value := f reply.value, cancels := reply.cancels }

/-- Two calls in a row; a request to cancel from either counts. -/
def bind {α β : Type} (reply : Reply α) (f : α → Reply β) : Reply β :=
  { value := (f reply.value).value, cancels := reply.cancels || (f reply.value).cancels }

end Reply

/-- Access to the items of one data source. Reads leave the provider as it is; writes give back
the provider after them, also when they fail. -/
class Provider (P : Type) where
  /-- Every present key, in a stable order, which is the order in which items reach the server.
  Each key is a reply of its own, because keys are handed out one by one. -/
  keys : P → Reply (Except Refusal (List (Reply String)))
  content : P → String → Reply (Except Refusal Bytes)
  signature : P → String → Reply (Except Refusal Signature) :=
    fun provider key => (content provider key).map (Except.map Signature.of)
  /-- Confirms that an item which is no longer enumerated is really gone, and not only hidden. -/
  confirmsDeletion : P → String → Reply Bool := fun _ _ => { value := true }
  insert : P → Bytes → Reply (Except Refusal String) × P
  update : P → String → Bytes → Reply (Except Refusal Unit) × P
  delete : P → String → Reply (Except Refusal Unit) × P
  deleteAll : P → Reply (Except Refusal Unit) × P

/-- Exchanges items with a server on behalf of a session, for the source that is named. Every
call gives back the link after it, also when it fails. -/
class ServerLink (L : Type) where
  /-- Sends one item. Returned are the verdicts that arrived meanwhile, also of earlier items. -/
  send : L → String → OutgoingItem → Reply (Except SyncFailure (List Verdict)) × L
  /-- Ends the upload. Returned is every verdict that was still pending. -/
  conclude : L → String → Reply (Except SyncFailure (List Verdict)) × L
  fetch : L → String → Reply (Except SyncFailure (List ServerChange)) × L
  answer : L → String → List Verdict → Reply (Except SyncFailure Unit) × L

end Reconcile
