import Reconcile.Content
import Reconcile.Item.Code

/-!
What travels between a client and a server: items with their commands, changes from the server,
and the verdicts that answer both.
-/

namespace Reconcile

inductive Side where
  | client
  | server
  deriving DecidableEq, Inhabited

namespace Side

def all : List Side := [client, server]

def name : Side → String
  | client => "Client"
  | server => "Server"

end Side

/-- What is done with an item. Uploads and downloads only mark the progress of a transfer. -/
inductive Command where
  | add
  | replace
  | delete
  | upload
  | download
  deriving DecidableEq, Inhabited

namespace Command

def all : List Command := [add, replace, delete, upload, download]

def name : Command → String
  | add => "Add"
  | replace => "Replace"
  | delete => "Delete"
  | upload => "Upload"
  | download => "Download"

end Command

inductive Finding where
  | full
  | added
  | updated
  | deleted
  deriving DecidableEq, Inhabited

namespace Finding

def all : List Finding := [full, added, updated, deleted]

def name : Finding → String
  | full => "Full"
  | added => "New"
  | updated => "Updated"
  | deleted => "Deleted"

def command : Finding → Command
  | full => .replace
  | added => .add
  | updated => .replace
  | deleted => .delete

end Finding

structure OutgoingItem where
  key : String
  content : Option Bytes
  state : Finding
  deriving DecidableEq, Inhabited

/-- The verdict of one item, with the words that came with it. -/
structure Verdict where
  id : String
  code : StatusCode
  message : Option String := none
  deriving DecidableEq, Inhabited

/-- A change that the server asks for. The key is the server's own for an added item and the local
one otherwise. -/
structure ServerChange where
  command : Command
  key : String
  content : Option Bytes := none
  deriving DecidableEq, Inhabited

end Reconcile
