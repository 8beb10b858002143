/-!
Status codes of items, and the two rules that tell success from failure.
-/

namespace Reconcile

abbrev StatusCode := Int

namespace StatusCode

def mediaOk : StatusCode := 0

def ok : StatusCode := 200

def added : StatusCode := 201

/-- A part of a large item arrived, and more of it follows. -/
def chunkAccepted : StatusCode := 213

def notFound : StatusCode := 404

def alreadyExists : StatusCode := 418

def deviceFull : StatusCode := 420

def failed : StatusCode := 500

/-- Whether the code acknowledges a part of an item only, so that a final status follows. -/
def isChunkAck (code : StatusCode) : Bool := code == chunkAccepted

def isFull (code : StatusCode) : Bool := code == deviceFull

end StatusCode

inductive SuccessRule where
  /-- Codes from 200 up to 500 are success, except that for a full device. -/
  | syncML
  | media
  deriving DecidableEq, Inhabited

namespace SuccessRule

def all : List SuccessRule := [syncML, media]

def name : SuccessRule → String
  | syncML => "SyncMl"
  | media => "Media"

def mediaSources : List String := ["picture", "video", "files", "music"]

/-- The rule that follows from the name of a source, in any case of its ASCII letters. -/
def ofSourceName (source : String) : SuccessRule :=
  if mediaSources.contains (String.ofList (source.toList.map Char.toLower)) then media else syncML

def isSuccess (rule : SuccessRule) (code : StatusCode) : Bool :=
  match rule with
  | media => code == StatusCode.mediaOk
  | syncML => StatusCode.ok ≤ code && code < StatusCode.failed && code != StatusCode.deviceFull

def addedCode : SuccessRule → StatusCode
  | media => StatusCode.mediaOk
  | syncML => StatusCode.added

/-- The code that the client reports for an item it replaced or deleted. -/
def okCode : SuccessRule → StatusCode
  | media => StatusCode.mediaOk
  | syncML => StatusCode.ok

end SuccessRule

end Reconcile
