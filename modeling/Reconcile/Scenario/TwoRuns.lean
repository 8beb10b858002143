import Reconcile.Provider.Memory
import Reconcile.Source.Bracket
import Reconcile.Source.Incoming
import Reconcile.Source.Outgoing

/-!
A scenario: a source with a cache file sends its first items and has them answered, is opened
again over other items, and is asked what changed.
-/

namespace Reconcile.Scenario

structure TwoRuns where
  first : List String
  ended : Except SyncFailure Unit
  modified : Bool
  second : List (List String)
  file : String
  /-- The keys that a source with an empty cache would send. -/
  all : List String

def drainKeys (bucket : ChangeBucket) : SourceM MemoryProvider (List String) := do
  let (items, failure) ← SourceM.drain (.bucket bucket)
  match failure with
  | some error => throw error
  | none => return items.map OutgoingItem.key

def answerAll (code : StatusCode) : List String → SourceM MemoryProvider Unit
  | [] => return
  | key :: rest => do
    SourceM.takeVerdict .add { id := key, code }
    answerAll code rest

def firstRun (mode : SyncMode) (code : StatusCode) : SourceM MemoryProvider (List String) := do
  SourceM.start mode
  let keys ← drainKeys .added
  answerAll code keys
  return keys

def secondRun : SourceM MemoryProvider (Bool × List (List String)) := do
  let modified ← SourceM.isModified
  SourceM.start .twoWay
  return (modified, ← ChangeBucket.all.mapM drainKeys)

/-- The keys that a source over the items sends when nothing is cached. -/
def freshKeys : SourceM MemoryProvider (List String) := do
  SourceM.start .twoWay
  drainKeys .added

def outcomeOf {α : Type} (operation : SourceM MemoryProvider α)
    (station : Station MemoryProvider) : Except SyncFailure α × Host :=
  match operation station with
  | .ok value station => (.ok value, station.host)
  | .error error station => (.error error, station.host)

def twoRuns (directory : Path) (name : String) (mode : SyncMode) (code : StatusCode)
    (first second : List (String × Bytes)) (host : Host) : Except SyncFailure TwoRuns := do
  let config : SourceSettings := { name }
  let client : ClientSettings := ⟨directory⟩
  match firstRun mode code (Source.openNamed config client (MemoryProvider.ofList first) host) with
  | .error error _ => throw error
  | .ok keys station =>
    let (ended, host) := outcomeOf SourceM.finish station
    let (again, host) :=
      outcomeOf secondRun (Source.openNamed config client (MemoryProvider.ofList second) host)
    let (modified, changes) ← again
    let file := (host.disk.fileContent (client.cacheFile name)).toOption.bind Bytes.text?
    let store : SignatureCache := { backing := .memory {} }
    let (all, _) :=
      outcomeOf freshKeys (Source.make config (MemoryProvider.ofList second) (.ok store) host)
    return {
      first := keys, ended, modified, second := changes, file := file.getD "", all := ← all }

end Reconcile.Scenario
