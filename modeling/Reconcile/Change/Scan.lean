import Reconcile.Interface

/-!
The change scan. It compares the keys that a provider hands out with the entries of the cache:
each entry is matched at most once, and the entries that stay unmatched are candidates for
deletion. The scan is all or nothing, since a raised stop flag discards what was found so far.
-/

namespace Reconcile

/-- The keys of a source, sorted by what became of them since the last sync. -/
structure ChangeSet where
  keys : List String := []
  added : List String := []
  updated : List String := []
  deleted : List String := []
  unchanged : List String := []
  previous : List (String × Signature) := []
  deriving DecidableEq, Inhabited

def ChangeSet.isEmpty (changes : ChangeSet) : Bool :=
  changes.added.isEmpty && changes.updated.isEmpty && changes.deleted.isEmpty

/-- What a scan asks of its surroundings, whose state is `σ`. -/
structure ScanContext (σ : Type) where
  isStopped : σ → Bool
  handOut : Reply String → σ → σ
  repeated : String → σ → σ
  /-- The present signature of an item; the empty one if it cannot be read. -/
  signature : String → σ → Signature × σ
  confirmsDeletion : String → σ → Bool × σ

namespace ChangeScan

def takeLast (key : String) :
    List (String × Signature) → Option (Signature × List (String × Signature))
  | [] => none
  | entry :: rest =>
    match takeLast key rest with
    | some (signature, rest) => some (signature, entry :: rest)
    | none => if entry.1 = key then some (entry.2, rest) else none

variable {σ : Type} (context : ScanContext σ)

/-- Sorts the handed out keys into `found`, and takes the entries that they match out of
`pending`. Nothing is returned once the stop flag was seen. -/
def classify : List (Reply String) → ChangeSet → List (String × Signature) → σ →
    Option (ChangeSet × List (String × Signature)) × σ
  | [], found, pending, state => (some (found, pending), state)
  | reply :: rest, found, pending, state =>
    let key := reply.value
    let state := context.handOut reply state
    if context.isStopped state then (none, state)
    else if found.keys.contains key then
      classify rest found pending (context.repeated key state)
    else
      let found := { found with keys := found.keys ++ [key] }
      match takeLast key pending with
      | none => classify rest { found with added := found.added ++ [key] } pending state
      | some (cached, pending) =>
        let (present, state) := context.signature key state
        if present = cached then
          classify rest { found with unchanged := found.unchanged ++ [key] } pending state
        else classify rest { found with updated := found.updated ++ [key] } pending state

def confirm : List (String × Signature) → σ → Option (List String) × σ
  | [], state => (some [], state)
  | (key, _) :: rest, state =>
    if context.isStopped state then (none, state)
    else
      let (gone, state) := context.confirmsDeletion key state
      let (others, state) := confirm rest state
      (others.map fun keys => if gone then key :: keys else keys, state)

def run (keys : List (Reply String)) (previous : List (String × Signature)) (state : σ) :
    Option ChangeSet × σ :=
  match classify context keys {} previous state with
  | (none, state) => (none, state)
  | (some (found, pending), state) =>
    let (deleted, state) := confirm context pending state
    (deleted.map fun deleted => { found with deleted, previous }, state)

def lookupLast (key : String) (previous : List (String × Signature)) : Option Signature :=
  previous.reverse.lookup key

def distinctKeys (previous : List (String × Signature)) : List String :=
  (previous.map Prod.fst).eraseDups

/-- Looks for the first difference among the keys still to come; `seen` holds those before. -/
def probeFrom (previous : List (String × Signature)) :
    List (Reply String) → List String → σ → Option Bool × σ
  | [], seen, state => (some (seen.length != (distinctKeys previous).length), state)
  | reply :: rest, seen, state =>
    let key := reply.value
    let state := context.handOut reply state
    if context.isStopped state then (none, state)
    else if seen.contains key then probeFrom previous rest seen state
    else
      match lookupLast key previous with
      | none => (some true, state)
      | some cached =>
        let (present, state) := context.signature key state
        if present = cached then probeFrom previous rest (seen ++ [key]) state
        else (some true, state)

/-- Whether a scan would find anything, as far as it can be told without sorting the keys. It
stops at the first difference, and says nothing once the stop flag was seen. -/
def probe (keys : List (Reply String)) (previous : List (String × Signature)) (state : σ) :
    Option Bool × σ :=
  probeFrom context previous keys [] state

end ChangeScan

end Reconcile
