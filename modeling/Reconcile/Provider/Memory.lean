import Reconcile.Entries
import Reconcile.Interface

/-!
The provider in memory. Items keep their order of insertion; single items can be made unreadable,
deletions can be vetoed, and the whole provider can be full.
-/

namespace Reconcile

/-- Items in memory. `lastId` is the number of the latest key that the provider made up. -/
structure MemoryProvider where
  items : List (String × Bytes) := []
  unreadable : List String := []
  vetoed : List String := []
  full : Bool := false
  lastId : Nat := 0
  deriving DecidableEq, Inhabited

namespace MemoryProvider

def get? (provider : MemoryProvider) (key : String) : Option Bytes := provider.items.lookup key

def put (provider : MemoryProvider) (key : String) (content : Bytes) : MemoryProvider :=
  { provider with items := Entries.place key content provider.items }

def ofList (items : List (String × Bytes)) : MemoryProvider :=
  items.foldl (fun provider item => provider.put item.1 item.2) {}

def remove (provider : MemoryProvider) (key : String) : Bool × MemoryProvider :=
  let items := Entries.without key provider.items
  (items.length != provider.items.length, { provider with items })

/-- Makes an item unreadable while it is still enumerated. -/
def hide (provider : MemoryProvider) (key : String) : MemoryProvider :=
  { provider with unreadable := key :: provider.unreadable }

def veto (provider : MemoryProvider) (key : String) : MemoryProvider :=
  { provider with vetoed := key :: provider.vetoed }

def size (provider : MemoryProvider) : Nat := provider.items.length

def localKey (id : Nat) : String := "local-" ++ id.repr

/-- The first number from `id` on whose key is free, among `attempts` of them and the next. -/
def firstFree (provider : MemoryProvider) : Nat → Nat → Nat
  | 0, id => id
  | attempts + 1, id =>
    if (provider.get? (localKey id)).isSome then firstFree provider attempts (id + 1) else id

/-- The number of the next key to make up. As many numbers as there are items can be taken. -/
def nextId (provider : MemoryProvider) : Nat :=
  provider.firstFree provider.items.length (provider.lastId + 1)

def read (provider : MemoryProvider) (key : String) : Except Refusal Bytes :=
  if provider.unreadable.contains key then .error (.notFound key)
  else
    match provider.get? key with
    | some content => .ok content
    | none => .error (.notFound key)

def insert (provider : MemoryProvider) (content : Bytes) :
    Except Refusal String × MemoryProvider :=
  if provider.full then (.error .deviceFull, provider)
  else
    let id := provider.nextId
    (.ok (localKey id),
      { provider with items := provider.items ++ [(localKey id, content)], lastId := id })

def update (provider : MemoryProvider) (key : String) (content : Bytes) :
    Except Refusal Unit × MemoryProvider :=
  if provider.full then (.error .deviceFull, provider)
  else if (provider.get? key).isSome then (.ok (), provider.put key content)
  else (.error (.notFound key), provider)

def delete (provider : MemoryProvider) (key : String) :
    Except Refusal Unit × MemoryProvider :=
  let (found, provider) := provider.remove key
  (if found then .ok () else .error (.notFound key), provider)

def deleteAll (provider : MemoryProvider) : MemoryProvider := { provider with items := [] }

instance : Provider MemoryProvider where
  keys provider := { value := .ok (provider.items.map fun item => { value := item.1 }) }
  content provider key := { value := provider.read key }
  confirmsDeletion provider key := { value := !provider.vetoed.contains key }
  insert provider content :=
    let (outcome, provider) := provider.insert content
    ({ value := outcome }, provider)
  update provider key content :=
    let (outcome, provider) := provider.update key content
    ({ value := outcome }, provider)
  delete provider key :=
    let (outcome, provider) := provider.delete key
    ({ value := outcome }, provider)
  deleteAll provider := ({ value := .ok () }, provider.deleteAll)

end MemoryProvider

structure PlainProvider where
  items : MemoryProvider
  deriving DecidableEq, Inhabited

instance : Provider PlainProvider where
  keys provider := Provider.keys provider.items
  content provider := Provider.content provider.items
  insert provider content := (Provider.insert provider.items content).map id .mk
  update provider key content := (Provider.update provider.items key content).map id .mk
  delete provider key := (Provider.delete provider.items key).map id .mk
  deleteAll provider := (Provider.deleteAll provider.items).map id .mk

end Reconcile
