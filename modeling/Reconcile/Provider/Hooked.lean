import Reconcile.Provider.Memory

/-!
A provider in memory with hooks: chosen calls fail, or ask for the sync to be cancelled, and
signatures and keys can be made up.
-/

namespace Reconcile

inductive ProviderCall where
  | keys
  | nextKey
  | content
  | signature
  | confirmsDeletion
  | insert
  | update
  | delete
  | deleteAll
  deriving DecidableEq, Inhabited

/-- A place for a hook: a call, and the key it is about. Calls about no key have the empty one. -/
abbrev HookPoint := ProviderCall × String

structure Hooks where
  /-- Calls that fail; of two for one call, the first counts. -/
  failures : List (HookPoint × Refusal) := []
  /-- Signatures that stand in for those of the content. -/
  signatures : List (String × Signature) := []
  cancels : List HookPoint := []

structure HookedProvider where
  items : MemoryProvider := {}
  /-- Keys that are enumerated after those of the items. -/
  extraKeys : List String := []
  hooks : Hooks := {}

namespace HookedProvider

def hook (provider : HookedProvider) (point : HookPoint) : Reply (Except Refusal Unit) :=
  { value :=
      match provider.hooks.failures.lookup point with
      | some error => .error error
      | none => .ok ()
    cancels := provider.hooks.cancels.contains point }

def guarded {α : Type} (provider : HookedProvider) (point : HookPoint)
    (read : Reply (Except Refusal α)) : Reply (Except Refusal α) :=
  (provider.hook point).bind fun
    | .ok () => read
    | .error error => { value := .error error }

def guardedWrite {α : Type} (provider : HookedProvider) (point : HookPoint)
    (write : MemoryProvider → Except Refusal α × MemoryProvider) :
    Reply (Except Refusal α) × HookedProvider :=
  let reply := provider.hook point
  match reply.value with
  | .error error => ({ reply with value := .error error }, provider)
  | .ok () =>
    let (outcome, items) := write provider.items
    ({ reply with value := outcome }, { provider with items })

def handOut (provider : HookedProvider) (key : String) : Reply String :=
  { value := key, cancels := (provider.hook (.nextKey, key)).cancels }

def enumerate (provider : HookedProvider) : Reply (Except Refusal (List (Reply String))) :=
  let keys := provider.items.items.map Prod.fst ++ provider.extraKeys
  provider.guarded (.keys, "") { value := .ok (keys.map provider.handOut) }

def read (provider : HookedProvider) (key : String) : Reply (Except Refusal Bytes) :=
  provider.guarded (.content, key) { value := provider.items.read key }

def sign (provider : HookedProvider) (key : String) : Reply (Except Refusal Signature) :=
  provider.guarded (.signature, key) <|
    match provider.hooks.signatures.lookup key with
    | some signature => { value := .ok signature }
    | none => (provider.read key).map (Except.map Signature.of)

instance : Provider HookedProvider where
  keys := enumerate
  content := read
  signature := sign
  confirmsDeletion provider key :=
    { value := !provider.items.vetoed.contains key
      cancels := (provider.hook (.confirmsDeletion, key)).cancels }
  insert provider content := provider.guardedWrite (.insert, "") fun items => items.insert content
  update provider key content :=
    provider.guardedWrite (.update, key) fun items => items.update key content
  delete provider key := provider.guardedWrite (.delete, key) fun items => items.delete key
  deleteAll provider :=
    provider.guardedWrite (.deleteAll, "") fun items => (.ok (), items.deleteAll)

end HookedProvider

end Reconcile
