import Reconcile.Interface

/-!
Laws of providers. A provider acts as a map if its writes do to the keys that it hands out what the
writes of a map do; and any provider can be given a log of the calls that write it.
-/

namespace Reconcile

variable {P : Type} [Provider P]

/-! ### Maps -/

/-- A provider that acts as a map of the given keys. Nothing is said of what it reads, nor of what
it leaves when all items are to be deleted. -/
structure ActsAsMap (holds : P → String → Prop) : Prop where
  keys : ∀ provider replies, (Provider.keys provider).value = .ok replies →
    ∀ key, holds provider key ↔ key ∈ replies.map Reply.value
  insert_ok : ∀ provider content key, (Provider.insert provider content).1.value = .ok key →
    ∀ other, holds (Provider.insert provider content).2 other ↔ other = key ∨ holds provider other
  insert_error : ∀ provider content refusal,
    (Provider.insert provider content).1.value = .error refusal →
      ∀ other, holds (Provider.insert provider content).2 other ↔ holds provider other
  update_ok : ∀ provider key content, (Provider.update provider key content).1.value = .ok () →
    ∀ other, holds (Provider.update provider key content).2 other ↔ other = key ∨ holds provider other
  update_error : ∀ provider key content refusal,
    (Provider.update provider key content).1.value = .error refusal →
      ∀ other, holds (Provider.update provider key content).2 other ↔ holds provider other
  delete_ok : ∀ provider key, (Provider.delete provider key).1.value = .ok () →
    ∀ other, holds (Provider.delete provider key).2 other ↔ other ≠ key ∧ holds provider other
  delete_error : ∀ provider key refusal, (Provider.delete provider key).1.value = .error refusal →
    ∀ other, holds (Provider.delete provider key).2 other ↔ holds provider other

structure RefusesWhole (P : Type) [Provider P] : Prop where
  insert : ∀ (provider : P) (content : Bytes) (refusal : Refusal),
    (Provider.insert provider content).1.value = .error refusal →
      (Provider.insert provider content).2 = provider
  update : ∀ (provider : P) (key : String) (content : Bytes) (refusal : Refusal),
    (Provider.update provider key content).1.value = .error refusal →
      (Provider.update provider key content).2 = provider
  delete : ∀ (provider : P) (key : String) (refusal : Refusal),
    (Provider.delete provider key).1.value = .error refusal → (Provider.delete provider key).2 = provider

/-- Items are signed as their content, as they are by default. -/
def SignsContent (P : Type) [Provider P] : Prop :=
  ∀ (provider : P) (key : String), Provider.signature provider key =
    (Provider.content provider key).map (Except.map Signature.of)

/-! ### Logs -/

inductive ProviderWrite where
  | insert (content : Bytes)
  | update (key : String) (content : Bytes)
  | delete (key : String)
  | deleteAll
  deriving DecidableEq

structure LogsWrites (log : P → List ProviderWrite) : Prop where
  insert : ∀ provider content,
    log (Provider.insert provider content).2 = log provider ++ [.insert content]
  update : ∀ provider key content,
    log (Provider.update provider key content).2 = log provider ++ [.update key content]
  delete : ∀ provider key, log (Provider.delete provider key).2 = log provider ++ [.delete key]
  deleteAll : ∀ provider, log (Provider.deleteAll provider).2 = log provider ++ [.deleteAll]

/-- Any provider, with a log of the calls that write it. -/
structure Logged (P : Type) where
  provider : P
  log : List ProviderWrite := []

namespace Logged

def add {α : Type} (logged : Logged P) (call : ProviderWrite) (reply : Reply α × P) :
    Reply α × Logged P :=
  (reply.1, { provider := reply.2, log := logged.log ++ [call] })

instance : Provider (Logged P) where
  keys logged := Provider.keys logged.provider
  content logged := Provider.content logged.provider
  signature logged := Provider.signature logged.provider
  confirmsDeletion logged := Provider.confirmsDeletion logged.provider
  insert logged content := logged.add (.insert content) (Provider.insert logged.provider content)
  update logged key content :=
    logged.add (.update key content) (Provider.update logged.provider key content)
  delete logged key := logged.add (.delete key) (Provider.delete logged.provider key)
  deleteAll logged := logged.add .deleteAll (Provider.deleteAll logged.provider)

theorem logsWrites : LogsWrites fun logged : Logged P => logged.log :=
  ⟨fun _ _ => rfl, fun _ _ _ => rfl, fun _ _ => rfl, fun _ => rfl⟩

theorem actsAsMap {holds : P → String → Prop} (acts : ActsAsMap holds) :
    ActsAsMap fun logged : Logged P => holds logged.provider where
  keys logged := acts.keys logged.provider
  insert_ok logged := acts.insert_ok logged.provider
  insert_error logged := acts.insert_error logged.provider
  update_ok logged := acts.update_ok logged.provider
  update_error logged := acts.update_error logged.provider
  delete_ok logged := acts.delete_ok logged.provider
  delete_error logged := acts.delete_error logged.provider

end Logged

end Reconcile
