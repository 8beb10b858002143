import Reconcile.Proofs.Provider.Memory
import Reconcile.Proofs.Source.Commit
import Reconcile.Proofs.Source.Operation
import Reconcile.Provider.Hooked

/-!
Items that came from the server, in the next sync. A written item is cached with the signature of
its content; the next scan compares that with the signature which the provider gives, so that the
item stays unchanged exactly when the provider signs its content in the same way.
-/

namespace Reconcile

variable {P : Type} [Provider P]

namespace SourceM

/-- A change of the server that the provider took: a new item under a key, or a replaced one. -/
inductive Writes (before written : Station P) (key : String) (content : Bytes) : Prop
  | added {serverId : String} {code : StatusCode}
      (ran : applyAdd serverId content before = .ok code written)
      (given : (Provider.insert before.source.provider content).1.value = .ok key)
  | replaced {code : StatusCode} (ran : applyReplace key content before = .ok code written)
      (done : (Provider.update before.source.provider key content).1.value = .ok ())

omit [Provider P] in
theorem guards_passed {α : Type} {station after : Station P} {name : String} {body : SourceM P α}
    {value : α} (ran : (do poll; requireRunning name; body : SourceM P α) station = .ok value after) :
    station.Calm ∧ station.source.report.standing ≠ .resting := by
  by_cases refused : ¬ station.Calm ∨ station.source.report.standing = .resting
  · obtain ⟨error, failed⟩ := guards_error refused name body
    rw [failed] at ran
    cases ran
  · obtain ⟨calm, begun⟩ := not_or.mp refused
    exact ⟨Decidable.not_not.mp calm, begun⟩

omit [Provider P] in
theorem syncs_of_ran {α : Type} {station after : Station P} {name : String} {body : SourceM P α}
    {value : α} (ran : (do poll; requireRunning name; body : SourceM P α) station = .ok value after)
    (needs : ∀ cause, station.source.cache = .error cause →
      ∃ error left, body station = .error error left) :
    ∃ cache, station.Syncs cache := by
  obtain ⟨calm, begun⟩ := guards_passed ran
  cases cached : station.source.cache with
  | ok cache => exact ⟨cache, calm, begun, cached⟩
  | error cause =>
    obtain ⟨error, left, failed⟩ := needs cause cached
    rw [bind_of_ok (poll_of_calm calm), bind_of_ok (requireRunning_ok begun _), failed] at ran
    cases ran

theorem syncs_of_applyAdd {before written : Station P} {serverId key : String} {content : Bytes}
    {code : StatusCode} (ran : applyAdd serverId content before = .ok code written)
    (given : (Provider.insert before.source.provider content).1.value = .ok key) :
    ∃ cache, before.Syncs cache := by
  refine syncs_of_ran ran fun cause missing => ?_
  rw [bind_of_ok (write_eq _ _), given]
  exact ⟨_, _, bind_of_error (updateCache_missing (before.written _) missing _) _⟩

theorem syncs_of_applyReplace {before written : Station P} {key : String} {content : Bytes}
    {code : StatusCode} (ran : applyReplace key content before = .ok code written)
    (done : (Provider.update before.source.provider key content).1.value = .ok ()) :
    ∃ cache, before.Syncs cache := by
  refine syncs_of_ran ran fun cause missing => ?_
  rw [bind_of_ok (write_eq _ _), done]
  exact ⟨_, _, bind_of_error (updateCache_missing (before.written _) missing _) _⟩

theorem Writes.holds {before written : Station P} {key : String} {content : Bytes}
    (writes : Writes before written key content) :
    Operation.Holds written key (.of content) := by
  cases writes with
  | added ran given =>
    obtain ⟨cache, syncs⟩ := syncs_of_applyAdd ran given
    obtain ⟨after, again, _, begun, ⟨next, cached, entries⟩, _⟩ := applyAdd_ok syncs _ content
    obtain rfl := (EStateM.Result.ok.inj (again.symm.trans ran)).2
    rw [given] at entries
    exact ⟨begun, next, cached, by rw [entries, Entries.lookup_place, if_pos rfl]⟩
  | replaced ran done =>
    obtain ⟨cache, syncs⟩ := syncs_of_applyReplace ran done
    obtain ⟨after, again, _, begun, ⟨next, cached, entries⟩, _⟩ :=
      applyReplace_ok syncs key content
    obtain rfl := (EStateM.Result.ok.inj (again.symm.trans ran)).2
    rw [done] at entries
    exact ⟨begun, next, cached, by rw [entries, Entries.lookup_place, if_pos rfl]⟩

theorem scanAnswers_signature_eq {provider : P} {key : String} {content : Bytes} :
    ((scanAnswers provider).signature key).value = .of content ↔
      (Provider.signature provider key).value = .ok (.of content) := by
  simp only [scanAnswers, Reply.map]
  cases (Provider.signature provider key).value with
  | error refusal => simp [Ne.symm (Signature.of_ne_empty content)]
  | ok signature => simp

/-- After a sync in which the server wrote an item that nothing touched any more, the next sync
finds the item neither new nor deleted; it is unchanged exactly when the provider signs it as the
written content is signed, and updated otherwise. -/
theorem unchanged_iff_signed {before written later : Station P} {key : String} {content : Bytes}
    (writes : Writes before written key content) {operations : List Operation}
    (spared : Operation.SpareAll key operations written)
    (committed : ∀ error left, Uncommitted error →
      finish (Operation.runAll operations written) ≠ .error error left)
    (follows : Follows (leaves finish (Operation.runAll operations written)) later)
    {replies : List (Reply String)}
    (enumerated : (Provider.keys later.source.provider).value = .ok replies)
    (listed : key ∈ replies.map Reply.value)
    (quiet : ∀ next, later.source.cache = .ok next →
      scanCancels later.source.provider replies next.snapshot = false)
    {mode : SyncMode} (keeping : mode ≠ .refreshFromServer) :
    ∃ changes, foundChanges mode later = some changes ∧
      key ∉ changes.added ∧ key ∉ changes.deleted ∧
      (key ∈ changes.unchanged ↔
        (Provider.signature later.source.provider key).value = .ok (.of content)) ∧
      (key ∈ changes.updated ↔
        (Provider.signature later.source.provider key).value ≠ .ok (.of content)) := by
  obtain ⟨begun, cache, cached, found⟩ := Operation.holds_run operations writes.holds spared
  have calm : (Operation.runAll operations written).Calm := by
    by_cases calm : (Operation.runAll operations written).Calm
    · exact calm
    · exact absurd (finish_stopped calm) (committed _ _ .cancelled)
  obtain ⟨after, left, made, _⟩ := finish_commits calm cached begun fun name cause left =>
    committed _ left (.commitFailed name cause)
  obtain ⟨next, held, entries⟩ := follows.cached left made
  have scanned := foundChanges_eq later held follows.closed follows.lowered enumerated
    (quiet next held) keeping
  have known : next.snapshot.lookup key = some (.of content) := by rw [entries, found]
  have present := ChangeScan.mem_present.mpr listed
  refine ⟨_, scanned, ?_, ?_, ?_, ?_⟩
  · rw [ChangeScan.mem_added, known]
    exact fun absent => nomatch absent.2
  · rw [ChangeScan.mem_deleted]
    exact fun gone => gone.2.1 present
  · rw [ChangeScan.mem_unchanged, known, Option.some.injEq, eq_comm, scanAnswers_signature_eq]
    exact and_iff_right present
  · rw [ChangeScan.mem_updated, known, ne_eq, ← scanAnswers_signature_eq]
    constructor
    · rintro ⟨_, cached, same, different⟩ signed
      obtain rfl := Option.some.inj same
      exact different signed.symm
    · exact fun different => ⟨present, _, rfl, fun same => different same.symm⟩

/-! ### An added item, signed as its content and otherwise -/

def receiving {Q : Type} [Provider Q] (provider : Q) : Station Q :=
  leaves (start .twoWay) (Source.make { name := "contact" } provider (.ok { backing := .memory {} }) {})

def given : Station MemoryProvider := leaves (applyAdd "server" [88]) (receiving {})

/-- What happens before the sync ends: a probe, and a verdict of another item. -/
def unrelated : List Operation := [.probe, .verdict .add { id := "other", code := StatusCode.ok }]

theorem insert_receiving :
    (Provider.insert (receiving ({} : MemoryProvider)).source.provider [88]).1.value =
      .ok "local-1" := by
  have empty : (receiving ({} : MemoryProvider)).source.provider = {} := by decide +kernel
  rw [empty]
  rfl

theorem finish_unrelated :
    succeeds finish (Operation.runAll unrelated given) = true ∧
      (leaves finish (Operation.runAll unrelated given)).source.report.standing ≠ .running ∧
      (leaves finish (Operation.runAll unrelated given)).source.flagShared = false ∧
      "local-1" ∈ (leaves finish (Operation.runAll unrelated given)).source.provider.handedOut.map
        Reply.value := by
  decide +kernel

theorem added_item_unchanged :
    Operation.SpareAll "local-1" unrelated given ∧
      ∃ changes,
        foundChanges .twoWay (leaves finish (Operation.runAll unrelated given)) = some changes ∧
        "local-1" ∉ changes.added ∧ "local-1" ∉ changes.deleted ∧
        ("local-1" ∈ changes.unchanged ↔
          (Provider.signature (leaves finish (Operation.runAll unrelated given)).source.provider
            "local-1").value = .ok (.of [88])) ∧
        ("local-1" ∈ changes.updated ↔
          (Provider.signature (leaves finish (Operation.runAll unrelated given)).source.provider
            "local-1").value ≠ .ok (.of [88])) := by
  have spared : Operation.SpareAll "local-1" unrelated given :=
    ⟨trivial, by simp [Operation.Spares], trivial⟩
  have success : succeeds (applyAdd "server" [88]) (receiving ({} : MemoryProvider)) = true := by
    decide +kernel
  obtain ⟨code, ran⟩ := ok_of_succeeds success
  have writes : Writes (receiving ({} : MemoryProvider)) given "local-1" [88] :=
    .added ran insert_receiving
  obtain ⟨ended, closed, unshared, listed⟩ := finish_unrelated
  have follows : Follows (leaves finish (Operation.runAll unrelated given))
      (leaves finish (Operation.runAll unrelated given)) :=
    ⟨.inl rfl, closed, fun shared => nomatch unshared.symm.trans shared⟩
  have keys := (leaves finish (Operation.runAll unrelated given)).source.provider.keys_eq
  have quiet := (leaves finish (Operation.runAll unrelated given)).source.provider.scanCancels_eq
  have committed : ∀ error left, Uncommitted error →
      finish (Operation.runAll unrelated given) ≠ .error error left :=
    fun _ _ _ => ne_error_of_succeeds ended
  have keeping : SyncMode.twoWay ≠ .refreshFromServer := by decide
  refine ⟨spared, unchanged_iff_signed writes spared committed follows keys listed ?_ keeping⟩
  exact fun _ _ => quiet _

/-- A provider with signatures of its own sends an added item back with the next sync, although
its content and signature are still what they were. -/
theorem added_item_sent_back :
    let provider : HookedProvider := { hooks := { signatures := [("local-1", ⟨"v7"⟩)] } }
    let written := leaves (applyAdd "server" [88]) (receiving provider)
    succeeds (applyAdd "server" [88]) (receiving provider) = true ∧
      succeeds finish written = true ∧
      (foundChanges .twoWay (leaves finish written)).map ChangeSet.updated = some ["local-1"] := by
  decide +kernel

end SourceM

end Reconcile
