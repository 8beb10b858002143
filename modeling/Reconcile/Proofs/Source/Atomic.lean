import Reconcile.Proofs.Provider.Memory
import Reconcile.Proofs.Source.Operation

/-!
What changes of the server leave where they fail or are refused. A change that is stopped, or comes
outside a sync, leaves everything as it was, and one that the provider refuses is in the report only.
A source without a cache writes its provider before it fails.
-/

namespace Reconcile

variable {P : Type}

def writeOutcome {β : Type} (written : Reply (Except Refusal β) × P) : Except Refusal Unit × P :=
  (written.1.value.map fun _ => (), written.2)

theorem isOk_writeOutcome {β : Type} {written : Reply (Except Refusal β) × P} {value : β}
    (done : written.1.value = .ok value) : (writeOutcome written).1.isOk = true := by
  rw [writeOutcome, done]
  rfl

theorem refusal_of_writeOutcome {β : Type} {written : Reply (Except Refusal β) × P}
    (refused : (writeOutcome written).1.isOk = false) : ∃ refusal, written.1.value = .error refusal := by
  cases done : written.1.value with
  | error refusal => exact ⟨refusal, rfl⟩
  | ok value =>
    rw [isOk_writeOutcome done] at refused
    cases refused

def Operation.write? [Provider P] : Operation → Option (P → Except Refusal Unit × P)
  | add _ content => some fun provider => writeOutcome (Provider.insert provider content)
  | replace key content => some fun provider => writeOutcome (Provider.update provider key content)
  | delete key => some fun provider => writeOutcome (Provider.delete provider key)
  | _ => none

theorem RefusesWhole.provider_eq [Provider P] (whole : RefusesWhole P) {operation : Operation}
    {write : P → Except Refusal Unit × P} (brings : operation.write? = some write) {provider : P}
    (refused : (write provider).1.isOk = false) : (write provider).2 = provider := by
  cases operation with
  | add serverId content =>
    obtain rfl := Option.some.inj brings
    obtain ⟨refusal, error⟩ := refusal_of_writeOutcome refused
    exact whole.insert provider content refusal error
  | replace key content =>
    obtain rfl := Option.some.inj brings
    obtain ⟨refusal, error⟩ := refusal_of_writeOutcome refused
    exact whole.update provider key content refusal error
  | delete key =>
    obtain rfl := Option.some.inj brings
    obtain ⟨refusal, error⟩ := refusal_of_writeOutcome refused
    exact whole.delete provider key refusal error
  | _ => cases brings

/-! ### Past the checks -/

/-- How a change of the server ends that got past the checks: it is done, and a cache follows it; or
the provider refused it, and only the report tells; or there is no cache to follow what the provider
did. -/
inductive Lands {α : Type} (station : Station P) (written : Except Refusal Unit × P) :
    Except SyncFailure α → Station P → Prop
  | done {code : α} {left : Station P} (accepted : written.1.isOk = true)
      (cached : station.source.cache.isOk = true) : Lands station written (.ok code) left
  | refused {code : α} {left : Station P} (refused : written.1.isOk = false)
      (source : left.source =
        { station.source with provider := written.2, report := left.source.report })
      (disk : left.host.disk = station.host.disk) : Lands station written (.ok code) left
  | uncached {error : SyncFailure} {left : Station P} (accepted : written.1.isOk = true)
      (missing : station.source.cache.isOk = false)
      (source : left.source = { station.source with provider := written.2 })
      (disk : left.host.disk = station.host.disk) : Lands station written (.error error) left

namespace SourceM

variable {station : Station P}

theorem lands_refused {β : Type} {written : Reply (Except Refusal β) × P} {error : Refusal}
    (refused : written.1.value = .error error) (command : Command) (asked : String) :
    Ends (do
      let code ← refusal error
      record .client command { id := asked, code }
      return code) (station.written written) (Lands station (writeOutcome written)) := by
  have stays : Stays (P := P) [.report] (refusal error) := stays_refusal (by simp) error
  obtain ⟨left, ran, source⟩ := @refusal_ok P β (station.written written) error
  have records : Stays (P := P) [.report]
      (record .client command { id := asked, code := refusalCode error }) :=
    stays_record (by simp) _ _ _
  have within := (stays.within ran).trans (records.within (record_eq _ _ _ left))
  refine Ends.after_ok ran (Ends.after_ok (record_eq _ _ _ left) (.of_ok rfl (.refused ?_ ?_ ?_)))
  · rw [writeOutcome, refused]
    rfl
  · rw [Station.source_recorded, source]
    rfl
  · exact (within.disk (by simp)).trans ((Station.within_heard _ _).disk (by simp))

theorem lands_uncached {β : Type} {written : Reply (Except Refusal β) × P} {value : β}
    {cause : StoreError} (done : written.1.value = .ok value)
    (missing : station.source.cache = .error cause) (follow : SignatureCache → SignatureCache)
    (rest : Unit → SourceM P StatusCode) :
    Ends (updateCache follow >>= rest) (station.written written)
      (Lands station (writeOutcome written)) := by
  have failed := updateCache_missing (station.written written) missing follow
  refine Ends.of_error (bind_of_error failed rest) (.uncached (isOk_writeOutcome done) ?_ rfl ?_)
  · rw [missing]
    rfl
  · exact (Station.within_heard _ _).disk (by simp)

theorem lands_changeItem (calm : station.Calm) (begun : station.source.report.standing ≠ .resting)
    (operation : String) (command : Command) (key : String)
    (action : P → Reply (Except Refusal Unit) × P) (follow : SignatureCache → SignatureCache) :
    Ends (changeItem operation command key action follow) station
      (Lands station (writeOutcome (action station.source.provider))) := by
  refine Ends.after_ok (poll_of_calm calm) (Ends.after_ok (requireRunning_ok begun _)
    (Ends.after_ok (write_eq _ _) ?_))
  cases done : (action station.source.provider).1.value with
  | error error => exact lands_refused done command key
  | ok _ =>
    cases cached : station.source.cache with
    | error cause => exact lands_uncached done cached follow _
    | ok cache =>
      have followed := updateCache_ok (station.written (action station.source.provider)) cached follow
      refine Ends.after_ok followed (Ends.after_ok (source_eq _) (Ends.after_ok (pure_eq _ _)
        (Ends.after_ok (record_eq _ _ _ _) (.of_ok rfl (.done (isOk_writeOutcome done) ?_)))))
      rw [cached]
      rfl

theorem lands_applyAdd [Provider P] (calm : station.Calm)
    (begun : station.source.report.standing ≠ .resting) (serverId : String) (content : Bytes) :
    Ends (applyAdd serverId content) station
      (Lands station (writeOutcome (Provider.insert station.source.provider content))) := by
  refine Ends.after_ok (poll_of_calm calm) (Ends.after_ok (requireRunning_ok begun _)
    (Ends.after_ok (write_eq _ _) ?_))
  cases done : (Provider.insert station.source.provider content).1.value with
  | error error => exact lands_refused done .add serverId
  | ok key =>
    cases cached : station.source.cache with
    | error cause => exact lands_uncached done cached _ _
    | ok cache =>
      have put := updateCache_ok (station.written (Provider.insert station.source.provider content))
        cached fun cache => cache.put key (.of content)
      refine Ends.after_ok put (Ends.after_ok (source_eq _)
        (Ends.after_ok (record_eq _ _ _ _) (.of_ok rfl (.done (isOk_writeOutcome done) ?_))))
      rw [cached]
      rfl

theorem lands_discard {α : Type} {change : SourceM P α} {written : Except Refusal Unit × P}
    (lands : Ends change station (Lands station written)) :
    Ends (discard change) station (Lands station written) := by
  cases ran : change station with
  | ok code left =>
    rw [Ends, yields_of_ok ran, leaves_of_ok ran] at lands
    refine .of_ok (discard_of_ok ran) ?_
    cases lands with
    | done accepted cached => exact .done accepted cached
    | refused refused source disk => exact .refused refused source disk
  | error error left =>
    rw [Ends, yields_of_error ran, leaves_of_error ran] at lands
    refine .of_error (discard_of_error ran) ?_
    cases lands with
    | uncached accepted missing source disk => exact .uncached accepted missing source disk

end SourceM

/-! ### Every change of the server -/

namespace Operation

variable [Provider P] {station : Station P} {operation : Operation}
  {write : P → Except Refusal Unit × P}

theorem act_guarded (brings : operation.write? = some write)
    (refused : ¬ station.Calm ∨ station.source.report.standing = .resting) :
    ∃ error, operation.act station = .error error station := by
  have guards : ∀ (name : String) (body : SourceM P StatusCode), ∃ error,
      (discard (do SourceM.poll; SourceM.requireRunning name; body) : SourceM P Unit) station =
        .error error station := by
    intro name body
    obtain ⟨error, failed⟩ := SourceM.guards_error refused name body
    exact ⟨error, SourceM.discard_of_error failed⟩
  cases operation with
  | add serverId content => exact guards _ _
  | replace key content => exact guards _ _
  | delete key => exact guards _ _
  | _ => cases brings

theorem lands_act (brings : operation.write? = some write) (calm : station.Calm)
    (begun : station.source.report.standing ≠ .resting) :
    Ends operation.act station (Lands station (write station.source.provider)) := by
  cases operation with
  | add serverId content =>
    obtain rfl := Option.some.inj brings
    exact SourceM.lands_discard (SourceM.lands_applyAdd calm begun serverId content)
  | replace key content =>
    obtain rfl := Option.some.inj brings
    exact SourceM.lands_discard (SourceM.lands_changeItem calm begun _ _ _ _ _)
  | delete key =>
    obtain rfl := Option.some.inj brings
    exact SourceM.lands_discard (SourceM.lands_changeItem calm begun _ _ _ _ _)
  | _ => cases brings

end Operation

namespace SourceM

variable [Provider P] {operation : Operation} {write : P → Except Refusal Unit × P}

/-- A change of the server fails if it is stopped, or comes outside a sync, or if there is no cache to
follow what the provider did. In the first two cases everything is as it was; in the last one the
provider has done what it was asked for, and only the rest is as it was. A change that succeeds
although the provider refused it is in the report only. -/
theorem failed_change_spares (whole : RefusesWhole P) (brings : operation.write? = some write)
    (station : Station P) :
    let after := leaves operation.act station
    let written := write station.source.provider
    let guarded := ¬ station.Calm ∨ station.source.report.standing = .resting
    let uncached := station.source.cache.isOk = false ∧ written.1.isOk = true
    (succeeds operation.act station = false ↔ guarded ∨ uncached) ∧
    (guarded → after = station) ∧
    (¬ guarded → uncached → after.source = { station.source with provider := written.2 } ∧
      after.host.disk = station.host.disk) ∧
    (succeeds operation.act station = true → written.1.isOk = false →
      after.source = { station.source with report := after.source.report } ∧
        after.host.disk = station.host.disk) := by
  intro after written guarded uncached
  by_cases guards : guarded
  · obtain ⟨error, failed⟩ := Operation.act_guarded brings guards
    have fails : succeeds operation.act station = false := by rw [succeeds, failed]
    refine ⟨iff_of_true fails (.inl guards), fun _ => leaves_of_error failed, ?_, ?_⟩
    · exact fun passed => absurd guards passed
    · intro success
      rw [fails] at success
      cases success
  · obtain ⟨calm, begun⟩ := not_or.mp guards
    have lands := Operation.lands_act brings (Decidable.not_not.mp calm) begun
    cases ran : operation.act station with
    | ok _ left =>
      have works : succeeds operation.act station = true := by rw [succeeds, ran]
      have left_eq : after = left := leaves_of_ok ran
      rw [Ends, yields_of_ok ran, leaves_of_ok ran] at lands
      have kept : ¬ uncached ∧ (written.1.isOk = false →
          left.source = { station.source with report := left.source.report } ∧
            left.host.disk = station.host.disk) := by
        cases lands with
        | done accepted cached =>
          refine ⟨fun missing => Bool.false_ne_true (missing.1.symm.trans cached), fun refused => ?_⟩
          exact absurd (refused.symm.trans accepted) Bool.false_ne_true
        | refused refused source disk =>
          rw [whole.provider_eq brings refused] at source
          exact ⟨fun missing => Bool.false_ne_true (refused.symm.trans missing.2),
            fun _ => ⟨source, disk⟩⟩
      rw [works, left_eq]
      exact ⟨iff_of_false Bool.true_eq_false.mp (not_or.mpr ⟨guards, kept.1⟩),
        fun passed => absurd passed guards, fun _ missing => absurd missing kept.1, fun _ => kept.2⟩
    | error error left =>
      have fails : succeeds operation.act station = false := by rw [succeeds, ran]
      have left_eq : after = left := leaves_of_error ran
      rw [Ends, yields_of_error ran, leaves_of_error ran] at lands
      rw [fails, left_eq]
      cases lands with
      | uncached accepted missing source disk =>
        refine ⟨iff_of_true rfl (.inr ⟨missing, accepted⟩), fun passed => absurd passed guards,
          fun _ _ => ⟨source, disk⟩, ?_⟩
        intro success
        cases success

/-! ### A source whose cache cannot be opened -/

def unopened (provider : MemoryProvider) : Station MemoryProvider :=
  leaves (start .twoWay) (Source.make { name := "a/b" } provider (.error (.invalidName "a/b")) {})

/-- A write that the provider refuses is in the report only, also where there is no cache. -/
theorem refused_add_in_report :
    let given := unopened { full := true }
    let after := leaves (Operation.add "server" [88]).act given
    succeeds (Operation.add "server" [88]).act given = true ∧
      after.source = { given.source with report := after.source.report } ∧
      after.host.disk = given.host.disk := by
  intro given after
  have works : succeeds (Operation.add "server" [88]).act given = true := by decide +kernel
  obtain ⟨-, -, -, refused⟩ := failed_change_spares MemoryProvider.refusesWhole
    (show (Operation.add "server" [88]).write? = some _ from rfl) given
  exact ⟨works, refused works (by decide +kernel)⟩

/-- An item is added although the operation fails, since there is no cache to follow. -/
theorem failed_add_keeps_item :
    let given := unopened {}
    RefusesWhole MemoryProvider ∧
      succeeds (Operation.add "server" [88]).act given = false ∧
      given.source.provider.items = [] ∧
      (leaves (Operation.add "server" [88]).act given).source.provider.items = [("local-1", [88])] := by
  refine ⟨MemoryProvider.refusesWhole, ?_, ?_, ?_⟩
  · decide +kernel
  · decide +kernel
  · decide +kernel

end SourceM

end Reconcile
