import Reconcile.Provider.Memory
import Reconcile.Proofs.Source.Commit
import Reconcile.Proofs.Source.Elementary

/-!
The bracket of a sync. A begin that succeeds opens it and an end closes it, but a source only knows
its standing. The two agree as long as no error was recorded; from then on, and until the next begin,
a source passes for one in an open sync, whether the bracket was closed since or not.
-/

namespace Reconcile

variable {P : Type}

/-- A source that stands as its last error and its bracket say. -/
def Station.Stands (station : Station P) (isOpen : Bool) : Prop :=
  station.source.report.standing =
    if station.source.report.fault.isSome then .failed else if isOpen then .running else .resting

/-- How the report of an open sync moves on: its standing and its last error stay, or an error is
recorded. -/
def FailsAtMost (before after : Station P) : Prop :=
  (after.source.report.standing = before.source.report.standing ∧
    after.source.report.fault = before.source.report.fault) ∨
  (after.source.report.standing = .failed ∧ after.source.report.fault.isSome = true)

namespace FailsAtMost

theorem of_report {before after : Station P} (same : after.source.report = before.source.report) :
    FailsAtMost before after := .inl (by rw [same]; exact ⟨rfl, rfl⟩)

theorem onward : Onward (FailsAtMost (P := P)) where
  refl _ := of_report rfl
  trans first second := by
    rcases second with ⟨standing, fault⟩ | failed
    · rwa [FailsAtMost, standing, fault]
    · exact .inr failed

theorem elementary : Elementary (FailsAtMost (P := P)) where
  toOnward := onward
  aside within := of_report (within.report (by simp))
  updated _ _ := of_report rfl
  recorded station side command verdict := by
    refine .inl ?_
    rw [Station.source_recorded]
    exact ⟨SourceReport.standing_record .., SourceReport.fault_record ..⟩
  failed _ _ := .inr ⟨rfl, rfl⟩

theorem of_stays {parts : List Part} {α : Type} {operation : SourceM P α}
    (stays : Stays parts operation) (silent : .report ∉ parts) : Keeps FailsAtMost operation :=
  fun station => of_report ((stays station).report silent)

theorem stands {before after : Station P} {isOpen : Bool} (moved : FailsAtMost before after)
    (stands : before.Stands isOpen) : after.Stands isOpen := by
  rcases moved with ⟨standing, fault⟩ | ⟨standing, fault⟩
  · rwa [Station.Stands, standing, fault]
  · rw [Station.Stands, standing, fault, if_pos rfl]

end FailsAtMost

theorem Station.Stands.resting_iff {station : Station P} {isOpen : Bool}
    (stands : station.Stands isOpen) : station.source.report.standing = .resting ↔
      isOpen = false ∧ station.source.report.fault = none := by
  rw [stands]
  cases station.source.report.fault <;> cases isOpen <;> simp

theorem Station.Stands.running_iff {station : Station P} {isOpen : Bool}
    (stands : station.Stands isOpen) : station.source.report.standing = .running ↔
      isOpen = true ∧ station.source.report.fault = none := by
  rw [stands]
  cases station.source.report.fault <;> cases isOpen <;> simp

theorem Station.Stands.shut {station : Station P} {isOpen : Bool} (stands : station.Stands isOpen)
    (rests : station.source.report.standing ≠ .running) : station.Stands false := by
  rw [Stands] at stands ⊢
  cases fault : station.source.report.fault with
  | some error => simpa [fault] using stands
  | none =>
    cases isOpen with
    | false => simpa [fault] using stands
    | true => exact absurd (by simpa [fault] using stands) rests

/-! ### The two ends of a sync -/

namespace SourceM

theorem failsAtMost_commitOrFail (cache : SignatureCache) :
    Keeps FailsAtMost (commitOrFail cache : SourceM P Unit) := by
  have commits : Stays (P := P) [.cache, .disk] (commit cache) := stays_commit (by simp) (by simp) cache
  exact FailsAtMost.elementary.keeps_commitOrFail (FailsAtMost.of_stays commits (by simp))

theorem stands_settled {station : Station P} {isOpen : Bool} (stands : station.Stands isOpen) :
    (settled station).Stands false := by
  rw [Station.Stands, fault_settled, settled]
  rw [Station.Stands] at stands
  dsimp only
  cases fault : station.source.report.fault with
  | some error => simp [stands, fault]
  | none => cases isOpen <;> simp [stands, fault]

theorem standing_of_refusal {station left : Station P} {cache : SignatureCache} {error : SyncFailure}
    (failed : commitOrFail cache station = .error error left) :
    left.source.report.standing ≠ .running := by
  cases made : cache.commit station.host.disk with
  | mk outcome rest =>
    obtain ⟨after, disk⟩ := rest
    cases outcome with
    | ok _ =>
      rw [commitOrFail_ok station made] at failed
      cases failed
    | error cause =>
      obtain ⟨last, refused, _, reported, _⟩ := commitOrFail_error station made
      rw [refused] at failed
      cases failed
      rw [reported]
      exact nofun

theorem stands_finish {station : Station P} {isOpen : Bool} (stands : station.Stands isOpen) :
    (leaves finish station).Stands false := by
  have concludes : ∀ (name : String) {left : Station P}, left.Stands isOpen →
      (leaves (conclude name) left).Stands false := by
    intro name left stands
    have settles : leaves (conclude name) left = settled left := by
      rw [leaves, conclude_eq]
      cases left.source.report.fault <;> rfl
    rw [settles]
    exact stands_settled stands
  by_cases calm : station.Calm
  · have shut : (unstreamed station).Stands isOpen := stands
    cases cached : station.source.cache with
    | error cause =>
      simp only [leaves, finish_calm calm, closeCalmly, cached]
      exact concludes _ shut
    | ok cache =>
      by_cases active : station.source.report.standing ≠ .resting
      · have moved := failsAtMost_commitOrFail cache (unstreamed station)
        rw [leaves, finish_active calm cached active, ← leaves]
        cases ran : commitOrFail cache (unstreamed station) with
        | ok value left =>
          rw [leaves_of_ok ran] at moved
          rw [leaves_bind_of_ok ran]
          exact concludes _ (moved.stands shut)
        | error error left =>
          rw [leaves_of_error ran] at moved
          rw [leaves_of_error (bind_of_error ran _)]
          exact (moved.stands shut).shut (standing_of_refusal ran)
      · simp only [leaves, finish_calm calm, closeCalmly, cached, if_neg active]
        exact concludes _ shut
  · rw [leaves_of_error (finish_stopped calm)]
    exact stands_settled stands

variable [Provider P]

/-- A begin that goes past its own check opens the bracket if it succeeds, and closes it if not. -/
theorem stands_start {station : Station P} (closed : station.source.report.standing ≠ .running)
    (mode : SyncMode) :
    (leaves (start mode) station).Stands (succeeds (start mode) station) := by
  cases cached : station.source.cache with
  | error cause =>
    rw [leaves_of_error (start_uncached cached closed mode)]
    rfl
  | ok cache =>
    have held : (station.opened mode).source.cache = .ok cache := cached
    rw [leaves, succeeds, start_eq cached closed]
    by_cases refreshes : mode = .refreshFromServer
    · rw [if_pos refreshes]
      cases made : cache.clear.commit (station.opened mode).host.disk with
      | mk outcome rest =>
        obtain ⟨committed, disk⟩ := rest
        cases outcome with
        | error cause =>
          obtain ⟨left, refused, _, reported, _⟩ := wipe_of_refusal held made
          rw [bind_of_error refused, Station.Stands, reported]
          rfl
        | ok _ =>
          have wiped := wipe_of_commit held made
          cases deleted : (Provider.deleteAll (station.opened mode).source.provider).1.value with
          | ok _ =>
            rw [deleted, expect_ok] at wiped
            rw [bind_of_ok wiped]
            rfl
          | error refusal =>
            rw [deleted, expect_error] at wiped
            rw [bind_of_error wiped]
            rfl
    · rw [if_neg refreshes]
      rfl

end SourceM

/-! ### Runs of operations -/

/-- The bracket after an operation. A begin that the standing does not refuse starts over. -/
def Operation.bracket [Provider P] (operation : Operation) (station : Station P) (isOpen : Bool) :
    Bool :=
  match operation with
  | start mode =>
    if station.source.report.standing = .running then isOpen else succeeds (SourceM.start mode) station
  | finish => false
  | _ => isOpen

theorem Operation.stands_act [Provider P] {station : Station P} {isOpen : Bool}
    (operation : Operation) (stands : station.Stands isOpen) :
    (leaves operation.act station).Stands (operation.bracket station isOpen) := by
  have between : (∀ mode, operation ≠ .start mode) → operation ≠ .finish →
      (leaves operation.act station).Stands isOpen := fun begins ends =>
    (FailsAtMost.elementary.keeps_act begins ends station).stands stands
  cases operation with
  | start mode =>
    rw [act, bracket]
    split
    · rename_i running
      rwa [leaves_of_error (SourceM.start_running running mode)]
    · rename_i closed
      exact SourceM.stands_start closed mode
  | finish => exact SourceM.stands_finish stands
  | _ => exact between (fun _ same => by cases same) fun same => by cases same

/-- The stations that any use of a source leads to, with the bracket of the last sync that was
begun. Besides its operations there are transfers to be recorded, and its owner may do anything to
it and its host, but for the report. -/
inductive Reached [Provider P] : Bool → Station P → Prop
  | made (config : SourceSettings) (provider : P) (cache : Except StoreError SignatureCache)
      (host : Host) : Reached false (Source.make config provider cache host)
  | acted {isOpen : Bool} {station : Station P} (operation : Operation)
      (reached : Reached isOpen station) :
      Reached (operation.bracket station isOpen) (leaves operation.act station)
  | transferred {isOpen : Bool} {station : Station P} (side : Side) (command : Command) (key : String)
      (reached : Reached isOpen station) :
      Reached isOpen (leaves (SourceM.recordTransfer side command key) station)
  | handled {isOpen : Bool} {before after : Station P} (reached : Reached isOpen before)
      (report : after.source.report = before.source.report) : Reached isOpen after

theorem Reached.stands [Provider P] {station : Station P} {isOpen : Bool}
    (reached : Reached isOpen station) : station.Stands isOpen := by
  induction reached with
  | made config provider cache host => rfl
  | acted operation _ ih => exact operation.stands_act ih
  | transferred side command key _ ih =>
    exact (FailsAtMost.elementary.keeps_recordTransfer side command key _).stands ih
  | handled _ report ih => exact (FailsAtMost.of_report report).stands ih

def Operation.isGuarded : Operation → Bool
  | first _ | next (.bucket _) | verdict .. | add .. | replace .. | delete _ => true
  | start _ | next .full | probe | finish => false

theorem Operation.act_resting [Provider P] {station : Station P} {operation : Operation}
    (guarded : operation.isGuarded = true) (resting : station.source.report.standing = .resting) :
    ∃ error, operation.act station = .error error station := by
  have unscanned : SourceM.scanOnce station = .error _ station :=
    bind_of_error (SourceM.requireRunning_resting resting _) _
  cases operation with
  | start mode => cases guarded
  | probe => cases guarded
  | finish => cases guarded
  | first stream =>
    cases stream with
    | full =>
      exact ⟨_, SourceM.discard_of_error
        (bind_of_error (SourceM.requireRunning_resting resting "first_item") _)⟩
    | bucket bucket => exact ⟨_, SourceM.discard_of_error (bind_of_error unscanned _)⟩
  | next stream =>
    cases stream with
    | full => cases guarded
    | bucket bucket => exact ⟨_, SourceM.discard_of_error (bind_of_error unscanned _)⟩
  | verdict command answer => exact SourceM.guards_error (.inr resting) _ _
  | add serverId content =>
    obtain ⟨error, refused⟩ := SourceM.guards_error (.inr resting) _ _
    exact ⟨error, SourceM.discard_of_error refused⟩
  | replace key content =>
    obtain ⟨error, refused⟩ := SourceM.guards_error (.inr resting) _ _
    exact ⟨error, SourceM.discard_of_error refused⟩
  | delete key =>
    obtain ⟨error, refused⟩ := SourceM.guards_error (.inr resting) _ _
    exact ⟨error, SourceM.discard_of_error refused⟩

/-- The check for an open sync passes exactly while the bracket is open or an error of the last sync
is on record. With neither, every operation that makes the check fails and changes nothing. A begin
is rejected, and changes nothing, while the bracket is open and no error is on record; every other
begin starts over. -/
theorem SourceM.session_bracket [Provider P] {station : Station P} {isOpen : Bool}
    (reached : Reached isOpen station) :
    (∀ name, succeeds (requireRunning name) station =
      (isOpen || station.source.report.fault.isSome)) ∧
    (isOpen = false → station.source.report.fault = none →
      ∀ operation : Operation, operation.isGuarded = true →
        ∃ error, operation.act station = .error error station) ∧
    (isOpen = true → station.source.report.fault = none → ∀ mode, start mode station =
      .error (.invalidTransition Standing.running.name "begin_sync") station) ∧
    (isOpen = false ∨ station.source.report.fault.isSome = true →
      ∀ mode cache, station.source.cache = .ok cache → mode ≠ .refreshFromServer →
        start mode station = .ok () (station.begun mode)) := by
  have stands := reached.stands
  refine ⟨fun name => ?_, fun shut clear operation guarded => ?_, fun opened clear => ?_,
    fun either mode cache cached keeping => ?_⟩
  · by_cases resting : station.source.report.standing = .resting
    · obtain ⟨shut, clear⟩ := stands.resting_iff.mp resting
      rw [succeeds, requireRunning_resting resting, shut, clear]
      rfl
    · rw [succeeds, requireRunning_ok resting]
      rw [stands.resting_iff, not_and] at resting
      cases isOpen with
      | true => rfl
      | false => exact (Option.isSome_iff_ne_none.mpr (resting rfl)).symm
  · exact Operation.act_resting guarded (stands.resting_iff.mpr ⟨shut, clear⟩)
  · exact start_running (stands.running_iff.mpr ⟨opened, clear⟩)
  · refine start_ok cached (fun running => ?_) keeping
    obtain ⟨opened, clear⟩ := stands.running_iff.mp running
    rcases either with shut | failed
    · exact Bool.false_ne_true (shut.symm.trans opened)
    · rw [clear] at failed
      cases failed

/-! ### A sync that is ended after an error -/

namespace SourceM

def bare : Station MemoryProvider :=
  Source.make { name := "contact" } {} (.ok { backing := .memory {} }) {}

def bareBegun : Station MemoryProvider := leaves (Operation.start .twoWay).act bare

def bareFull : Station MemoryProvider :=
  leaves (Operation.verdict .add { id := "a", code := StatusCode.deviceFull }).act bareBegun

def bareEnded : Station MemoryProvider := leaves Operation.finish.act bareFull

theorem reached_bare : Reached false bare := .made _ _ _ _

theorem reached_bareBegun : Reached true bareBegun := .acted (.start .twoWay) reached_bare

theorem reached_bareFull : Reached true bareFull := .acted (.verdict _ _) reached_bareBegun

theorem reached_bareEnded : Reached false bareEnded := .acted .finish reached_bareFull

theorem bracket_of_bare :
    (∃ error, (Operation.add "server" []).act bare = .error error bare) ∧
      start .twoWay bare = .ok () (bare.begun .twoWay) ∧
      start .slow bareBegun =
        .error (.invalidTransition Standing.running.name "begin_sync") bareBegun ∧
      succeeds (requireRunning "add_item") bareEnded = true := by
  have full : bareEnded.source.report.fault.isSome = true := by decide +kernel
  have clear : bareBegun.source.report.fault = none := by decide +kernel
  refine ⟨(session_bracket reached_bare).2.1 rfl rfl _ rfl, ?_, ?_, ?_⟩
  · exact (session_bracket reached_bare).2.2.2 (.inl rfl) .twoWay _ rfl nofun
  · exact (session_bracket reached_bareBegun).2.2.1 rfl clear .slow
  · rw [(session_bracket reached_bareEnded).1, full, Bool.or_true]

/-- After its end, a sync in which the server ran out of storage still takes an item of the server;
and before its end, another sync is begun within it. -/
theorem ended_sync_takes_add :
    Reached false bareEnded ∧ Reached true bareFull ∧
      (yields (applyAdd "server" []) bareEnded).toOption = some StatusCode.added ∧
      bareEnded.source.provider.items = [] ∧
      (leaves (applyAdd "server" []) bareEnded).source.provider.items = [("local-1", [])] ∧
      succeeds (start .twoWay) bareFull = true := by
  refine ⟨reached_bareEnded, reached_bareFull, ?_, ?_, ?_, ?_⟩
  · decide +kernel
  · decide +kernel
  · decide +kernel
  · decide +kernel

end SourceM

end Reconcile
