import Reconcile.Proofs.Change.Probe
import Reconcile.Proofs.Session.Interrupted
import Reconcile.Proofs.Session.Order

/-!
Sources that were found unmodified. Where the probe of a source answers that nothing changed, a sync
of its changes makes no call that sends an item, whatever else becomes of it.
-/

namespace Reconcile

variable {P L : Type} [Provider P]

/-- A provider that hands out the same keys as another one, with the same signatures. The two may
differ in the deletions that they confirm. -/
structure SameItems (provider other : P) : Prop where
  keys : (Provider.keys other).value = (Provider.keys provider).value
  signatures : ∀ key, (Provider.signature other key).value = (Provider.signature provider key).value

theorem SameItems.scanned {provider other : P} (same : SameItems provider other) (key : String) :
    ((SourceM.scanAnswers other).signature key).value =
      ((SourceM.scanAnswers provider).signature key).value := by
  simp only [SourceM.scanAnswers, Reply.map, same.signatures key]

namespace SourceM

variable {station left : Station P} {cache : SignatureCache} {replies : List (Reply String)}

theorem isModified_of_probe (cached : station.source.cache = .ok cache)
    (enumerated : (Provider.keys station.source.provider).value = .ok replies) {answer : Bool}
    (answered : isModified station = .ok answer left) :
    ∃ host ended, ChangeScan.probe (scanContext station.source true) replies cache.snapshot host =
      (some answer, ended) := by
  rw [isModified, bind_of_ok (cache_ok cached), bind_of_ok (source_eq _), bind_of_ok (hear_eq _ _),
    enumerated, bind_of_ok (expect_ok _), bind_of_ok (source_eq _), bind_of_ok (get_eq _)] at answered
  dsimp only at answered
  generalize (if (Provider.keys station.source.provider).cancels then
    station.host.raise station.source.flag else station.host) = host at answered
  refine ⟨host, ?_⟩
  cases probed : ChangeScan.probe (scanContext station.source true) replies cache.snapshot host with
  | mk found ended =>
    rw [probed] at answered
    cases found with
    | none => cases answered
    | some told =>
      obtain ⟨rfl, -⟩ := EStateM.Result.ok.inj answered
      exact ⟨ended, rfl⟩

theorem unchanged_of_isModified (answered : isModified station = .ok false left) :
    ∃ cache replies, station.source.cache = .ok cache ∧
      (Provider.keys station.source.provider).value = .ok replies ∧
      ChangeScan.Unchanged (scanAnswers station.source.provider) replies cache.snapshot := by
  cases cached : station.source.cache with
  | error cause =>
    rw [isModified, bind_of_error (cache_missing cached)] at answered
    cases answered
  | ok cache =>
    cases enumerated : (Provider.keys station.source.provider).value with
    | error refusal =>
      rw [isModified, bind_of_ok (cache_ok cached), bind_of_ok (source_eq _), bind_of_ok (hear_eq _ _),
        enumerated, bind_of_error (expect_error _ _)] at answered
      cases answered
    | ok replies =>
      obtain ⟨host, ended, probed⟩ := isModified_of_probe cached enumerated answered
      exact ⟨cache, replies, rfl, rfl, (ChangeScan.unchanged_of_probe (gives_scanContext _ true)
        cache.nodup_snapshot probed).mp rfl⟩

end SourceM

namespace Session

variable [ServerLink L] {session : Session} {mode : Option SyncMode} {exchange : Exchange P L}
  {opened : Station P} {cache : SignatureCache} {replies : List (Reply String)}

theorem transcript_of_unopened (unopened : ∀ opened, ¬ Opens session mode exchange opened) :
    session.transcript mode exchange = [] := by
  rw [transcript]
  cases enabled : exchange.recorded.station.source.config.enabled with
  | false =>
    rw [sync_disabled enabled]
    rfl
  | true =>
    cases lowered : exchange.recorded.station.host.isRaised session.flag with
    | true =>
      rw [sync_raised lowered enabled]
      rfl
    | false =>
      cases begins : SourceM.start (exchange.recorded.station.source.modeFor mode)
          (exchange.recorded.station.sharing session.flag) with
      | ok value opened => exact absurd ⟨enabled, lowered, begins⟩ (unopened opened)
      | error error station =>
        rw [sync_of_refusal enabled lowered begins]
        rfl

theorem Opens.unsent_of_silent (opens : Opens session mode exchange opened)
    (silent : (exchange.station.source.modeFor mode).sends = false) :
    sentItems (uploadSteps (session.transcript mode exchange)) = [] := by
  obtain ⟨cache, cached⟩ := opens.cached
  obtain ⟨_, ran⟩ := opens.ran
  have unsent : (beginning exchange opened).sent <+: [] := List.prefix_refl []
  have ends : Ends (ExchangeM.exchange (exchange.station.source.modeFor mode))
      (beginning exchange opened) fun outcome left => ∃ taken, Account (beginning exchange opened) left
        [] outcome cache.snapshot [] taken := by
    rw [ExchangeM.exchange_of_silent silent]
    exact ExchangeM.account_afterUpload (opens.underway cached).posts unsent
  obtain ⟨taken, account⟩ := ends
  rw [← ran.events]
  exact List.prefix_nil.mp account.sent

theorem unsent_of_unchanged (cached : exchange.station.source.cache = .ok cache)
    (enumerated : (Provider.keys exchange.station.source.provider).value = .ok replies)
    {answers : ScanAnswers} (unchanged : ChangeScan.Unchanged answers replies cache.snapshot)
    (signs : ∀ key, ((SourceM.scanAnswers exchange.station.source.provider).signature key).value =
      (answers.signature key).value)
    (partly : (exchange.station.source.modeFor mode).sendsAll = false) :
    sentItems (uploadSteps (session.transcript mode exchange)) = [] := by
  by_cases opened : ∃ opened, Opens session mode exchange opened
  · obtain ⟨opened, opens⟩ := opened
    cases sends : (exchange.station.source.modeFor mode).sends with
    | false => exact opens.unsent_of_silent sends
    | true =>
      have changes : exchange.station.source.modeFor mode ∈ [SyncMode.twoWay, .oneWayFromClient] := by
        revert sends partly
        cases exchange.station.source.modeFor mode <;> decide
      obtain ⟨_, ran⟩ := opens.ran
      obtain ⟨steps, taken, account⟩ := opens.account_changes cached enumerated changes
      have empty := unchanged.isEmpty_partition signs
      simp only [ChangeSet.isEmpty, Bool.and_eq_true, List.isEmpty_iff] at empty
      obtain ⟨⟨added, updated⟩, deleted⟩ := empty
      have nothing : ((ChangeScan.partition (SourceM.scanAnswers exchange.station.source.provider)
          replies cache.snapshot).outgoing exchange.station.source.provider) = [] := by
        rw [ChangeSet.outgoing, added, updated, deleted]
        rfl
      have sent := account.sent
      rw [nothing] at sent
      rw [← ran.events]
      exact List.prefix_nil.mp sent
  · rw [transcript_of_unopened (not_exists.mp opened)]
    rfl

/-- The probe agrees with the scan: it says that something changed exactly where a scan with every
deletion confirmed finds something to send, after the first of the signatures that the scan asks for.
So a sync of the changes of a source that was found unmodified sends no item, whatever deletions are
vetoed and whatever the link replies. -/
theorem probe_agrees_with_scan :
    (∀ (sign : String → Signature) (keys : List String) (previous : List (String × Signature)),
      (previous.map Prod.fst).Nodup →
        let context := (ScanContext.fixed (.signing sign)).recording
        let replies := keys.map fun key => { value := key }
        ∃ answer asked changes calls,
          ChangeScan.probe context replies previous (false, []) =
            (some answer, false, asked.map .signature) ∧
          ChangeScan.run context replies previous (false, []) = (some changes, false, calls) ∧
          (answer = true ↔ changes.isEmpty = false) ∧
          asked <+: calls.filterMap ScanCall.signed?) ∧
    ∀ station left : Station P, SourceM.isModified station = .ok false left →
      ∀ (session : Session) (mode : Option SyncMode) (exchange : Exchange P L),
        SameItems station.source.provider exchange.station.source.provider →
        exchange.station.source.cache = station.source.cache →
        (exchange.station.source.modeFor mode).sendsAll = false →
        sentItems (uploadSteps (session.transcript mode exchange)) = [] := by
  refine ⟨fun sign keys previous => ChangeScan.probe_signing sign keys, ?_⟩
  intro station left answered session mode exchange items kept partly
  obtain ⟨cache, replies, cached, enumerated, unchanged⟩ := SourceM.unchanged_of_isModified answered
  exact unsent_of_unchanged (kept.trans cached) (items.keys.trans enumerated) unchanged items.scanned
    partly

/-! ### A source without changes, whose provider comes to veto deletions -/

def settledSource : Station MemoryProvider :=
  Source.make { name := "contact" } { items := [("a", [])] }
    (.ok { backing := .memory (.ofList [("a", (Signature.of []).text)]) }) {}

def settledSession : Session := (make settledSource.host).1

/-- The same source, whose provider would not confirm that its item is gone, and a server that adds an
item. -/
def settledExchange : Exchange MemoryProvider AnswerQueue :=
  { station :=
      { source := { settledSource.source with
          provider := { settledSource.source.provider with vetoed := ["a"] } }
        host := (make settledSource.host).2 }
    link := { fetches := [{ value := some [{ command := .add, key := "server" }] }] } }

theorem settled_source_sends_nothing :
    (SourceM.isModified settledSource = .ok false settledSource ∧
      sentItems (uploadSteps (settledSession.transcript none settledExchange)) = []) ∧
    let context := (ScanContext.fixed (.signing fun _ => ⟨"7"⟩)).recording
    ∃ answer asked changes calls,
      ChangeScan.probe context [⟨"a", false⟩, ⟨"b", false⟩, ⟨"a", false⟩] ChangeScan.fourEntries
        (false, []) = (some answer, false, asked.map .signature) ∧
      ChangeScan.run context [⟨"a", false⟩, ⟨"b", false⟩, ⟨"a", false⟩] ChangeScan.fourEntries
        (false, []) = (some changes, false, calls) ∧
      (answer = true ↔ changes.isEmpty = false) ∧ asked <+: calls.filterMap ScanCall.signed? := by
  have probed : SourceM.isModified settledSource = .ok false settledSource := rfl
  have items : SameItems settledSource.source.provider settledExchange.station.source.provider :=
    ⟨rfl, fun _ => rfl⟩
  obtain ⟨agrees, silent⟩ := probe_agrees_with_scan (P := MemoryProvider) (L := AnswerQueue)
  exact ⟨⟨probed, silent _ _ probed _ _ _ items rfl rfl⟩,
    agrees (fun _ => ⟨"7"⟩) ["a", "b", "a"] ChangeScan.fourEntries (by decide)⟩

end Session

end Reconcile
