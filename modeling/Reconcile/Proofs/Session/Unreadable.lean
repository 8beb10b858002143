import Reconcile.Proofs.Provider.Laws
import Reconcile.Proofs.Session.Replayed
import Reconcile.Proofs.Source.Decisive
import Reconcile.Proofs.Source.Modes
import Reconcile.Server.Queued

/-!
Items that cannot be read. A scan takes them for changed, since it gives them the empty signature and
the cache never has that one: what is cached is the signature of content, and no verdict caches an item
that cannot be read.
-/

namespace Reconcile

variable {P : Type}

def NoneEmpty (entries : List (String × Signature)) : Prop :=
  ∀ key, entries.lookup key ≠ some .empty

namespace NoneEmpty

variable {entries : List (String × Signature)}

theorem nil : NoneEmpty [] := fun _ => nofun

theorem place (clean : NoneEmpty entries) (key : String) {signature : Signature}
    (signed : signature ≠ .empty) : NoneEmpty (Entries.place key signature entries) := by
  intro other
  rw [Entries.lookup_place]
  split
  · exact fun same => signed (Option.some.inj same)
  · exact clean other

theorem without (clean : NoneEmpty entries) (key : String) :
    NoneEmpty (Entries.without key entries) := by
  intro other
  rw [Entries.lookup_without]
  split
  · exact nofun
  · exact clean other

end NoneEmpty

/-! ### What the cache is given -/

/-- A cache without empty signatures stays one, in memory and for good. -/
def KeepsSigned (before after : Station P) : Prop :=
  ∀ cache, before.source.cache = .ok cache → NoneEmpty cache.snapshot →
    ∃ live, after.source.cache = .ok live ∧ NoneEmpty live.snapshot ∧
      (NoneEmpty (cache.durable before.host.disk) → NoneEmpty (live.durable after.host.disk))

namespace KeepsSigned

variable {before after : Station P}

theorem onward : Onward (KeepsSigned (P := P)) where
  refl _ cache cached clean := ⟨cache, cached, clean, id⟩
  trans early late cache cached clean := by
    obtain ⟨between, held, signed, durably⟩ := early cache cached clean
    obtain ⟨live, kept, still, lasting⟩ := late between held signed
    exact ⟨live, kept, still, lasting ∘ durably⟩

theorem of_unsaved (unsaved : Unsaved before after)
    (signed : ∀ cache live, before.source.cache = .ok cache → after.source.cache = .ok live →
      NoneEmpty cache.snapshot → NoneEmpty live.snapshot) : KeepsSigned before after := by
  intro cache cached clean
  obtain ⟨live, held, durable⟩ := unsaved.durable cached
  refine ⟨live, held, signed cache live cached held clean, fun durably => ?_⟩
  rwa [durable, unsaved.disk]

theorem of_same (cache : after.source.cache = before.source.cache)
    (disk : after.host.disk = before.host.disk) : KeepsSigned before after :=
  fun held cached clean => ⟨held, cache.trans cached, clean, fun durably => disk ▸ durably⟩

end KeepsSigned

section Signed

variable [Provider P] (signs : SignsContent P) {station : Station P}

include signs

theorem readable_ne_empty (provider : P) (key : String) :
    SourceM.readable provider key ≠ some .empty := by
  rw [SourceM.readable, signs]
  show ((Provider.content provider key).value.map Signature.of).toOption ≠ _
  intro same
  cases read : (Provider.content provider key).value with
  | error refusal =>
    rw [read] at same
    cases same
  | ok content =>
    rw [read] at same
    exact Signature.of_ne_empty content (Option.some.inj same)

theorem readable_of_refused {provider : P} {key : String} {refusal : Refusal}
    (refused : (Provider.content provider key).value = .error refusal) :
    SourceM.readable provider key = none := by
  rw [SourceM.readable, signs]
  show ((Provider.content provider key).value.map Signature.of).toOption = _
  rw [refused]
  rfl

theorem noneEmpty_answered {entries : List (String × Signature)} (clean : NoneEmpty entries)
    (rule : SuccessRule) (provider : P) (ruling : Ruling) :
    NoneEmpty (SourceM.answered rule (SourceM.readable provider) ruling.command ruling.verdict
      entries) := by
  intro key
  rw [ruling.lookup_answered]
  split
  · rw [Ruling.entry]
    split
    · exact (Option.some_ne_none _).symm
    · exact readable_ne_empty signs provider _
  · exact clean key

omit [Provider P] signs in
/-- An operation that fails its checks leaves the cache; the others are left to show. -/
theorem noneEmpty_guarded {α : Type} {name : String} {body : SourceM P α}
    {cache live : SignatureCache} (cached : station.source.cache = .ok cache)
    (held : (leaves (do SourceM.poll; SourceM.requireRunning name; body) station).source.cache =
      .ok live) (clean : NoneEmpty cache.snapshot)
    (step : station.Syncs cache → NoneEmpty live.snapshot) : NoneEmpty live.snapshot := by
  by_cases refused : ¬ station.Calm ∨ station.source.report.standing = .resting
  · obtain ⟨error, failed⟩ := SourceM.guards_error refused name body
    rw [leaves_of_error failed] at held
    cases cached.symm.trans held
    exact clean
  · obtain ⟨calm, begun⟩ := not_or.mp refused
    exact step ⟨Decidable.not_not.mp calm, begun, cached⟩

omit [Provider P] signs in
theorem noneEmpty_applied {β : Type} {after : Station P} {cache live : SignatureCache}
    {written : Reply (Except Refusal β) × P} {report : SourceReport}
    {keep : β → List (String × Signature) → List (String × Signature)}
    (applied : SourceM.Applied station after cache written keep report)
    (held : after.source.cache = .ok live) (clean : NoneEmpty cache.snapshot)
    (kept : ∀ value, NoneEmpty (keep value cache.snapshot)) : NoneEmpty live.snapshot := by
  obtain ⟨next, cached, entries⟩ := applied.cached
  cases cached.symm.trans held
  rw [entries]
  split
  · exact kept _
  · exact clean

theorem keepsSigned_takeVerdict (command : Command) (verdict : Verdict) :
    Keeps (KeepsSigned (P := P)) (SourceM.takeVerdict command verdict) := by
  intro station
  refine .of_unsaved (Unsaved.elementary.keeps_takeVerdict command verdict station)
    fun cache live cached held clean => noneEmpty_guarded cached held clean fun syncs => ?_
  obtain ⟨after, next, ran, kept, entries, -⟩ := SourceM.takeVerdict_ok syncs command verdict
  rw [leaves_of_ok ran] at held
  cases kept.symm.trans held
  rw [entries]
  exact noneEmpty_answered signs clean _ _ ⟨command, verdict⟩

omit signs in
theorem keepsSigned_applyAdd (serverId : String) (content : Bytes) :
    Keeps (KeepsSigned (P := P)) (SourceM.applyAdd serverId content) := by
  intro station
  refine .of_unsaved (Unsaved.elementary.keeps_applyAdd serverId content station)
    fun cache live cached held clean => noneEmpty_guarded cached held clean fun syncs => ?_
  obtain ⟨after, ran, applied⟩ := SourceM.applyAdd_ok syncs serverId content
  rw [leaves_of_ok ran] at held
  exact noneEmpty_applied applied held clean fun key =>
    clean.place key (Signature.of_ne_empty content)

omit [Provider P] signs in
theorem keepsSigned_changeItem (operation : String) (command : Command) (key : String)
    (action : P → Reply (Except Refusal Unit) × P) {follow : SignatureCache → SignatureCache}
    {keep : List (String × Signature) → List (String × Signature)} (ofEntries : OfEntries follow)
    (follows : ∀ cache : SignatureCache, (follow cache).snapshot = keep cache.snapshot)
    (kept : ∀ entries, NoneEmpty entries → NoneEmpty (keep entries)) :
    Keeps KeepsSigned (SourceM.changeItem operation command key action follow) := by
  intro station
  refine .of_unsaved
    (Unsaved.elementary.keeps_changeItem operation command key action ofEntries station)
    fun cache live cached held clean => noneEmpty_guarded cached held clean fun syncs => ?_
  obtain ⟨after, ran, applied⟩ :=
    SourceM.changeItem_ok syncs operation command key action (follows cache)
  rw [leaves_of_ok ran] at held
  exact noneEmpty_applied applied held clean fun _ => kept _ clean

omit signs in
theorem keepsSigned_startEnumeration : Keeps (KeepsSigned (P := P)) SourceM.startEnumeration := by
  intro station
  refine .of_unsaved (Unsaved.elementary.keeps_startEnumeration station)
    fun cache live cached held signed => ?_
  by_cases listed : SourceM.Unlisted station
  · obtain ⟨error, left, failed, kept, -⟩ := SourceM.failsAside_startEnumeration listed
    rw [leaves_of_error failed, kept] at held
    cases cached.symm.trans held
    exact signed
  · by_cases resting : station.source.report.standing = .resting
    · rw [SourceM.startEnumeration, leaves_of_error
        (bind_of_error (SourceM.requireRunning_resting resting _) _)] at held
      cases cached.symm.trans held
      exact signed
    · cases scanned : station.source.changes? with
      | some changes =>
        obtain ⟨error, refused⟩ := SourceM.startEnumeration_found scanned
        rw [leaves_of_error refused] at held
        cases cached.symm.trans held
        exact signed
      | none =>
        have cleared := (SourceM.startEnumeration_listed listed resting scanned cached).1
        cases cleared.symm.trans held
        rw [cache.snapshot_clear]
        exact .nil

omit signs in
theorem keepsSigned_start (mode : SyncMode) : Keeps (KeepsSigned (P := P)) (SourceM.start mode) := by
  intro station
  by_cases wipes : station.source.report.standing ≠ .running ∧ mode = .refreshFromServer
  · obtain ⟨closed, rfl⟩ := wipes
    intro cache cached _
    have wiped := SourceM.wiped_start cached closed
    cases made : cache.clear.commit station.host.disk with
    | mk outcome rest =>
      obtain ⟨committed, disk⟩ := rest
      rw [SourceM.Wiped, made] at wiped
      obtain ⟨kept, saved, -⟩ := wiped
      have blank : committed.snapshot = [] := by
        cases outcome with
        | ok _ => exact (SignatureCache.restart_commit made).1.trans cache.snapshot_clear
        | error cause => exact SignatureCache.commit_error made ▸ cache.snapshot_clear
      refine ⟨committed, kept, blank ▸ .nil, fun signed => ?_⟩
      rw [saved]
      rcases SignatureCache.durable_after_commit made with before | now
      · rw [before]
        exact (cache.durable_update _ _) ▸ signed
      · rw [now, cache.snapshot_clear]
        exact .nil
  · have frozen : Frozen station (leaves (SourceM.start mode) station) :=
      SourceM.frozen_start fun _ _ closed refreshes => wipes ⟨closed, refreshes⟩
    exact .of_same frozen.cache frozen.disk

omit [Provider P] signs in
theorem keepsSigned_finish : Keeps (KeepsSigned (P := P)) SourceM.finish := by
  intro station cache cached signed
  obtain ⟨live, kept, same⟩ := SourceM.snapshot_finish cached
  obtain ⟨saved, held, durable⟩ := SourceM.durable_finish station cached
  cases kept.symm.trans held
  refine ⟨live, kept, same ▸ signed, fun durably => ?_⟩
  rcases durable with before | ⟨-, entries⟩
  · rwa [before]
  · rwa [entries]

theorem keepsSigned_after (event : Event P) (station : Station P) :
    KeepsSigned station (event.after station) := by
  have still : ∀ {operation : Operation}, operation.goesOn = true →
      operation.parts ⊆ [.streaming] → KeepsSigned station (leaves operation.act station) := by
    intro operation goesOn fewer
    have frozen : Frozen station (leaves operation.act station) :=
      .of_within (Operation.stays_act goesOn station) fewer
    exact .of_same frozen.cache frozen.disk
  cases event with
  | act operation =>
    cases operation with
    | start mode => exact keepsSigned_start mode station
    | finish => exact keepsSigned_finish station
    | verdict command verdict => exact keepsSigned_takeVerdict signs command verdict station
    | add serverId content =>
      rw [Event.after, Operation.act, Operation.leaves_discard]
      exact keepsSigned_applyAdd serverId content station
    | replace key content =>
      rw [Event.after, Operation.act, Operation.leaves_discard]
      exact keepsSigned_changeItem _ _ _ _ (ofEntries_put key _) (fun cache => cache.snapshot_put key _)
        (fun _ signed => signed.place key (Signature.of_ne_empty content)) station
    | delete key =>
      rw [Event.after, Operation.act, Operation.leaves_discard]
      exact keepsSigned_changeItem _ _ _ _ (ofEntries_remove key)
        (fun cache => cache.snapshot_remove key) (fun _ signed => signed.without key) station
    | first stream =>
      cases stream with
      | full =>
        rw [Event.after, Operation.act, Operation.leaves_discard]
        exact keepsSigned_startEnumeration station
      | bucket bucket => exact still rfl (by simp [Operation.parts])
    | next stream => exact still rfl (by simp [Operation.parts])
    | probe => exact still rfl (by simp [Operation.parts])
  | transfer side command key =>
    have stays : Stays (P := P) [.report] (SourceM.recordTransfer side command key) :=
      SourceM.stays_recordTransfer (by simp) side command key
    exact .of_same ((stays station).cache (by simp)) ((stays station).disk (by simp))
  | _ => exact .of_same rfl rfl

theorem keepsSigned_of_replays {final : Station P} (replays : Replays station final) :
    KeepsSigned station final := by
  obtain ⟨events, rfl⟩ := replays
  exact Event.keeps_runAll KeepsSigned.onward (fun event _ => keepsSigned_after signs event) station

/-! ### What an unreadable item comes to -/

theorem changed_of_refused {entries : List (String × Signature)} (clean : NoneEmpty entries)
    {replies : List (Reply String)} {provider : P} {key : String} {refusal : Refusal}
    (listed : key ∈ replies.map Reply.value)
    (refused : (Provider.content provider key).value = .error refusal) :
    let changes := ChangeScan.partition (SourceM.scanAnswers provider) replies entries
    (key ∈ changes.added ∨ key ∈ changes.updated) ∧ key ∉ changes.unchanged ∧
      key ∉ changes.deleted := by
  have present : key ∈ ChangeScan.present replies := ChangeScan.mem_present.mpr listed
  have unsigned : ((SourceM.scanAnswers provider).signature key).value = .empty := by
    simp only [SourceM.scanAnswers, Reply.map, signs provider key, refused, Except.map]
  refine ⟨?_, fun unchanged => ?_, fun deleted => ?_⟩
  · cases cached : entries.lookup key with
    | none => exact .inl (ChangeScan.mem_added.mpr ⟨present, cached⟩)
    | some signature =>
      refine .inr (ChangeScan.mem_updated.mpr ⟨present, signature, cached, fun same => ?_⟩)
      rw [same, unsigned] at cached
      exact clean key cached
  · have same := (ChangeScan.mem_unchanged.mp unchanged).2
    rw [unsigned] at same
    exact clean key same
  · exact (ChangeScan.mem_deleted.mp deleted).2.1 present

theorem unchanged_of_refused {cache : SignatureCache} (cached : station.source.cache = .ok cache)
    {command : Command} {verdict : Verdict} {refusal : Refusal} (kept : command ≠ .delete)
    (refused : (Provider.content station.source.provider verdict.id).value = .error refusal) :
    ∃ next, (leaves (SourceM.takeVerdict command verdict) station).source.cache = .ok next ∧
      next.snapshot = cache.snapshot := by
  by_cases fails : ¬ station.Calm ∨ station.source.report.standing = .resting
  · obtain ⟨error, failed⟩ :
        ∃ error, SourceM.takeVerdict command verdict station = .error error station :=
      SourceM.guards_error fails _ _
    rw [leaves_of_error failed]
    exact ⟨cache, cached, rfl⟩
  · obtain ⟨calm, begun⟩ := not_or.mp fails
    obtain ⟨after, next, ran, held, entries, -⟩ :=
      SourceM.takeVerdict_ok ⟨Decidable.not_not.mp calm, begun, cached⟩ command verdict
    refine ⟨next, leaves_of_ok ran ▸ held, ?_⟩
    rw [entries, SourceM.answered, if_neg kept, readable_of_refused signs refused]
    cases verdict.code.isChunkAck <;> simp

/-- An item that cannot be read is never taken for synchronized. Over every run of syncs and of other
changes of the items, a cache without empty signatures stays one, live, durable, and opened again. So
every scan finds each unreadable item among the new or the changed ones; and a verdict leaves its entry
as it is, unless it is on its deletion. -/
theorem Session.unreadable_never_synchronized {cache : SignatureCache} {final : Station P}
    (cached : station.source.cache = .ok cache) (clean : NoneEmpty cache.snapshot)
    (replays : Replays station final) :
    ∃ live, final.source.cache = .ok live ∧ NoneEmpty live.snapshot ∧
      (NoneEmpty (cache.durable station.host.disk) → NoneEmpty (live.durable final.host.disk) ∧
        ∀ reopened, live.restart final.host.disk = (.ok reopened, final.host.disk) →
          NoneEmpty reopened.snapshot) ∧
      (∀ replies changes left, (Provider.keys final.source.provider).value = .ok replies →
        SourceM.scan final = .ok changes left → ∀ key ∈ replies.map Reply.value,
          ∀ refusal, (Provider.content final.source.provider key).value = .error refusal →
            (key ∈ changes.added ∨ key ∈ changes.updated) ∧ key ∉ changes.unchanged ∧
              key ∉ changes.deleted) ∧
      ∀ command verdict refusal, command ≠ .delete →
        (Provider.content final.source.provider verdict.id).value = .error refusal →
          ∃ next, (leaves (SourceM.takeVerdict command verdict) final).source.cache = .ok next ∧
            next.snapshot = live.snapshot := by
  obtain ⟨live, held, signed, durably⟩ := keepsSigned_of_replays signs replays cache cached clean
  refine ⟨live, held, signed, fun saved => ⟨durably saved, fun reopened opened => ?_⟩,
    fun replies changes left enumerated scanned key listed refusal refused => ?_,
    fun command verdict refusal kept refused => unchanged_of_refused signs held kept refused⟩
  · rw [SignatureCache.snapshot_restart opened]
    exact durably saved
  · have found := SourceM.gives_scan final held enumerated
    rw [Gives, Ends, yields_of_ok scanned] at found
    obtain rfl := found
    exact changed_of_refused signs signed listed refused

end Signed

/-! ### An item that gets hidden -/

namespace Session

def fading : Station MemoryProvider :=
  Source.make { name := "contact" } { items := [("a", []), ("b", [])], unreadable := ["b"] }
    (.ok { backing := .memory {} }) {}

def hideSession : Session := (make fading.host).1

/-- A server that accepts the unreadable item too, though it was not sent. -/
def hideExchange : Exchange MemoryProvider AnswerQueue :=
  { station := { fading with host := (make fading.host).2 }
    link := { conclusions := [{ value := some [{ id := "b", code := StatusCode.ok }] }] } }

def hidden : Station MemoryProvider :=
  Event.runAll
    [.edit fun provider => provider.hide "a", .share hideSession.flag, .act (.start .twoWay)]
    (hideSession.sync none hideExchange).exchange.station

theorem provider_hidden : hidden.source.provider =
    { items := [("a", []), ("b", [])], unreadable := ["a", "b"] } := by
  decide +kernel

theorem replays_hidden : Replays hideExchange.station hidden :=
  (hideSession.replays_sync none hideExchange).trans ⟨_, rfl⟩

theorem scan_hidden : ∃ changes left, SourceM.scan hidden = .ok changes left ∧
    changes.added = ["b"] ∧ changes.updated = ["a"] := by
  have found : (yields SourceM.scan hidden).toOption.map
      (fun changes => (changes.added, changes.updated)) = some (["b"], ["a"]) := by decide +kernel
  cases scanned : SourceM.scan hidden with
  | ok changes left =>
    rw [yields_of_ok scanned] at found
    exact ⟨changes, left, rfl, Prod.mk.inj (Option.some.inj found)⟩
  | error error left =>
    rw [yields_of_error scanned] at found
    cases found

theorem unreadable_never_synchronized_hidden :
    ∃ live changes left, hidden.source.cache = .ok live ∧ NoneEmpty live.snapshot ∧
      NoneEmpty (live.durable hidden.host.disk) ∧ SourceM.scan hidden = .ok changes left ∧
      changes.added = ["b"] ∧ changes.updated = ["a"] ∧
      (∀ key ∈ ["a", "b"], key ∉ changes.unchanged ∧ key ∉ changes.deleted) ∧
      ∃ next, (leaves (SourceM.takeVerdict .replace { id := "a", code := StatusCode.ok })
        hidden).source.cache = .ok next ∧ next.snapshot = live.snapshot := by
  have listed : (Provider.keys hidden.source.provider).value =
      .ok [{ value := "a" }, { value := "b" }] := by
    rw [provider_hidden]
    rfl
  have hides : ∀ key ∈ ["a", "b"],
      (Provider.content hidden.source.provider key).value = .error (.notFound key) := by
    rw [provider_hidden]
    simp [Provider.content, MemoryProvider.read]
  obtain ⟨live, held, signed, durably, scans, verdicts⟩ :=
    @unreadable_never_synchronized MemoryProvider _ (fun _ _ => rfl) hideExchange.station _ _ rfl
      .nil replays_hidden
  obtain ⟨changes, left, scanned, added, updated⟩ := scan_hidden
  refine ⟨live, changes, left, held, signed, (durably .nil).1, scanned, added, updated,
    fun key member => ?_, verdicts _ _ _ (by decide) (hides "a" (by decide))⟩
  exact (scans _ _ _ listed scanned key member _ (hides key member)).2

end Session

end Reconcile
