import Reconcile.Provider.Memory
import Reconcile.Proofs.Source.Commit
import Reconcile.Proofs.Source.Elementary
import Reconcile.Proofs.Source.Streams

/-!
Stopped sources. While the owner of a shared flag keeps it raised, the operations of a source leave
its items and its cache alone, whatever the state of its sync. There are two that get by without a
poll: a begin that refreshes the local data, and a full enumeration of no keys.
-/

namespace Reconcile

variable {P : Type}

/-- A source that polls a flag of someone else, which is raised. -/
structure Station.Stopped (station : Station P) : Prop where
  shared : station.source.flagShared = true
  raised : ¬ station.Calm

/-- The flag of a source is up when one of the keys handed out is polled. -/
def Station.Cut (station : Station P) (replies : List (Reply String)) : Prop :=
  replies ≠ [] ∧ (¬ station.Calm ∨ ∃ reply ∈ replies, reply.cancels = true)

structure Frozen (before after : Station P) : Prop where
  provider : after.source.provider = before.source.provider
  cache : after.source.cache = before.source.cache
  disk : after.host.disk = before.host.disk

namespace Frozen

theorem refl (station : Station P) : Frozen station station := ⟨rfl, rfl, rfl⟩

theorem trans {first second third : Station P} (early : Frozen first second)
    (late : Frozen second third) : Frozen first third where
  provider := late.provider.trans early.provider
  cache := late.cache.trans early.cache
  disk := late.disk.trans early.disk

theorem of_within {parts : List Part} {before after : Station P} (within : Within parts before after)
    (fewer : parts ⊆ [.streaming]) : Frozen before after where
  provider := (within.mono fewer).provider (by simp)
  cache := (within.mono fewer).cache (by simp)
  disk := (within.mono fewer).disk (by simp)

end Frozen

theorem Within.stopped {parts : List Part} {before after : Station P}
    (within : Within parts before after) (stopped : before.Stopped) : after.Stopped where
  shared := within.flagShared.trans stopped.shared
  raised := mt within.calm stopped.raised

theorem Station.frozen_opened (station : Station P) (mode : SyncMode) :
    Frozen station (station.opened mode) := by
  refine ⟨rfl, rfl, ?_⟩
  unfold opened
  dsimp only
  split <;> rfl

theorem Station.Stopped.opened {station : Station P} (stopped : station.Stopped) (mode : SyncMode) :
    (station.opened mode).Stopped := by
  have kept : (station.opened mode).Calm = station.Calm := by
    simp only [Station.opened, Calm, stopped.shared, if_true]
  exact ⟨stopped.shared, kept ▸ stopped.raised⟩

theorem Station.disk_heard (station : Station P) (cancels : Bool) :
    (station.heard cancels).host.disk = station.host.disk :=
  (station.within_heard cancels).disk (by simp)

namespace SourceM

variable [Provider P] {station : Station P} {cache : SignatureCache}

/-! ### The beginning of a sync -/

theorem frozen_start {mode : SyncMode} (polled : ∀ cache, station.source.cache = .ok cache →
      station.source.report.standing ≠ .running → mode ≠ .refreshFromServer) :
    Frozen station (leaves (start mode) station) := by
  have opened := station.frozen_opened mode
  by_cases running : station.source.report.standing = .running
  · rw [leaves_of_error (start_running running mode)]
    exact .refl station
  · cases cached : station.source.cache with
    | error cause =>
      rw [leaves_of_error (start_uncached cached running mode)]
      exact ⟨opened.provider, opened.cache, opened.disk⟩
    | ok cache =>
      rw [leaves_of_ok (start_ok cached running (polled cache cached running))]
      exact ⟨opened.provider, opened.cache, opened.disk⟩

/-- The cache of a source was emptied for good and its items were deleted, or the empty cache could
not be made durable and the items were kept. -/
def Wiped (before after : Station P) (cache : SignatureCache) : Prop :=
  let (outcome, committed, disk) := cache.clear.commit before.host.disk
  after.source.cache = .ok committed ∧ after.host.disk = disk ∧
    after.source.provider =
      if outcome.isOk then (Provider.deleteAll before.source.provider).2 else before.source.provider

/-- A refresh of the local data begins with a wipe, without a poll. -/
theorem wiped_start (cached : station.source.cache = .ok cache)
    (closed : station.source.report.standing ≠ .running) :
    Wiped station (leaves (start .refreshFromServer) station) cache := by
  have opened := station.frozen_opened .refreshFromServer
  have held : (station.opened .refreshFromServer).source.cache = .ok cache := cached
  rw [leaves, start_eq cached closed, if_pos rfl, Wiped]
  cases made : cache.clear.commit station.host.disk with
  | mk outcome rest =>
    obtain ⟨committed, disk⟩ := rest
    rw [← opened.disk] at made
    cases outcome with
    | error cause =>
      obtain ⟨left, refused, kept, _, provider, same⟩ := wipe_of_refusal held made
      obtain rfl := SignatureCache.commit_error made
      rw [bind_of_error refused]
      exact ⟨kept, same, provider⟩
    | ok _ =>
      have wiped := wipe_of_commit held made
      cases deleted : (Provider.deleteAll (station.opened .refreshFromServer).source.provider).1.value with
      | ok _ =>
        rw [deleted, expect_ok] at wiped
        rw [bind_of_ok wiped]
        exact ⟨rfl, Station.disk_heard _ _, rfl⟩
      | error refusal =>
        rw [deleted, expect_error] at wiped
        rw [bind_of_error wiped]
        exact ⟨rfl, Station.disk_heard _ _, rfl⟩

/-! ### Full enumeration -/

theorem startEnumeration_eq (begun : station.source.report.standing ≠ .resting)
    (unscanned : station.source.changes? = none) :
    startEnumeration station = (do
      let replies ← expect (Provider.keys station.source.provider).value
      let keys ← collectKeys replies
      updateCache SignatureCache.clear
      setStreaming (.full keys)
      nextEnumerated : SourceM P (Option OutgoingItem))
        (station.heard (Provider.keys station.source.provider).cancels) := by
  rw [startEnumeration, bind_of_ok (requireRunning_ok begun _), bind_of_ok (source_eq _)]
  rw [Source.changes?] at unscanned
  cases streaming : station.source.streaming with
  | incremental changes cursors => rw [streaming] at unscanned; cases unscanned
  | idle => exact (bind_of_ok (source_eq _) _).trans (bind_of_ok (hear_heard _ _) _)
  | full queue => exact (bind_of_ok (source_eq _) _).trans (bind_of_ok (hear_heard _ _) _)

omit [Provider P] in
theorem collectKeys_cut {replies : List (Reply String)} (cut : station.Cut replies) :
    ∃ left, collectKeys replies station = .error .cancelled left := by
  induction replies generalizing station with
  | nil => exact absurd rfl cut.1
  | cons reply rest ih =>
    rw [collectKeys, bind_of_ok (hear_heard _ _)]
    by_cases calm : (station.heard reply.cancels).Calm
    · -- It is a later key that raises the flag.
      obtain ⟨before, quiet⟩ := (calm_heard station reply.cancels).mp calm
      obtain ⟨later, member, cancels⟩ := cut.2.resolve_left (not_not_intro before)
      have among : later ∈ rest := (List.mem_cons.mp member).resolve_left fun same =>
        Bool.false_ne_true (quiet.symm.trans (same ▸ cancels))
      obtain ⟨noted, ran⟩ := noteLongKey_ok reply.value (station.heard reply.cancels)
      obtain ⟨left, failed⟩ :=
        @ih noted ⟨List.ne_nil_of_mem among, .inr ⟨later, among, cancels⟩⟩
      exact ⟨left, by rw [bind_of_ok (poll_of_calm calm), bind_of_ok ran, bind_of_error failed]⟩
    · exact ⟨_, bind_of_error (poll_of_stopped calm) _⟩

/-- A full enumeration that passes its checks, and has a cache to empty but no keys to poll at. -/
structure EmptyEnumeration (station : Station P) (cache : SignatureCache) : Prop where
  begun : station.source.report.standing ≠ .resting
  unscanned : station.source.changes? = none
  cached : station.source.cache = .ok cache
  keyless : (Provider.keys station.source.provider).value = .ok []

theorem frozen_startEnumeration (stopped : station.Stopped)
    (polled : ∀ cache, ¬ EmptyEnumeration station cache) :
    Frozen station (leaves startEnumeration station) := by
  have heard := station.within_heard (Provider.keys station.source.provider).cancels
  by_cases begun : station.source.report.standing = .resting
  · rw [startEnumeration, leaves_of_error (bind_of_error (requireRunning_resting begun _) _)]
    exact .refl station
  · cases unscanned : station.source.changes? with
    | some changes =>
      obtain ⟨error, refused⟩ := startEnumeration_found unscanned
      rw [leaves_of_error refused]
      exact .refl station
    | none =>
      rw [leaves, startEnumeration_eq begun unscanned, ← leaves]
      generalize station.heard (Provider.keys station.source.provider).cancels = asked at heard
      cases replied : (Provider.keys station.source.provider).value with
      | error refusal =>
        rw [leaves_of_error (bind_of_error (expect_error _ _) _)]
        exact .of_within heard (by simp)
      | ok replies =>
        rw [leaves_bind_of_ok (expect_ok _)]
        cases replies with
        | cons reply rest =>
          have cut : asked.Cut (reply :: rest) :=
            ⟨List.cons_ne_nil _ _, .inl (heard.stopped stopped).raised⟩
          have stays : Stays (P := P) [] (collectKeys (reply :: rest)) := stays_collectKeys _
          obtain ⟨left, failed⟩ := collectKeys_cut cut
          have collects := stays asked
          rw [leaves_of_error failed] at collects
          rw [leaves_of_error (bind_of_error failed _)]
          exact .of_within (heard.trans collects) (by simp)
        | nil =>
          cases cached : station.source.cache with
          | ok cache => exact absurd ⟨begun, unscanned, cached, replied⟩ (polled cache)
          | error cause =>
            have missing := updateCache_missing asked ((heard.cache (by simp)).trans cached)
            have none : collectKeys [] asked = .ok [] asked := rfl
            rw [leaves_bind_of_ok none, leaves_of_error (bind_of_error (missing _) _)]
            exact .of_within heard (by simp)

theorem emptied_startEnumeration {cache : SignatureCache} (empty : EmptyEnumeration station cache) :
    (leaves startEnumeration station).source.cache = .ok cache.clear ∧
      (leaves startEnumeration station).source.provider = station.source.provider ∧
      (leaves startEnumeration station).host.disk = station.host.disk := by
  have heard := station.within_heard (Provider.keys station.source.provider).cancels
  have streams : Stays [.streaming] (do setStreaming (.full []); nextEnumerated : SourceM P _) :=
    (stays_setStreaming (by simp) _).bind fun _ => stays_nextEnumerated (by simp)
  have cleared := updateCache_ok (station.heard (Provider.keys station.source.provider).cancels)
    ((heard.cache (by simp)).trans empty.cached) SignatureCache.clear
  rw [leaves, startEnumeration_eq empty.begun empty.unscanned, empty.keyless, ← leaves]
  generalize station.heard (Provider.keys station.source.provider).cancels = asked at heard cleared
  have none : collectKeys [] asked = .ok [] asked := rfl
  rw [leaves_bind_of_ok (expect_ok _), leaves_bind_of_ok none, leaves_bind_of_ok cleared]
  have within := streams (asked.withCache cache.clear)
  exact ⟨within.cache (by simp), (within.provider (by simp)).trans (heard.provider (by simp)),
    (within.disk (by simp)).trans (heard.disk (by simp))⟩

end SourceM

/-! ### Every operation -/

namespace Operation

variable [Provider P] {station : Station P}

/-- An operation that gets by a raised flag: it refreshes the local data, or begins a full
enumeration of no keys. -/
inductive Unpolled (station : Station P) (cache : SignatureCache) : Operation → Prop
  | refresh (cached : station.source.cache = .ok cache)
      (closed : station.source.report.standing ≠ .running) :
      Unpolled station cache (.start .refreshFromServer)
  | enumerate (empty : SourceM.EmptyEnumeration station cache) : Unpolled station cache (.first .full)

/-- What an operation does that gets by a raised flag. A full enumeration empties the live cache
only. -/
def Empties (before after : Station P) (cache : SignatureCache) : Operation → Prop
  | start _ => SourceM.Wiped before after cache
  | _ =>
    after.source.cache = .ok cache.clear ∧ after.source.provider = before.source.provider ∧
      after.host.disk = before.host.disk

omit [Provider P] in
theorem frozen_guarded {α : Type} (stopped : station.Stopped) (name : String) (body : SourceM P α) :
    Frozen station (leaves (do SourceM.poll; SourceM.requireRunning name; body) station) := by
  obtain ⟨error, refused⟩ := SourceM.guards_error (.inl stopped.raised) name body
  rw [leaves_of_error refused]
  exact .refl station

theorem frozen_act (stopped : station.Stopped) {operation : Operation}
    (polled : ∀ cache, ¬ operation.Unpolled station cache) :
    Frozen station (leaves operation.act station) := by
  cases operation with
  | start mode =>
    refine SourceM.frozen_start fun cache cached closed refreshes => polled cache ?_
    rw [refreshes]
    exact .refresh cached closed
  | finish =>
    rw [act, leaves_of_error (SourceM.finish_stopped stopped.raised)]
    exact ⟨rfl, rfl, rfl⟩
  | verdict command answer => exact frozen_guarded stopped _ _
  | first stream =>
    rw [act, leaves_discard]
    cases stream with
    | full => exact SourceM.frozen_startEnumeration stopped fun cache empty => polled cache (.enumerate empty)
    | bucket bucket =>
      have stays : Stays (P := P) [.streaming] (SourceM.firstChange bucket) :=
        SourceM.stays_firstChange (by simp) bucket
      exact .of_within (stays station) (by simp)
  | next stream =>
    have stays : Stays (P := P) [.streaming] (SourceM.next stream) :=
      SourceM.stays_next (by simp) stream
    rw [act, leaves_discard]
    exact .of_within (stays station) (by simp)
  | probe =>
    have stays : Stays (P := P) [] SourceM.isModified := SourceM.stays_isModified
    rw [act, leaves_discard]
    exact .of_within (stays station) (by simp)
  | add serverId content =>
    rw [act, leaves_discard]
    exact frozen_guarded stopped _ _
  | replace key content =>
    rw [act, leaves_discard]
    exact frozen_guarded stopped _ _
  | delete key =>
    rw [act, leaves_discard]
    exact frozen_guarded stopped _ _

theorem stopped_act (stopped : station.Stopped) {operation : Operation}
    (polled : ∀ cache, ¬ operation.Unpolled station cache) :
    (leaves operation.act station).Stopped := by
  have between : (∀ mode, operation ≠ .start mode) → operation ≠ .finish →
      (leaves operation.act station).Stopped := fun begins ends =>
    (Within.elementary.keeps_act begins ends station).stopped stopped
  cases operation with
  | start mode =>
    have opened := stopped.opened mode
    by_cases running : station.source.report.standing = .running
    · rwa [act, leaves_of_error (SourceM.start_running running mode)]
    · cases cached : station.source.cache with
      | error cause =>
        rw [act, leaves_of_error (SourceM.start_uncached cached running mode)]
        exact ⟨opened.shared, opened.raised⟩
      | ok cache =>
        have keeping : mode ≠ .refreshFromServer := fun refreshes =>
          polled cache (refreshes ▸ .refresh cached running)
        rw [act, leaves_of_ok (SourceM.start_ok cached running keeping)]
        exact ⟨opened.shared, opened.raised⟩
  | finish =>
    have stays : Stays (P := P) _ SourceM.finish := SourceM.stays_finish
    exact (stays station).stopped stopped
  | _ => exact between (fun _ same => by cases same) fun same => by cases same

theorem frozen_runAll (operations : List Operation) (stopped : station.Stopped)
    (polled : ∀ operation ∈ operations, operation ≠ .start .refreshFromServer ∧ operation ≠ .first .full) :
    Frozen station (runAll operations station) := by
  induction operations generalizing station with
  | nil => exact .refl station
  | cons operation rest ih =>
    obtain ⟨begins, enumerates⟩ := polled operation List.mem_cons_self
    have polls : ∀ cache, ¬ operation.Unpolled station cache := by
      rintro cache (_ | _)
      · exact begins rfl
      · exact enumerates rfl
    exact (frozen_act stopped polls).trans
      (ih (stopped_act stopped polls) fun later member => polled later (List.mem_cons_of_mem _ member))

end Operation

/-- While the flag of its owner is raised, every operation leaves the items and the cache of a source
as they were, but for the two that get by without a poll: a refresh of the local data wipes it, and
a full enumeration of no keys empties the live cache. -/
theorem SourceM.frozen_while_stopped [Provider P] {station : Station P} (stopped : station.Stopped)
    (operation : Operation) :
    ((∀ cache, ¬ operation.Unpolled station cache) →
      Frozen station (leaves operation.act station)) ∧
    ∀ cache, operation.Unpolled station cache →
      operation.Empties station (leaves operation.act station) cache := by
  refine ⟨Operation.frozen_act stopped, fun cache unpolled => ?_⟩
  cases unpolled with
  | refresh cached closed => exact wiped_start cached closed
  | enumerate empty =>
    rw [Operation.act, Operation.leaves_discard]
    exact emptied_startEnumeration empty

/-! ### A stopped source that loses its cache -/

namespace SourceM

def oneEntry : SignatureCache := { backing := .memory (MemoryStore.ofList [("a", "1")]) }

/-- A source over no items, with an item to delete from the server, whose shared flag is raised. -/
def halted : Station MemoryProvider :=
  let made := Source.make { name := "contact" } ({} : MemoryProvider) (.ok oneEntry) {}
  { source := made.source.shareFlag made.source.flag, host := made.host.raise made.source.flag }

def haltedBegun : Station MemoryProvider := leaves (Operation.start .twoWay).act halted

theorem stopped_halted : halted.Stopped := ⟨rfl, by decide +kernel⟩

theorem stopped_haltedBegun : haltedBegun.Stopped := by
  refine Operation.stopped_act stopped_halted ?_
  rintro cache (_ | _)

theorem empty_haltedBegun : EmptyEnumeration haltedBegun oneEntry :=
  ⟨by decide +kernel, by decide +kernel, rfl, rfl⟩

theorem halted_by_operations :
    Frozen haltedBegun (leaves (Operation.add "server" []).act haltedBegun) ∧
      (Operation.first .full).Empties haltedBegun (leaves (Operation.first .full).act haltedBegun)
        oneEntry ∧
      (Operation.start .refreshFromServer).Empties halted
        (leaves (Operation.start .refreshFromServer).act halted) oneEntry := by
  refine ⟨(frozen_while_stopped stopped_haltedBegun _).1 nofun, ?_, ?_⟩
  · exact (frozen_while_stopped stopped_haltedBegun _).2 _ (.enumerate empty_haltedBegun)
  · exact (frozen_while_stopped stopped_halted _).2 _ (.refresh rfl (by decide))

/-- The entries that a new source over the same store would find. -/
def durableEntries (station : Station MemoryProvider) : Option (List (String × Signature)) :=
  station.source.cache.toOption.bind fun cache =>
    (cache.restart station.host.disk).1.toOption.map SignatureCache.snapshot

/-- Stopped as it is, the source loses its live cache to an enumeration of no keys, and its durable
one to a refresh. -/
theorem stopped_source_emptied :
    halted.Stopped ∧ haltedBegun.Stopped ∧
      haltedBegun.source.cache.toOption.map SignatureCache.snapshot = some [("a", ⟨"1"⟩)] ∧
      (leaves (Operation.first .full).act haltedBegun).source.cache.toOption.map
        SignatureCache.snapshot = some [] ∧
      durableEntries halted = some [("a", ⟨"1"⟩)] ∧
      durableEntries (leaves (Operation.start .refreshFromServer).act halted) = some [] := by
  refine ⟨stopped_halted, stopped_haltedBegun, ?_, ?_, ?_, ?_⟩
  · decide +kernel
  · decide +kernel
  · decide +kernel
  · decide +kernel

end SourceM

end Reconcile
