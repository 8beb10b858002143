import Reconcile.Proofs.Source.Events
import Reconcile.Proofs.Source.Silent
import Reconcile.Proofs.Source.Stopped
import Reconcile.Provider.Hooked

/-!
The two ways to stream within a sync. A change set, once it is there, stays as it is and shuts out the
full enumeration, which would empty the cache; an enumeration, once it began, shuts out the scan.
-/

namespace Reconcile

variable {P : Type}

def KeepsFound (before after : Station P) : Prop :=
  ∀ changes, before.source.changes? = some changes → after.source.changes? = some changes

def KeepsEnumerating (before after : Station P) : Prop :=
  ∀ queue, before.source.streaming = .full queue → ∃ left, after.source.streaming = .full left

theorem onward_keepsFound : Onward (KeepsFound (P := P)) where
  refl _ _ := id
  trans early late changes found := late changes (early changes found)

theorem onward_keepsEnumerating : Onward (KeepsEnumerating (P := P)) where
  refl _ queue streaming := ⟨queue, streaming⟩
  trans early late queue streaming := by
    obtain ⟨left, streams⟩ := early queue streaming
    exact late left streams

theorem KeepsFound.of_same {before after : Station P}
    (same : after.source.streaming = before.source.streaming) : KeepsFound before after := by
  intro changes found
  rwa [Source.changes?, same]

theorem KeepsEnumerating.of_same {before after : Station P}
    (same : after.source.streaming = before.source.streaming) : KeepsEnumerating before after :=
  fun queue streaming => ⟨queue, same.trans streaming⟩

def Refuses {α : Type} (operation : SourceM P α) (station : Station P) : Prop :=
  ∃ error, operation station = .error error station

def FailsAside {α : Type} (operation : SourceM P α) (station : Station P) : Prop :=
  ∃ error left, operation station = .error error left ∧
    left.source.cache = station.source.cache ∧ left.source.streaming = station.source.streaming

theorem Refuses.aside {α : Type} {operation : SourceM P α} {station : Station P}
    (refuses : Refuses operation station) : FailsAside operation station := by
  obtain ⟨error, failed⟩ := refuses
  exact ⟨error, station, failed, rfl, rfl⟩

theorem FailsAside.of_within {α : Type} {parts : List Part} {operation : SourceM P α}
    {station left : Station P} {error : SyncFailure} (failed : operation station = .error error left)
    (within : Within parts station left) (cache : .cache ∉ parts) (streaming : .streaming ∉ parts) :
    FailsAside operation station :=
  ⟨error, left, failed, within.cache cache, within.streaming streaming⟩

namespace SourceM

variable [Provider P] {station : Station P}

/-! ### With a change set -/

theorem keepsFound_nextOfBucket (bucket : ChangeBucket) (keys : List String) :
    Keeps (KeepsFound (P := P)) (nextOfBucket bucket keys) := by
  have onward := onward_keepsFound (P := P)
  have stays : ∀ {α : Type} {operation : SourceM P α}, Stays [] operation →
      Keeps KeepsFound operation :=
    fun stays station => .of_same ((stays station).streaming List.not_mem_nil)
  have moves : ∀ keys, Keeps (KeepsFound (P := P)) (moveCursor bucket keys) := by
    intro keys station changes found
    obtain ⟨cursors, streaming⟩ := streaming_of_found found
    rw [leaves_of_ok (moveCursor_eq streaming bucket keys)]
    rfl
  induction keys with
  | nil => exact onward.keeps_bind (stays stays_poll) fun _ => onward.keeps_pure _
  | cons key rest ih =>
    refine onward.keeps_bind (stays stays_poll) fun _ => onward.keeps_bind (moves rest) fun _ =>
      onward.keeps_bind (stays (stays_itemOf bucket key)) fun item => ?_
    cases item with
    | none => exact ih
    | some item => exact onward.keeps_pure _

theorem scanOnce_resting (resting : station.source.report.standing = .resting) :
    Refuses scanOnce station :=
  ⟨_, bind_of_error (requireRunning_resting resting _) _⟩

theorem keepsFound_ask (bucket : ChangeBucket) (restarts : Bool) :
    Keeps (KeepsFound (P := P)) (ask (.bucket bucket) restarts) := by
  intro station changes found
  by_cases resting : station.source.report.standing = .resting
  · obtain ⟨error, failed⟩ := scanOnce_resting resting
    rwa [leaves_of_error (ask_unscanned failed bucket restarts)]
  · obtain ⟨cursors, streaming⟩ := streaming_of_found found
    rw [leaves, ask_scanned resting streaming, ← leaves]
    exact keepsFound_nextOfBucket bucket _ _ changes rfl

theorem scanOnce_enumerating {queue : List String}
    (streaming : station.source.streaming = .full queue) : Refuses scanOnce station := by
  by_cases resting : station.source.report.standing = .resting
  · exact scanOnce_resting resting
  · rw [Refuses, scanOnce, bind_of_ok (requireRunning_ok resting _), bind_of_ok (source_eq _), streaming]
    exact ⟨_, rfl⟩

theorem found_of_scanOnce {left : Station P} (ran : scanOnce station = .ok () left) :
    left.source.report.standing ≠ .resting ∧ ∃ changes, left.source.changes? = some changes := by
  by_cases resting : station.source.report.standing = .resting
  · obtain ⟨error, failed⟩ := scanOnce_resting resting
    cases failed.symm.trans ran
  · cases streaming : station.source.streaming with
    | incremental changes cursors =>
      cases (scanOnce_scanned resting streaming).symm.trans ran
      exact ⟨resting, changes, by rw [Source.changes?, streaming]⟩
    | full queue =>
      obtain ⟨error, failed⟩ := scanOnce_enumerating streaming
      cases failed.symm.trans ran
    | idle =>
      cases scanned : scan station with
      | error error between =>
        rw [scanOnce_eq resting streaming, bind_of_error scanned] at ran
        cases ran
      | ok changes between =>
        cases (scanOnce_of_scan resting streaming scanned).symm.trans ran
        have stays : Stays (P := P) [] scan := stays_scan
        refine ⟨?_, changes, rfl⟩
        show between.source.report.standing ≠ .resting
        rwa [(stays.within scanned).report List.not_mem_nil]

theorem found_of_ask {bucket : ChangeBucket} {restarts : Bool} {answer : Option OutgoingItem}
    {left : Station P} (ran : ask (.bucket bucket) restarts station = .ok answer left) :
    ∃ changes, left.source.changes? = some changes := by
  cases scanned : scanOnce station with
  | error error between => cases (ask_unscanned scanned bucket restarts).symm.trans ran
  | ok _ between =>
    obtain ⟨begun, changes, found⟩ := found_of_scanOnce scanned
    obtain ⟨cursors, streaming⟩ := streaming_of_found found
    rw [ask_of_scanOnce scanned begun streaming] at ran
    have kept := keepsFound_ask bucket restarts between changes found
    rw [leaves_of_ok ran] at kept
    exact ⟨changes, kept⟩

theorem nextEnumerated_found {changes : ChangeSet} (found : station.source.changes? = some changes) :
    Refuses nextEnumerated station := by
  obtain ⟨cursors, streaming⟩ := streaming_of_found found
  rw [Refuses, nextEnumerated, bind_of_ok (source_eq _), streaming]
  by_cases calm : station.Calm
  · exact ⟨_, bind_of_ok (poll_of_calm calm) _⟩
  · exact ⟨_, bind_of_error (poll_of_stopped calm) _⟩

theorem askFull_found {changes : ChangeSet} (found : station.source.changes? = some changes)
    (restarts : Bool) : Refuses (ask .full restarts) station := by
  cases restarts with
  | true => exact startEnumeration_found found
  | false => exact nextEnumerated_found found

/-! ### In a full enumeration -/

theorem keepsEnumerating_nextReadable (keys : List String) :
    Keeps (KeepsEnumerating (P := P)) (nextReadable keys) := by
  have onward := onward_keepsEnumerating (P := P)
  have stays : ∀ {α : Type} {operation : SourceM P α}, Stays [] operation →
      Keeps KeepsEnumerating operation :=
    fun stays station => .of_same ((stays station).streaming List.not_mem_nil)
  have sets : ∀ keys, Keeps (KeepsEnumerating (P := P)) (setStreaming (.full keys)) :=
    fun keys station _ _ => ⟨keys, rfl⟩
  induction keys with
  | nil => exact onward.keeps_bind (stays stays_poll) fun _ => onward.keeps_pure _
  | cons key rest ih =>
    refine onward.keeps_bind (stays stays_poll) fun _ => onward.keeps_bind (sets rest) fun _ =>
      onward.keeps_bind (stays (stays_load key .full)) fun item => ?_
    cases item with
    | none => exact ih
    | some item => exact onward.keeps_pure _

theorem keepsEnumerating_nextEnumerated :
    Keeps (KeepsEnumerating (P := P)) nextEnumerated := by
  have onward := onward_keepsEnumerating (P := P)
  intro station queue streaming
  rw [nextEnumerated, leaves_bind_of_ok (source_eq _), streaming]
  exact keepsEnumerating_nextReadable queue station queue streaming

theorem ask_enumerating {queue : List String} (streaming : station.source.streaming = .full queue)
    (bucket : ChangeBucket) (restarts : Bool) : Refuses (ask (.bucket bucket) restarts) station := by
  obtain ⟨error, failed⟩ := scanOnce_enumerating streaming
  exact ⟨error, ask_unscanned failed bucket restarts⟩

theorem keepsEnumerating_startEnumeration :
    Keeps (KeepsEnumerating (P := P)) startEnumeration := by
  have onward := onward_keepsEnumerating (P := P)
  have stays : ∀ {α : Type} {operation : SourceM P α}, Stays [.cache] operation →
      Keeps KeepsEnumerating operation :=
    fun stays station => .of_same ((stays station).streaming (by simp))
  have sets : ∀ keys, Keeps (KeepsEnumerating (P := P)) (setStreaming (.full keys)) :=
    fun keys station _ _ => ⟨keys, rfl⟩
  intro station queue streaming
  by_cases resting : station.source.report.standing = .resting
  · rw [startEnumeration, leaves_of_error (bind_of_error (requireRunning_resting resting _) _)]
    exact ⟨queue, streaming⟩
  · have unscanned : station.source.changes? = none := by rw [Source.changes?, streaming]
    rw [leaves, startEnumeration_eq resting unscanned, ← leaves]
    refine onward.keeps_bind (stays (stays_expect _)) (fun replies => ?_) _ queue streaming
    exact onward.keeps_bind (stays (stays_collectKeys replies)) fun keys =>
      onward.keeps_bind (stays (stays_updateCache (by simp) _)) fun _ =>
      onward.keeps_bind (sets keys) fun _ => keepsEnumerating_nextEnumerated

/-! ### Without keys -/

/-- The keys of a provider do not get to its source: the provider refuses them, or the flag is up
when one of them is polled. -/
inductive Unlisted (station : Station P) : Prop
  | refused {refusal : Refusal}
      (refused : (Provider.keys station.source.provider).value = .error refusal)
  | cut {replies : List (Reply String)}
      (listed : (Provider.keys station.source.provider).value = .ok replies)
      (cut : (station.heard (Provider.keys station.source.provider).cancels).Cut replies)

theorem scan_failed (unlisted : Unlisted station) : ∃ error left, scan station = .error error left := by
  cases cached : station.source.cache with
  | error cause => exact ⟨_, _, bind_of_error (cache_missing cached) _⟩
  | ok cache =>
    cases unlisted with
    | refused refused =>
      obtain ⟨left, failed⟩ := scan_unlisted cached refused
      exact ⟨_, left, failed⟩
    | cut listed cut =>
      obtain ⟨keyed, raised⟩ := cut
      have lost := ChangeScan.run_cut (gives_scanContext station.source false) keyed cache.snapshot
        (raised.imp_left (Bool.not_eq_false _).mp)
      rw [scan_ran station cached listed]
      change (ChangeScan.run _ _ _ (if _ then _ else _)).1 = _ at lost
      generalize ChangeScan.run (scanContext station.source false) _ cache.snapshot _ = ran at lost
      obtain ⟨found, host⟩ := ran
      obtain rfl : found = none := lost
      exact ⟨_, _, rfl⟩

theorem scanOnce_unlisted (unlisted : Unlisted station) (unscanned : station.source.changes? = none) :
    ∃ error left, scanOnce station = .error error left := by
  by_cases resting : station.source.report.standing = .resting
  · obtain ⟨error, failed⟩ := scanOnce_resting resting
    exact ⟨error, station, failed⟩
  · rw [Source.changes?] at unscanned
    cases streaming : station.source.streaming with
    | incremental changes cursors => rw [streaming] at unscanned; cases unscanned
    | full queue =>
      obtain ⟨error, failed⟩ := scanOnce_enumerating streaming
      exact ⟨error, station, failed⟩
    | idle =>
      obtain ⟨error, left, failed⟩ := scan_failed unlisted
      rw [scanOnce_eq resting streaming]
      exact ⟨error, left, bind_of_error failed _⟩

theorem failsAside_ask {error : SyncFailure} {left : Station P}
    (failed : scanOnce station = .error error left) (bucket : ChangeBucket) (restarts : Bool) :
    FailsAside (ask (.bucket bucket) restarts) station := by
  have asked := ask_unscanned failed bucket restarts
  by_cases resting : station.source.report.standing = .resting
  · obtain ⟨other, refused⟩ := scanOnce_resting resting
    cases refused.symm.trans failed
    exact Refuses.aside ⟨error, asked⟩
  · cases streaming : station.source.streaming with
    | incremental changes cursors =>
      cases (scanOnce_scanned resting streaming).symm.trans failed
    | full queue =>
      exact (ask_enumerating streaming bucket restarts).aside
    | idle =>
      rw [scanOnce_eq resting streaming] at failed
      have scans : Stays (P := P) [] scan := stays_scan
      have within := scans station
      rcases bind_error failed with unfound | ⟨changes, between, -, unset⟩
      · rw [leaves_of_error unfound] at within
        exact .of_within asked within List.not_mem_nil List.not_mem_nil
      · cases unset

theorem failsAside_startEnumeration (unlisted : Unlisted station) :
    FailsAside startEnumeration station := by
  by_cases resting : station.source.report.standing = .resting
  · exact Refuses.aside ⟨_, bind_of_error (requireRunning_resting resting _) _⟩
  · cases unscanned : station.source.changes? with
    | some changes => exact Refuses.aside (startEnumeration_found unscanned)
    | none =>
      have heard := station.within_heard (Provider.keys station.source.provider).cancels
      have begins := startEnumeration_eq resting unscanned
      cases unlisted with
      | refused refused =>
        rw [refused, bind_of_error (expect_error _ _)] at begins
        exact .of_within begins heard List.not_mem_nil List.not_mem_nil
      | @cut replies listed cut =>
        have stays : Stays (P := P) [] (collectKeys replies) := stays_collectKeys replies
        obtain ⟨left, failed⟩ := collectKeys_cut cut
        have collects := stays (station.heard (Provider.keys station.source.provider).cancels)
        rw [leaves_of_error failed] at collects
        rw [listed, bind_of_ok (expect_ok _), bind_of_error failed] at begins
        exact .of_within begins (heard.trans collects) List.not_mem_nil List.not_mem_nil

omit [Provider P] in
theorem collectKeys_whole {replies : List (Reply String)} (whole : ¬ station.Cut replies) :
    ∃ keys left, collectKeys replies station = .ok keys left := by
  by_cases keyless : replies = []
  · subst keyless
    exact ⟨[], station, rfl⟩
  · obtain ⟨calm, quiet⟩ := not_or.mp (not_and.mp whole keyless)
    have silent : ∀ reply ∈ replies, reply.cancels = false := fun reply member =>
      (Bool.not_eq_true _).mp fun cancels => quiet ⟨reply, member, cancels⟩
    have rests : station.Rests fun _ => True := ⟨trivial, Decidable.not_not.mp calm⟩
    have ends := RestsOver.collectKeys silent station rests
    have gives := gives_collectKeys replies station
    cases ran : collectKeys replies station with
    | ok keys left => exact ⟨keys, left, rfl⟩
    | error error left =>
      rw [Ends, yields_of_error ran, leaves_of_error ran] at ends
      rw [Gives, Ends, yields_of_error ran, leaves_of_error ran] at gives
      exact absurd ends.1.calm gives

theorem startEnumeration_listed {cache : SignatureCache} (listed : ¬ Unlisted station)
    (begun : station.source.report.standing ≠ .resting)
    (unscanned : station.source.changes? = none) (cached : station.source.cache = .ok cache) :
    (leaves startEnumeration station).source.cache = .ok cache.clear ∧
      ∃ queue, (leaves startEnumeration station).source.streaming = .full queue := by
  have heard := station.within_heard (Provider.keys station.source.provider).cancels
  rw [leaves, startEnumeration_eq begun unscanned, ← leaves]
  cases replied : (Provider.keys station.source.provider).value with
  | error refusal => exact absurd (.refused replied) listed
  | ok replies =>
    obtain ⟨keys, left, collected⟩ := collectKeys_whole fun cut => listed (.cut replied cut)
    have stays : Stays (P := P) [] (collectKeys replies) := stays_collectKeys replies
    have within := heard.trans (stays.within collected)
    have held : left.source.cache = .ok cache := (within.cache List.not_mem_nil).trans cached
    have streams : Stays (P := P) [.streaming] nextEnumerated := stays_nextEnumerated (by simp)
    rw [leaves_bind_of_ok (expect_ok _), leaves_bind_of_ok collected,
      leaves_bind_of_ok (updateCache_ok left held _), leaves_bind_of_ok (setStreaming_full keys _)]
    exact ⟨(streams _).cache (by simp), keepsEnumerating_nextEnumerated _ keys rfl⟩

end SourceM

/-! ### Over a sync -/

namespace Event

variable [Provider P] {station : Station P}

theorem keepsFound_after {event : Event P} (goesOn : event.goesOn = true) (station : Station P) :
    KeepsFound station (event.after station) := by
  cases calls : event.stream? with
  | none => exact .of_same (streaming_after goesOn calls station)
  | some call =>
    obtain ⟨stream, restarts⟩ := call
    rw [after_of_stream calls]
    cases stream with
    | bucket bucket => exact SourceM.keepsFound_ask bucket restarts station
    | full =>
      intro changes found
      obtain ⟨error, refused⟩ := SourceM.askFull_found found restarts
      rwa [leaves_of_error refused]

theorem keepsEnumerating_after {event : Event P} (goesOn : event.goesOn = true) (station : Station P) :
    KeepsEnumerating station (event.after station) := by
  cases calls : event.stream? with
  | none => exact .of_same (streaming_after goesOn calls station)
  | some call =>
    obtain ⟨stream, restarts⟩ := call
    rw [after_of_stream calls]
    cases stream with
    | bucket bucket =>
      intro queue streaming
      obtain ⟨error, refused⟩ := SourceM.ask_enumerating streaming bucket restarts
      rw [leaves_of_error refused]
      exact ⟨queue, streaming⟩
    | full =>
      cases restarts with
      | true => exact SourceM.keepsEnumerating_startEnumeration station
      | false => exact SourceM.keepsEnumerating_nextEnumerated station

def Spares (event : Event P) (station : Station P) (key : String) : Prop :=
  match event with
  | act operation => operation = .first .full ∨ operation.Spares station key
  | _ => True

def SpareAll (key : String) : List (Event P) → Station P → Prop
  | [], _ => True
  | event :: rest, station => event.Spares station key ∧ SpareAll key rest (event.after station)

theorem holds_after {changes : ChangeSet} {key : String} {signature : Signature} {event : Event P}
    (found : station.source.changes? = some changes) (holds : Operation.Holds station key signature)
    (spares : event.Spares station key) : Operation.Holds (event.after station) key signature := by
  cases event with
  | act operation =>
    rcases spares with rfl | spares
    · obtain ⟨error, refused⟩ := SourceM.startEnumeration_found found
      rwa [after, Operation.act, Operation.leaves_discard, SourceM.first, leaves_of_error refused]
    · exact Operation.holds_step holds spares
  | transfer side command key =>
    obtain ⟨begun, cache, cached, entry⟩ := holds
    rw [after, leaves_of_ok (SourceM.recordTransfer_eq side command key station)]
    refine ⟨?_, cache, ?_, entry⟩
    · rwa [Station.source_recorded, SourceReport.standing_record]
    · rwa [Station.source_recorded]
  | note notice => exact holds
  | edit change => exact holds
  | signal change => exact holds
  | share flag => exact holds

/-- An entry stays over events that spare its key: there is nothing that empties the cache. -/
theorem holds_runAll {events : List (Event P)} {changes : ChangeSet} {key : String}
    {signature : Signature} (goesOn : ∀ event ∈ events, event.goesOn = true)
    (found : station.source.changes? = some changes) (holds : Operation.Holds station key signature)
    (spared : SpareAll key events station) :
    Operation.Holds (runAll events station) key signature := by
  induction events generalizing station with
  | nil => exact holds
  | cons event rest ih =>
    exact ih (fun later member => goesOn later (List.mem_cons_of_mem _ member))
      (keepsFound_after (goesOn event List.mem_cons_self) station changes found)
      (holds_after found holds spared.1) spared.2

end Event

/-- The two ways to stream within a sync exclude each other. Once there is a change set, it stays, and
the full enumeration fails at once and leaves everything as it was, so that no entry of the cache is
lost to it. Once a full enumeration began, it goes on, and no bucket is scanned for. A scan that fails,
and an enumeration that does not get its keys, leave the mode and the cache; one that gets them
empties the cache. -/
theorem SourceM.modes_exclude [Provider P] {station : Station P} {events : List (Event P)}
    (goesOn : ∀ event ∈ events, event.goesOn = true) :
    let final := Event.runAll events station
    (∀ changes, station.source.changes? = some changes →
      final.source.changes? = some changes ∧ (∀ restarts, Refuses (ask .full restarts) final) ∧
      ∀ key signature, Operation.Holds station key signature → Event.SpareAll key events station →
        Operation.Holds final key signature) ∧
    (∀ queue, station.source.streaming = .full queue →
      (∃ left, final.source.streaming = .full left) ∧
      ∀ bucket restarts, Refuses (ask (.bucket bucket) restarts) final) ∧
    (∀ bucket restarts answer left, ask (.bucket bucket) restarts final = .ok answer left →
      ∃ changes, left.source.changes? = some changes) ∧
    (∀ cache, ¬ Unlisted final → final.source.report.standing ≠ .resting →
      final.source.changes? = none → final.source.cache = .ok cache →
      (leaves (ask .full true) final).source.cache = .ok cache.clear ∧
      ∃ queue, (leaves (ask .full true) final).source.streaming = .full queue) ∧
    (Unlisted final → FailsAside (ask .full true) final ∧
      (final.source.changes? = none →
        ∀ bucket restarts, FailsAside (ask (.bucket bucket) restarts) final)) ∧
    ∀ error left, scanOnce final = .error error left →
      ∀ bucket restarts, FailsAside (ask (.bucket bucket) restarts) final := by
  intro final
  have kept := Event.keeps_runAll onward_keepsFound
    (fun event member => Event.keepsFound_after (goesOn event member)) station
  have goes := Event.keeps_runAll onward_keepsEnumerating
    (fun event member => Event.keepsEnumerating_after (goesOn event member)) station
  refine ⟨fun changes found => ?_, fun queue streaming => ?_, fun _ _ _ _ => found_of_ask,
    fun cache listed begun unscanned cached => startEnumeration_listed listed begun unscanned cached,
    fun unlisted => ⟨failsAside_startEnumeration unlisted, fun unscanned bucket restarts => ?_⟩,
    fun _ _ failed => failsAside_ask failed⟩
  · exact ⟨kept changes found, askFull_found (kept changes found), fun _ _ holds spared =>
      Event.holds_runAll goesOn found holds spared⟩
  · obtain ⟨left, streams⟩ := goes queue streaming
    exact ⟨⟨left, streams⟩, ask_enumerating streams⟩
  · obtain ⟨error, left, failed⟩ := scanOnce_unlisted unlisted unscanned
    exact failsAside_ask failed bucket restarts

/-! ### The modes of one source -/

namespace SourceM

def opened (provider : HookedProvider) : Station HookedProvider :=
  leaves (start .twoWay) (Source.make { name := "contact" } provider (.ok oneEntry) {})

theorem cached_opened (provider : HookedProvider) :
    (opened provider).source.cache = .ok oneEntry := by
  have closed : Standing.resting ≠ .running := by decide
  rw [opened, leaves_of_ok (start_ok rfl closed (by decide))]
  rfl

def twoItems (hooks : Hooks) : HookedProvider :=
  { items := .ofList [("a", []), ("b", [])], hooks }

def passing : List (Event HookedProvider) :=
  [.act (.verdict .replace { id := "b", code := 200 }), .act (.next (.bucket .updated)),
    .edit fun provider => { provider with extraKeys := ["c"] }]

theorem goesOn_passing : ∀ event ∈ passing, event.goesOn = true := by
  simp [passing, Event.goesOn, Operation.goesOn]

def scannedOpened : Station HookedProvider :=
  leaves (ask (.bucket .added) true) (opened (twoItems {}))

def enumeratingOpened : Station HookedProvider := leaves (ask .full true) (opened (twoItems {}))

/-- Sources whose provider refuses to give its keys, or raises the flag at the second of them. -/
def refusedOpened : Station HookedProvider :=
  opened (twoItems { failures := [((.keys, ""), .failed "offline")] })

def cutOpened : Station HookedProvider := opened (twoItems { cancels := [(.nextKey, "b")] })

theorem found_scannedOpened : scannedOpened.source.changes? = some
    { keys := ["a", "b"], added := ["b"], updated := ["a"], previous := [("a", ⟨"1"⟩)] } := by
  decide +kernel

theorem unlisted_refusedOpened : Unlisted refusedOpened :=
  .refused (show _ = Except.error (Refusal.failed "offline") from rfl)

theorem unlisted_cutOpened : Unlisted cutOpened :=
  .cut (show _ = Except.ok [⟨"a", false⟩, ⟨"b", true⟩] from rfl)
    ⟨by simp, .inr ⟨⟨"b", true⟩, by simp, rfl⟩⟩

theorem modes_exclude_opened :
    (Event.runAll passing scannedOpened).source.changes? = scannedOpened.source.changes? ∧
      (∀ restarts, Refuses (ask .full restarts) (Event.runAll passing scannedOpened)) ∧
      Operation.Holds (Event.runAll passing scannedOpened) "a" ⟨"1"⟩ ∧
      (∀ bucket restarts, Refuses (ask (.bucket bucket) restarts)
        (Event.runAll passing enumeratingOpened)) ∧
      FailsAside (ask .full true) refusedOpened ∧
      FailsAside (ask (.bucket .deleted) false) cutOpened := by
  have streaming : enumeratingOpened.source.streaming = .full ["b"] := by decide +kernel
  have within := stays_ask .added true (opened (twoItems {}))
  have held : scannedOpened.source.cache = .ok oneEntry := by
    rw [scannedOpened, within.cache (by simp), cached_opened]
  have holds : Operation.Holds scannedOpened "a" ⟨"1"⟩ := ⟨by decide +kernel, oneEntry, held, rfl⟩
  obtain ⟨stays, refuses, keeps⟩ := (modes_exclude goesOn_passing).1 _ found_scannedOpened
  refine ⟨stays.trans found_scannedOpened.symm, refuses, keeps "a" _ holds ?_,
    ((modes_exclude goesOn_passing).2.1 _ streaming).2, ?_, ?_⟩
  · exact ⟨.inr (show "b" ≠ "a" by decide), .inr trivial, trivial, trivial⟩
  · exact ((@modes_exclude _ _ refusedOpened [] nofun).2.2.2.2.1 unlisted_refusedOpened).1
  · exact ((@modes_exclude _ _ cutOpened [] nofun).2.2.2.2.1 unlisted_cutOpened).2
      (by decide +kernel) _ _

end SourceM

end Reconcile
