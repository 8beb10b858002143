import Reconcile.Proofs.Provider.Memory
import Reconcile.Proofs.Session.Answered
import Reconcile.Server.Queued

/-!
Refreshes from the server. The durable entries are gone before the items are, and follow what the
server adds from then on, so that wherever a refresh stops, no item that it deleted is deleted on the
server by the next sync. A refresh whose first commit fails deletes nothing; it leaves the durable
entries too, unless that commit was struck late.
-/

namespace Reconcile

variable {P L : Type} [Provider P]

/-! ### Changes of the server -/

def Backed (holds : P → String → Prop) (provider : P) (entries : List (String × Signature)) : Prop :=
  ∀ key, (entries.lookup key).isSome → holds provider key

namespace ActsAsMap

variable {holds : P → String → Prop} {provider after : P} {entries : List (String × Signature)}
  {key : String}

omit [Provider P] in
theorem backed_place (backed : Backed holds provider entries)
    (wrote : ∀ other, holds after other ↔ other = key ∨ holds provider other) (signature : Signature) :
    Backed holds after (Entries.place key signature entries) := by
  intro other listed
  rw [Entries.lookup_place] at listed
  refine (wrote other).mpr ?_
  split at listed
  · exact .inl ‹_›
  · exact .inr (backed other listed)

omit [Provider P] in
theorem backed_without (backed : Backed holds provider entries)
    (wrote : ∀ other, holds after other ↔ other ≠ key ∧ holds provider other) :
    Backed holds after (Entries.without key entries) := by
  intro other listed
  rw [Entries.lookup_without] at listed
  refine (wrote other).mpr ?_
  split at listed
  · cases listed
  · exact ⟨‹_›, backed other listed⟩

omit [Provider P] in
theorem backed_refused (backed : Backed holds provider entries)
    (same : ∀ other, holds after other ↔ holds provider other) : Backed holds after entries :=
  fun other listed => (same other).mpr (backed other listed)

theorem keptInStep (acts : ActsAsMap holds) : KeptInStep (Backed holds) where
  insert provider entries content backed := by
    constructor
    · exact fun key done => backed_place backed (acts.insert_ok _ _ key done) _
    · exact fun error refused => backed_refused backed (acts.insert_error _ _ error refused)
  update provider entries key content backed := by
    constructor
    · exact fun _ done => backed_place backed (acts.update_ok _ _ _ done) _
    · exact fun error refused => backed_refused backed (acts.update_error _ _ _ error refused)
  delete provider entries key backed := by
    constructor
    · exact fun _ done => backed_without backed (acts.delete_ok _ _ done)
    · exact fun error refused => backed_refused backed (acts.delete_error _ _ error refused)

end ActsAsMap

theorem LogsWrites.writeAll {log : P → List ProviderWrite} (logs : LogsWrites log)
    (changes : List ServerChange) (provider : P) (entries : List (String × Signature)) :
    ∃ writes, log (ServerChange.writeAll changes provider entries).1 = log provider ++ writes ∧
      ProviderWrite.deleteAll ∉ writes := by
  refine ⟨changes.filterMap ServerChange.call?, ?_, ?_⟩
  · rw [ServerChange.provider_writeAll, ServerChange.log_provideAll logs]
  · rw [List.mem_filterMap]
    rintro ⟨⟨command, key, content⟩, -, called⟩
    cases command <;> cases called

theorem ActsAsMap.unheld_of_deleted {holds : P → String → Prop} (acts : ActsAsMap holds)
    {source : Source P} {replies : List (Reply String)} {previous : List (String × Signature)}
    {host left : Host} {changes : ChangeSet} {key : String}
    (distinct : (previous.map Prod.fst).Nodup)
    (enumerated : (Provider.keys source.provider).value = .ok replies)
    (scanned : ChangeScan.run (SourceM.scanContext source false) replies previous host =
      (some changes, left)) (deleted : key ∈ changes.deleted) :
    ¬ holds source.provider key ∧ (previous.lookup key).isSome := by
  rw [ChangeScan.run_of_some (SourceM.gives_scanContext source false) distinct replies scanned,
    ChangeScan.mem_deleted_iff] at deleted
  obtain ⟨gone, -, known⟩ := deleted
  refine ⟨fun held => gone ?_, Option.isSome_iff_ne_none.mpr known⟩
  exact ChangeScan.mem_present.mpr ((acts.keys _ _ enumerated key).mp held)

/-! ### Refreshes -/

namespace Session

/-- What it takes for a refresh to come to the commit of its emptied cache. -/
structure Attempts (session : Session) (before : Station P) : Prop where
  enabled : before.source.config.enabled = true
  lowered : before.host.isRaised session.flag = false
  closed : before.source.report.standing ≠ .running

/-- How a refresh went: nothing was deleted, and the durable entries are as they were; or nothing was
deleted, but the commit of the empty cache was struck late; or the items were deleted while there was
no durable entry, and the first of the changes of the server were written, which the durable entries
follow in the end, or not at all. -/
inductive Refreshed (session : Session) (before after : Station P) (cache : SignatureCache) : Prop
  | untouched (provider : after.source.provider = before.source.provider)
      (durable : SameDurable before after)
      (early : session.Attempts before → ¬ cache.clear.StruckLate before.host.disk)
  | struck {live : SignatureCache} (attempts : session.Attempts before)
      (late : cache.clear.StruckLate before.host.disk)
      (provider : after.source.provider = before.source.provider)
      (kept : after.source.cache = .ok live) (durable : live.durable after.host.disk = [])
  | deleted {emptied : Station P} {live : SignatureCache} (taken : List ServerChange)
      (saved : (cache.clear.commit before.host.disk).1 = .ok ())
      (deletes : SourceM.Deletes (before.sharing session.flag) emptied)
      (provider : after.source.provider =
        (ServerChange.writeAll taken (Provider.deleteAll before.source.provider).2 []).1)
      (kept : after.source.cache = .ok live)
      (durable : live.durable after.host.disk = [] ∨ live.durable after.host.disk =
        (ServerChange.writeAll taken (Provider.deleteAll before.source.provider).2 []).2)

variable [ServerLink L] {session : Session} {mode : Option SyncMode} {exchange : Exchange P L}
  {opened : Station P} {cache : SignatureCache}

theorem Ran.downloaded {noted : Station P} (ran : Ran session mode exchange opened noted)
    (silent : (exchange.station.source.modeFor mode).sends = false)
    {entries : List (String × Signature)} (caches : opened.Caches entries) :
    ∃ taken, Written taken opened noted entries := by
  have downloads : Ends (ExchangeM.exchange (exchange.station.source.modeFor mode))
      (beginning exchange opened) fun _ left => ∃ taken, Written taken opened left.station entries := by
    rw [ExchangeM.exchange_of_silent silent]
    split
    · refine (ExchangeM.takes_download caches).mono ?_
      rintro outcome left ⟨more, taken, -, -, -, written, -⟩
      exact ⟨taken, written⟩
    · exact .of_ok rfl ⟨[], caches.unwritten⟩
  obtain ⟨taken, written⟩ := downloads
  exact ⟨taken, written.then_within ran.continued.within⟩

theorem Opens.refreshed (opens : Opens session mode exchange opened)
    (refreshes : exchange.station.source.modeFor mode = .refreshFromServer)
    (cached : exchange.station.source.cache = .ok cache) :
    Refreshed session exchange.station (session.sync mode exchange).exchange.station cache := by
  have begins := opens.begins
  rw [refreshes] at begins
  have shared : (exchange.station.sharing session.flag).source.cache = .ok cache := cached
  obtain ⟨emptied, disk, made, deletes, same⟩ := SourceM.start_refreshes shared begins
  have provider : opened.source.provider = (Provider.deleteAll exchange.station.source.provider).2 := by
    rw [same]
    rfl
  have held : opened.source.cache = .ok emptied := by
    rw [same]
    rfl
  have opened_disk : opened.host.disk = disk := by
    rw [same]
    exact Station.disk_heard _ _
  obtain ⟨_, kept, empty, gone⟩ := deletes.cleared
  obtain rfl := Except.ok.inj kept
  obtain ⟨noted, ran⟩ := opens.ran
  obtain ⟨unsaved, -⟩ := opens.unsaved ran.continued
  obtain ⟨taken, final, ⟨-, last, holds, entries⟩, -⟩ :=
    ran.downloaded (by rw [refreshes]; rfl) ⟨opens.begun, emptied, held, empty⟩
  have still : last.durable noted.host.disk = [] := by
    obtain ⟨_, stays, same⟩ := unsaved.durable held
    obtain rfl := Except.ok.inj (holds.symm.trans stays)
    rw [same, unsaved.disk, opened_disk]
    exact gone
  obtain ⟨live, kept, saved⟩ := SourceM.durable_finish noted holds
  rw [provider] at final entries
  rw [still, entries, ← ran.station] at saved
  rw [← ran.station] at kept
  refine .deleted taken (congrArg Prod.fst made) deletes ?_ kept (saved.imp_right And.right)
  have closes : Stays (P := P) _ SourceM.finish := SourceM.stays_finish
  rw [ran.station, (closes noted).provider (by simp), final]

theorem refreshed_of_attempts (attempts : session.Attempts exchange.station)
    (refreshes : exchange.station.source.modeFor mode = .refreshFromServer)
    (cached : exchange.station.source.cache = .ok cache) :
    Refreshed session exchange.station (session.sync mode exchange).exchange.station cache := by
  obtain ⟨enabled, lowered, closed⟩ := attempts
  have shared : (exchange.station.sharing session.flag).source.cache = .ok cache := cached
  cases made : cache.clear.commit exchange.station.host.disk with
  | mk outcome rest =>
    obtain ⟨after, disk⟩ := rest
    cases outcome with
    | error cause =>
      obtain ⟨left, refused, provider, kept, saved⟩ := SourceM.start_of_refusal shared closed made
      rw [← refreshes] at refused
      rw [sync_of_refusal enabled lowered refused]
      obtain rfl := SignatureCache.commit_error made
      rcases Classical.em (cache.clear.StruckLate exchange.station.host.disk) with late | early
      · refine .struck ⟨enabled, lowered, closed⟩ late provider kept ?_
        rw [saved]
        exact (SignatureCache.durable_of_struckLate late made).trans cache.snapshot_clear
      · refine .untouched provider ⟨cache, cache.clear, cached, kept, ?_⟩ fun _ => early
        rw [saved, SignatureCache.durable_of_refused early made]
        exact cache.durable_update _ _
    | ok _ =>
      have deletes := SourceM.start_of_commit shared closed made
      generalize SourceM.committed _ after disk = emptied at deletes
      have begins := deletes.begins
      rw [SourceM.deleteItems_eq, ← refreshes, deletes.provider] at begins
      split at begins
      · obtain ⟨live, held, -, gone⟩ := deletes.cleared
        rw [sync_of_refusal enabled lowered begins]
        refine .deleted [] (congrArg Prod.fst made) deletes rfl held (.inl ?_)
        rw [Station.written, Station.disk_heard]
        exact gone
      · have opens : Opens session mode exchange _ := ⟨enabled, lowered, begins⟩
        exact opens.refreshed refreshes cached

theorem sync_refreshed (session : Session) (exchange : Exchange P L)
    (refreshes : exchange.station.source.modeFor mode = .refreshFromServer)
    (cached : exchange.station.source.cache = .ok cache) :
    Refreshed session exchange.station (session.sync mode exchange).exchange.station cache := by
  by_cases enabled : exchange.station.source.config.enabled = true
  · by_cases lowered : exchange.station.host.isRaised session.flag = false
    · by_cases running : exchange.station.source.report.standing = .running
      · have still : (exchange.station.sharing session.flag).source.report.standing = .running :=
          running
        rw [sync_of_refusal enabled lowered (SourceM.start_running still _)]
        exact .untouched rfl ⟨cache, cache, cached, cached, rfl⟩
          fun attempts => absurd running attempts.closed
      · exact refreshed_of_attempts ⟨enabled, lowered, running⟩ refreshes cached
    · have same : (session.sync mode exchange).exchange = exchange := by simp [sync, enabled, lowered]
      rw [same]
      exact .untouched rfl ⟨cache, cache, cached, cached, rfl⟩
        fun attempts => absurd attempts.lowered lowered
  · have same : (session.sync mode exchange).exchange = exchange := by simp [sync, enabled]
    rw [same]
    exact .untouched rfl ⟨cache, cache, cached, cached, rfl⟩
      fun attempts => absurd attempts.enabled enabled

namespace Refreshed

variable {before after : Station P} {live : SignatureCache}

theorem writes (went : Refreshed session before after cache) {log : P → List ProviderWrite}
    (logs : LogsWrites log) : ∃ writes,
      log after.source.provider = log before.source.provider ++ writes ∧
        (writes = [] ∨ ∃ later emptied, writes = .deleteAll :: later ∧
          ProviderWrite.deleteAll ∉ later ∧
            SourceM.Deletes (before.sharing session.flag) emptied) := by
  cases went with
  | untouched provider durable early =>
    exact ⟨[], by rw [provider, List.append_nil], .inl rfl⟩
  | struck attempts late provider kept durable =>
    exact ⟨[], by rw [provider, List.append_nil], .inl rfl⟩
  | @deleted emptied live taken saved deletes provider kept durable =>
    obtain ⟨later, adds, spares⟩ := logs.writeAll taken
      (Provider.deleteAll before.source.provider).2 []
    refine ⟨.deleteAll :: later, ?_, .inr ⟨later, emptied, rfl, spares, deletes⟩⟩
    rw [provider, adds, logs.deleteAll, List.append_assoc]
    rfl

theorem of_refused (went : Refreshed session before after cache)
    (cached : before.source.cache = .ok cache)
    (refused : (cache.clear.commit before.host.disk).1 ≠ .ok ()) :
    after.source.provider = before.source.provider ∧
      (SameDurable before after ↔
        (session.Attempts before → cache.clear.StruckLate before.host.disk →
          cache.durable before.host.disk = [])) := by
  cases went with
  | untouched provider durable early =>
    exact ⟨provider, iff_of_true durable fun attempts late => absurd late (early attempts)⟩
  | @struck live attempts late provider kept durable =>
    refine ⟨provider, ?_, ?_⟩
    · rintro ⟨_, _, was, is, same⟩ - -
      obtain rfl := Except.ok.inj (was.symm.trans cached)
      obtain rfl := Except.ok.inj (is.symm.trans kept)
      exact same.symm.trans durable
    · exact fun blank => ⟨cache, live, cached, kept, durable.trans (blank attempts late).symm⟩
  | deleted taken saved deletes provider kept durable => exact absurd saved refused

theorem durable_of_struckLate (went : Refreshed session before after cache)
    (kept : after.source.cache = .ok live)
    (refused : (cache.clear.commit before.host.disk).1 ≠ .ok ()) (attempts : session.Attempts before)
    (late : cache.clear.StruckLate before.host.disk) : live.durable after.host.disk = [] := by
  cases went with
  | untouched provider durable early => exact absurd late (early attempts)
  | struck attempts late provider holds durable =>
    obtain rfl := Except.ok.inj (holds.symm.trans kept)
    exact durable
  | deleted taken saved deletes provider holds durable => exact absurd saved refused

/-- An item from before that is durable afterwards is there afterwards. -/
theorem held_of_durable (went : Refreshed session before after cache)
    {holds : P → String → Prop} (acts : ActsAsMap holds) (kept : after.source.cache = .ok live)
    {key : String} (held : holds before.source.provider key)
    (known : ((live.durable after.host.disk).lookup key).isSome) :
    holds after.source.provider key := by
  cases went with
  | untouched provider durable early =>
    rw [provider]
    exact held
  | struck attempts late provider owns durable =>
    obtain rfl := Except.ok.inj (owns.symm.trans kept)
    rw [durable] at known
    cases known
  | deleted taken saved deletes provider owns durable =>
    obtain rfl := Except.ok.inj (owns.symm.trans kept)
    rcases durable with none | follows
    · rw [none] at known
      cases known
    · have start : Backed holds (Provider.deleteAll before.source.provider).2 [] := nofun
      rw [follows] at known
      rw [provider]
      exact acts.keptInStep.writeAll taken start key known

theorem cached (went : Refreshed session before after cache) :
    ∃ live, after.source.cache = .ok live := by
  cases went with
  | untouched provider durable early =>
    obtain ⟨_, live, -, kept, -⟩ := durable
    exact ⟨live, kept⟩
  | struck attempts late provider kept durable => exact ⟨_, kept⟩
  | deleted taken saved deletes provider kept durable => exact ⟨_, kept⟩

end Refreshed

/-- A refresh deletes all items at most once, before any other write and when there is no durable entry.
Where the empty cache cannot be made durable, it deletes nothing; and it changes no durable entry then,
unless that commit was struck late, which leaves none of them. And however it ends, a scan over what it
leaves takes no item for deleted that was there before. -/
theorem sync_refresh_spares_server (session : Session) (mode : Option SyncMode) (exchange : Exchange P L)
    (refreshes : exchange.station.source.modeFor mode = .refreshFromServer)
    (cached : exchange.station.source.cache = .ok cache) :
    let before := exchange.station
    let after := (session.sync mode exchange).exchange.station
    (∀ log : P → List ProviderWrite, LogsWrites log → ∃ writes,
      log after.source.provider = log before.source.provider ++ writes ∧
        (writes = [] ∨ ∃ later emptied, writes = .deleteAll :: later ∧
          ProviderWrite.deleteAll ∉ later ∧
            SourceM.Deletes (before.sharing session.flag) emptied)) ∧
      ((cache.clear.commit before.host.disk).1 ≠ .ok () →
        after.source.provider = before.source.provider ∧
          (SameDurable before after ↔
            (session.Attempts before → cache.clear.StruckLate before.host.disk →
              cache.durable before.host.disk = []))) ∧
      ∃ live, after.source.cache = .ok live ∧
        ((cache.clear.commit before.host.disk).1 ≠ .ok () → session.Attempts before →
          cache.clear.StruckLate before.host.disk → live.durable after.host.disk = []) ∧
        ∀ holds, ActsAsMap holds → ∀ replies host changes left,
          (Provider.keys after.source.provider).value = .ok replies →
          ChangeScan.run (SourceM.scanContext after.source false) replies
            (live.durable after.host.disk) host = (some changes, left) →
          ∀ key, holds before.source.provider key → key ∉ changes.deleted := by
  intro before after
  have went : Refreshed session before after cache := sync_refreshed session exchange refreshes cached
  obtain ⟨live, kept⟩ := went.cached
  refine ⟨fun log logs => went.writes logs, went.of_refused cached, live, kept,
    went.durable_of_struckLate kept, ?_⟩
  intro holds acts replies host changes left enumerated scanned key held gone
  obtain ⟨unheld, known⟩ := acts.unheld_of_deleted (live.nodup_durable _) enumerated scanned gone
  exact unheld (went.held_of_durable acts kept held known)

/-! ### A refresh that is cut short -/

def known : Station (Logged MemoryProvider) :=
  Source.make { name := "contact" } { provider := { items := [("a", []), ("b", [])] } }
    (.ok { backing := .memory (.ofList [("a", "old"), ("b", "old")]) }) {}

def knownSession : Session := (make known.host).1

/-- A server that adds an item, and a link that breaks before that is answered. -/
def knownExchange : Exchange (Logged MemoryProvider) AnswerQueue :=
  { station := { known with host := (make known.host).2 }
    link :=
      { fetches := [{ value := some [{ command := .add, key := "server" }] }]
        answers := [{ error := some (.protocol "lost") }] } }

def cacheFile : PropertyFile :=
  { path := ⟨["", "conf", "item_cache", "contact.dat"]⟩, table := Table.ofList [("a", "1")] }

def filed : SignatureCache := { backing := .file cacheFile }

/-- The source over that file, whose directory may be written, but not be opened. -/
def closedOff : Station (Logged MemoryProvider) :=
  Source.make { name := "contact" } { provider := { items := [("a", [])] } } (.ok filed)
    { disk :=
        { entries := [("conf", .directory [("item_cache", .directory
            [("contact.dat", .file (.ofText "a=1\n"))])])]
          mishaps := [some PropertyFile.closedDirectory] } }

def closedOffSession : Session := (make closedOff.host).1

def closedOffExchange : Exchange (Logged MemoryProvider) AnswerQueue :=
  { station := { closedOff with host := (make closedOff.host).2 }, link := {} }

/-- Where a link breaks after the items were deleted, the added one is there, but no entry is durable
that a scan could miss. Where the commit of the empty cache was struck late, nothing is deleted, and the
durable entries are not what they were. -/
theorem cut_refresh_spares_server :
    (let after := (knownSession.sync (some .refreshFromServer) knownExchange).exchange.station
    after.source.provider.log = [.deleteAll, .insert []] ∧
      (∃ emptied, SourceM.Deletes (knownExchange.station.sharing knownSession.flag) emptied) ∧
      ∃ live, after.source.cache = .ok live ∧ live.durable after.host.disk = [] ∧
        ∀ replies host changes left, (Provider.keys after.source.provider).value = .ok replies →
          ChangeScan.run (SourceM.scanContext after.source false) replies [] host =
            (some changes, left) → "a" ∉ changes.deleted ∧ "b" ∉ changes.deleted) ∧
    (let after := (closedOffSession.sync (some .refreshFromServer) closedOffExchange).exchange.station
    after.source.provider = closedOffExchange.station.source.provider ∧
      ¬ SameDurable closedOffExchange.station after) := by
  constructor
  · intro after
    have logged : after.source.provider.log = [.deleteAll, .insert []] := by decide +kernel
    have unsaved : (after.source.cache.toOption.map fun live => live.durable after.host.disk) =
        some [] := by decide +kernel
    obtain ⟨calls, -, live, kept, -, spares⟩ :=
      sync_refresh_spares_server knownSession (some .refreshFromServer) knownExchange rfl rfl
    change after.source.cache = .ok live at kept
    have none : live.durable after.host.disk = [] := by
      rw [kept] at unsaved
      exact Option.some.inj unsaved
    obtain ⟨writes, adds, deleted⟩ := calls _ Logged.logsWrites
    have wrote : writes = [.deleteAll, .insert []] := adds.symm.trans logged
    refine ⟨logged, ?_, live, kept, none, fun replies host changes left enumerated scanned => ?_⟩
    · rcases deleted with nothing | ⟨_, emptied, -, -, deletes⟩
      · cases nothing.symm.trans wrote
      · exact ⟨emptied, deletes⟩
    · rw [← none] at scanned
      have spared := spares _ (Logged.actsAsMap MemoryProvider.actsAsMap) replies host changes left
        enumerated scanned
      exact ⟨spared "a" rfl, spared "b" rfl⟩
  · intro after
    have attempts : closedOffSession.Attempts closedOffExchange.station := ⟨rfl, rfl, nofun⟩
    have late : filed.clear.StruckLate closedOffExchange.station.host.disk :=
      ⟨rfl, PropertyFile.closedDirectory, rfl, ⟨["", "conf", "item_cache"]⟩, rfl⟩
    have refused : (filed.clear.commit closedOffExchange.station.host.disk).1 ≠ .ok () := nofun
    have held : filed.durable closedOffExchange.station.host.disk ≠ [] := by decide +kernel
    obtain ⟨-, spares, -⟩ :=
      sync_refresh_spares_server closedOffSession (some .refreshFromServer) closedOffExchange rfl rfl
    obtain ⟨provider, durable⟩ := spares refused
    exact ⟨provider, fun same => held (durable.mp same attempts late)⟩

/-- The commit of the empty cache is refused, and the durable entries are gone all the same. -/
theorem refused_refresh_empties_cache :
    let run := closedOffSession.sync (some .refreshFromServer) closedOffExchange
    run.outcome = .error (.commitFailed "contact" (.cannotFlush cacheFile.path (.system 13))) ∧
      closedOffExchange.station.source.cache = .ok filed ∧
      filed.durable closedOffExchange.station.host.disk = [("a", ⟨"1"⟩)] ∧
      run.exchange.station.source.cache = .ok filed.clear ∧
      filed.clear.durable run.exchange.station.host.disk = [] ∧
      run.exchange.station.source.provider.provider.items = [("a", [])] := by
  refine ⟨rfl, rfl, ?_, rfl, ?_, rfl⟩
  · decide +kernel
  · decide +kernel

end Session

end Reconcile
