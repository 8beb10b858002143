import Mathlib.Algebra.GroupWithZero.Nat
import Mathlib.Data.List.Nodup
import Reconcile.Proofs.Entries
import Reconcile.Proofs.Session.Opened
import Reconcile.Proofs.Session.Interrupted
import Reconcile.Proofs.Source.Bracketed
import Reconcile.Provider.Hooked
import Reconcile.Server.Queued

/-!
The reports of a session. A source reports under its own name at all times, and a session shows the
report that each name was last left with, in the order of the first runs.
-/

namespace Reconcile

variable {P L α : Type}

/-! ### The name on a report -/

def Source.Named (source : Source P) : Prop := source.report.source = source.config.name

instance (source : Source P) : Decidable source.Named := inferInstanceAs (Decidable (_ = _))

theorem Source.named_make (config : SourceSettings) (provider : P)
    (cache : Except StoreError SignatureCache) (host : Host) :
    (Source.make config provider cache host).source.Named := rfl

structure KeepsName (before after : Station P) : Prop where
  config : after.source.config = before.source.config
  named : before.source.Named → after.source.Named

namespace KeepsName

variable {before after : Station P}

theorem of_report (config : after.source.config = before.source.config)
    (same : after.source.report.source = before.source.report.source) : KeepsName before after where
  config := config
  named named := by rw [Source.Named, config, same, named]

theorem of_blank (config : after.source.config = before.source.config)
    (blank : after.source.report.source = before.source.config.name) : KeepsName before after where
  config := config
  named _ := by rw [Source.Named, config, blank]

theorem onward : Onward (KeepsName (P := P)) where
  refl _ := ⟨rfl, id⟩
  trans first second := ⟨second.config.trans first.config, fun named => second.named (first.named named)⟩

theorem elementary : Elementary (KeepsName (P := P)) where
  toOnward := onward
  aside within := of_report within.config (by rw [within.report (by simp)])
  updated _ _ := of_report rfl rfl
  recorded station side command verdict := by
    have source := station.source_recorded side command verdict
    refine of_report ?_ ?_
    · rw [source]
    · rw [source]
      exact SourceReport.source_record ..
  failed _ _ := of_report rfl rfl

end KeepsName

namespace SourceM

theorem keepsName_standing (change : SourceReport → Standing) :
    Keeps KeepsName (modifyReport fun report => { report with standing := change report } :
      SourceM P Unit) := fun _ => .of_report rfl rfl

theorem keepsName_commitOrFail (cache : SignatureCache) :
    Keeps KeepsName (commitOrFail cache : SourceM P Unit) := by
  refine KeepsName.elementary.keeps_commitOrFail fun station => ?_
  have commits : Stays (P := P) [.cache, .disk] (commit cache) := stays_commit (by simp) (by simp) cache
  have within := commits station
  exact .of_report within.config (by rw [within.report (by simp)])

theorem keepsName_wipe [Provider P] : Keeps KeepsName (wipe : SourceM P Unit) := by
  have elementary := KeepsName.elementary (P := P)
  have looks : Keeps KeepsName (cache : SourceM P SignatureCache) :=
    elementary.keeps_of_stays [] stays_cache (by simp)
  refine elementary.keeps_bind looks fun cache => ?_
  refine elementary.keeps_bind (fun _ => .of_report rfl rfl) fun _ => ?_
  refine elementary.keeps_bind (keepsName_commitOrFail _) fun _ => ?_
  exact elementary.keeps_bind (elementary.keeps_write _) fun outcome =>
    elementary.keeps_of_stays [] (stays_expect outcome) (by simp)

theorem keepsName_start [Provider P] (mode : SyncMode) :
    Keeps KeepsName (start mode : SourceM P Unit) := by
  intro station
  have elementary := KeepsName.elementary (P := P)
  by_cases running : station.source.report.standing = .running
  · rw [leaves_of_error (start_running running mode)]
    exact elementary.refl station
  cases cached : station.source.cache with
  | error cause =>
    rw [leaves_of_error (start_uncached cached running mode)]
    exact .of_blank rfl rfl
  | ok cache =>
    have wipes : Keeps KeepsName (if mode = .refreshFromServer then wipe else pure () :
        SourceM P Unit) := by
      split
      · exact keepsName_wipe
      · exact elementary.keeps_pure _
    have blank : KeepsName station (station.opened mode) := .of_blank rfl rfl
    rw [leaves, start_eq cached running, ← leaves]
    exact elementary.trans blank
      (elementary.keeps_bind wipes (fun _ => keepsName_standing _) (station.opened mode))

theorem keepsName_finish : Keeps KeepsName (finish : SourceM P Unit) := by
  intro station
  have elementary := KeepsName.elementary (P := P)
  have settles : ∀ station : Station P, KeepsName station (settled station) := fun station =>
    .of_report rfl (source_settled station)
  have concludes : ∀ name, Keeps KeepsName (conclude name : SourceM P Unit) := by
    intro name left
    rw [leaves, conclude_eq]
    cases left.source.report.fault <;> exact settles left
  have unstreams : KeepsName station (unstreamed station) := .of_report rfl rfl
  by_cases calm : station.Calm
  · have closes : Keeps KeepsName (closeCalmly station.source) := by
      unfold closeCalmly
      split
      · split
        · exact elementary.keeps_bind (keepsName_commitOrFail _) fun _ => concludes _
        · exact concludes _
      · exact concludes _
    rw [leaves, finish_calm calm, ← leaves]
    exact elementary.trans unstreams (closes (unstreamed station))
  · rw [leaves_of_error (finish_stopped calm)]
    exact elementary.trans unstreams (settles (unstreamed station))

end SourceM

theorem Event.keepsName [Provider P] (event : Event P) (station : Station P) :
    KeepsName station (event.after station) := by
  cases event with
  | act operation =>
    cases goes_on : operation.goesOn with
    | true => exact @Event.keeps_after P _ _ KeepsName.elementary (.act operation) goes_on rfl station
    | false =>
      cases operation with
      | start mode => exact SourceM.keepsName_start mode station
      | finish => exact SourceM.keepsName_finish station
      | _ => cases goes_on
  | transfer | note | edit => exact Event.keeps_after KeepsName.elementary rfl rfl station
  | signal | share => exact .of_report rfl rfl

/-! ### The list of reports -/

namespace SessionReport

def entries (report : SessionReport) : List (String × SourceReport) :=
  report.sources.map fun entry => (entry.source, entry)

theorem entries_push (report : SessionReport) (entry : SourceReport) :
    (report.push entry).entries = Entries.place entry.source entry report.entries := by
  show (place entry report.sources).map (fun entry => (entry.source, entry)) =
    Entries.place _ _ (report.sources.map fun entry => (entry.source, entry))
  induction report.sources with
  | nil => rfl
  | cons other rest ih =>
    rw [place, List.map_cons, Entries.place]
    by_cases same : other.source = entry.source
    · simp [same]
    · simp [same, ih]

theorem source?_eq (report : SessionReport) (name : String) :
    report.source? name = report.entries.lookup name := by
  rw [source?, entries]
  induction report.sources with
  | nil => rfl
  | cons other rest ih =>
    rw [List.find?_cons, List.map_cons, Entries.lookup_cons, ih]
    by_cases same : other.source = name
    · simp [same]
    · rw [beq_false_of_ne same, if_neg (Ne.symm same)]

def names (report : SessionReport) : List String := report.sources.map SourceReport.source

theorem names_eq (report : SessionReport) : report.names = report.entries.map Prod.fst := by
  simp [names, entries, Function.comp_def]

theorem totalSuccessful_eq_sum (report : SessionReport) :
    report.totalSuccessful = (report.sources.map SourceReport.totalSuccessful).sum := by
  rw [totalSuccessful]
  induction report.sources with
  | nil => rfl
  | cons other rest ih => rw [List.foldr_cons, ih, List.map_cons, List.sum_cons]

end SessionReport

/-! ### Syncs -/

namespace Session

section

variable [Provider P] [ServerLink L]

/-- What a sync that takes place does to its session and its source: the session shows the report that
the source is left with. -/
structure Publishes (session : Session) (exchange : Exchange P L) (run : SessionRun P L) : Prop where
  flag : run.session.flag = session.flag
  keepsName : KeepsName exchange.station run.exchange.station
  entries : run.session.report.entries =
    Entries.place run.exchange.station.source.report.source run.exchange.station.source.report
      session.report.entries

omit [Provider P] [ServerLink L] in
theorem publishes_finish (session : Session) (exchanged : Except SyncFailure Unit)
    (exchange : Exchange P L) : Publishes session exchange (session.finish exchanged exchange) := by
  obtain ⟨left, -⟩ := session.finish_eq exchanged exchange
  have published := session.finish_session exchanged exchange
  constructor
  · rw [published]
    rfl
  · rw [left]
    exact SourceM.keepsName_finish exchange.station
  · rw [published, left]
    exact session.report.entries_push _

omit [Provider P] in
theorem entries_noteFailure (session : Session) (error : SyncFailure) (station : Station P) :
    (session.noteFailure error station).1.report.entries = session.report.entries := by
  unfold noteFailure
  dsimp only
  split <;> rfl

theorem publishes_continueRun (session : Session) (mode : SyncMode) (exchange : Exchange P L) :
    Publishes session exchange (session.continueRun mode exchange) := by
  have carried := KeepsName.elementary.operative.carries_exchange mode exchange
  rw [continueRun]
  cases ran : ExchangeM.exchange mode exchange with
  | ok _ left =>
    rw [leaves_of_ok ran] at carried
    have ends := session.publishes_finish (.ok ()) left
    exact { ends with keepsName := KeepsName.onward.trans carried ends.keepsName }
  | error error left =>
    rw [leaves_of_error ran] at carried
    have within := session.within_noteFailure error left.station
    have noted : KeepsName left.station (session.noteFailure error left.station).2 :=
      .of_report within.config (by rw [within.report (by simp)])
    have ends := (session.noteFailure error left.station).1.publishes_finish (.error error)
      { left with station := (session.noteFailure error left.station).2 }
    constructor
    · exact ends.flag.trans (session.flag_noteFailure error left.station)
    · exact KeepsName.onward.trans carried (KeepsName.onward.trans noted ends.keepsName)
    · rw [← session.entries_noteFailure error left.station]
      exact ends.entries

theorem publishes_sync (session : Session) (mode : Option SyncMode) (exchange : Exchange P L)
    (enabled : exchange.station.source.config.enabled = true)
    (lowered : exchange.station.host.isRaised session.flag = false) :
    Publishes session exchange (session.sync mode exchange) := by
  have shared : KeepsName exchange.station (exchange.station.sharing session.flag) :=
    .of_report rfl rfl
  have begun := SourceM.keepsName_start (exchange.station.source.modeFor mode)
    (exchange.station.sharing session.flag)
  cases begins : SourceM.start (exchange.station.source.modeFor mode)
      (exchange.station.sharing session.flag) with
  | error error station =>
    rw [leaves_of_error begins] at begun
    rw [sync_of_refusal enabled lowered begins]
    exact ⟨rfl, KeepsName.onward.trans shared begun, session.report.entries_push _⟩
  | ok _ station =>
    rw [leaves_of_ok begins] at begun
    have opens : Opens session mode exchange station := ⟨enabled, lowered, begins⟩
    have runs := session.publishes_continueRun (exchange.station.source.modeFor mode)
      { exchange with station }
    rw [opens.goes]
    exact { runs with
      keepsName := KeepsName.onward.trans shared (KeepsName.onward.trans begun runs.keepsName) }

end

/-! ### Any number of syncs -/

/-- A source that is to be synced, with the link and the mode. It reports under its own name, as every
source does. -/
structure Visit where
  {Items : Type}
  {Link : Type}
  [provider : Provider Items]
  [server : ServerLink Link]
  mode : Option SyncMode
  exchange : Exchange Items Link
  named : exchange.station.source.Named

namespace Visit

def name (visit : Visit) : String := visit.exchange.station.source.config.name

def takesPart (flag : StopFlag) (visit : Visit) : Bool :=
  visit.exchange.station.source.config.enabled && !visit.exchange.station.host.isRaised flag

def run (visit : Visit) (session : Session) : SessionRun visit.Items visit.Link :=
  letI := visit.provider
  letI := visit.server
  session.sync visit.mode visit.exchange

theorem publishes {visit : Visit} {session : Session} (takes_part : visit.takesPart session.flag = true) :
    Publishes session visit.exchange (visit.run session) := by
  let := visit.provider
  let := visit.server
  simp only [takesPart, Bool.and_eq_true, Bool.not_eq_true'] at takes_part
  exact session.publishes_sync visit.mode visit.exchange takes_part.1 takes_part.2

theorem run_of_absent {visit : Visit} {session : Session}
    (absent : visit.takesPart session.flag = false) :
    (visit.run session).session = session ∧ (visit.run session).exchange = visit.exchange := by
  let := visit.provider
  let := visit.server
  rw [run]
  cases enabled : visit.exchange.station.source.config.enabled with
  | false =>
    rw [sync_disabled enabled]
    exact ⟨rfl, rfl⟩
  | true =>
    have raised : visit.exchange.station.host.isRaised session.flag = true := by
      simpa [takesPart, enabled] using absent
    rw [sync_raised raised enabled]
    exact ⟨rfl, rfl⟩

theorem flag_run (visit : Visit) (session : Session) :
    (visit.run session).session.flag = session.flag := by
  cases takes_part : visit.takesPart session.flag with
  | true => exact (publishes takes_part).flag
  | false => rw [(run_of_absent takes_part).1]

theorem source_report {visit : Visit} {session : Session}
    (takes_part : visit.takesPart session.flag = true) :
    (visit.run session).exchange.station.source.report.source = visit.name := by
  obtain ⟨config, named⟩ := (publishes takes_part).keepsName
  rw [named visit.named, config, name]

end Visit

def visitAll (session : Session) (visits : List Visit) : Session :=
  visits.foldl (fun session visit => (visit.run session).session) session

theorem visitAll_concat (session : Session) (visits : List Visit) (visit : Visit) :
    session.visitAll (visits ++ [visit]) = (visit.run (session.visitAll visits)).session := by
  simp [visitAll]

theorem flag_visitAll (session : Session) (visits : List Visit) :
    (session.visitAll visits).flag = session.flag := by
  induction visits using List.reverseRecOn with
  | nil => rfl
  | append_singleton visits visit ih => rw [visitAll_concat, visit.flag_run, ih]

theorem names_visitAll (flag : StopFlag) (visits : List Visit) :
    (visitAll { flag } visits).report.names =
      ((visits.filter (Visit.takesPart flag)).map Visit.name).eraseDups := by
  induction visits using List.reverseRecOn with
  | nil => rfl
  | append_singleton visits visit ih =>
    have same : (visitAll { flag } visits).flag = flag := flag_visitAll _ visits
    rw [visitAll_concat, List.filter_append]
    cases takes_part : visit.takesPart flag with
    | false =>
      rw [(Visit.run_of_absent (by rw [same, takes_part])).1, ih]
      simp [takes_part]
    | true =>
      have part : visit.takesPart (visitAll { flag } visits).flag = true := by rw [same, takes_part]
      have listed : visit.name ∈ (visitAll { flag } visits).report.names ↔
          visit.name ∈ (visits.filter (Visit.takesPart flag)).map Visit.name := by
        rw [ih, List.mem_eraseDups]
      rw [SessionReport.names_eq, (Visit.publishes part).entries, Entries.keys_place,
        Visit.source_report part, ← SessionReport.names_eq, List.filter_singleton, takes_part, cond_true,
        List.map_append, List.map_singleton, Entries.eraseDups_concat, ih]
      simp only [← ih, listed]

/-- However many sources a session syncs, and however each of them ends: after a sync that takes place
the session shows the report that its source was left with, under the name of the source, and the other
reports are as they were; a sync that does not take place changes nothing. -/
theorem session_shows_own_reports (flag : StopFlag) (visits : List Visit) (visit : Visit) :
    let session := visitAll { flag } visits
    let run := visit.run session
    let source := run.exchange.station.source
    (visit.takesPart flag = true →
      run.session.report.source? visit.name = some source.report ∧
        source.Named ∧ source.config = visit.exchange.station.source.config) ∧
    (visit.takesPart flag = false → run.session = session ∧ run.exchange = visit.exchange) ∧
    (∀ other, other ≠ visit.name →
      run.session.report.source? other = session.report.source? other) ∧
    session.report.names = ((visits.filter (Visit.takesPart flag)).map Visit.name).eraseDups ∧
    session.report.names.Nodup ∧
    session.report.totalSuccessful = (session.report.sources.map SourceReport.totalSuccessful).sum := by
  intro session run source
  have same : session.flag = flag := flag_visitAll _ visits
  have names := names_visitAll flag visits
  have shown : ∀ name, visit.takesPart flag = true → run.session.report.source? name =
      if name = visit.name then some source.report else session.report.source? name := by
    intro name takes_part
    have part : visit.takesPart session.flag = true := by rw [same, takes_part]
    rw [SessionReport.source?_eq, SessionReport.source?_eq, (Visit.publishes part).entries,
      Entries.lookup_place, Visit.source_report part]
  refine ⟨?_, ?_, ?_, names, ?_, session.report.totalSuccessful_eq_sum⟩
  · intro takes_part
    have kept := (Visit.publishes (by rw [same, takes_part])).keepsName
    exact ⟨by rw [shown _ takes_part, if_pos rfl], kept.named visit.named, kept.config⟩
  · intro absent
    exact Visit.run_of_absent (by rw [same, absent])
  · intro other different
    cases takes_part : visit.takesPart flag with
    | true => rw [shown _ takes_part, if_neg different]
    | false =>
      have idle : run.session = session := (Visit.run_of_absent (by rw [same, takes_part])).1
      rw [idle]
  · rw [names]
    exact Entries.nodup_eraseDups _

/-! ### A source that is run twice -/

def unlucky : Visit where
  Items := HookedProvider
  Link := AnswerQueue
  mode := none
  exchange :=
    { station := Source.make { name := "contact" }
        { items := { items := [("a", [])] }
          hooks := { failures := [((.deleteAll, ""), .failed "locked")] } }
        (.ok { backing := .memory {} }) {}
      link := { sends := [{ value := some [{ id := "a", code := 500 }] }] } }
  named := Source.named_make ..

def cacheless : Visit where
  Items := HookedProvider
  Link := AnswerQueue
  mode := none
  exchange :=
    { station := Source.make { name := "calendar" } { items := {} } (.error (.invalidName "..")) {}
      link := {} }
  named := Source.named_make ..

def flagOfTwo : StopFlag := ⟨1⟩

theorem unlucky_named : (unlucky.run { flag := flagOfTwo }).exchange.station.source.Named := by
  decide +kernel

def unluckyAgain : Visit where
  provider := unlucky.provider
  server := unlucky.server
  mode := some .refreshFromServer
  exchange := (unlucky.run { flag := flagOfTwo }).exchange
  named := unlucky_named

/-- A beginning that fails leaves a blank report in the place of the one with the rejected item, and no
trace in that of the source that could not begin either. -/
theorem rerun_replaces_report :
    let session := visitAll { flag := flagOfTwo } [unlucky, cacheless]
    let run := unluckyAgain.run session
    unluckyAgain.takesPart flagOfTwo = true ∧
    (session.report.source? "contact").map (fun report => report.failedCount .server .add) = some 1 ∧
    run.session.report.source? "contact" =
      some (Source.blankReport unlucky.exchange.station.source.config) ∧
    run.session.report.source? "calendar" = session.report.source? "calendar" ∧
    session.report.names = ["contact", "calendar"] := by
  have takes_part : unluckyAgain.takesPart flagOfTwo = true := by decide +kernel
  have name : unluckyAgain.name = "contact" := by decide +kernel
  obtain ⟨shown, -, others, names, -⟩ :=
    session_shows_own_reports flagOfTwo [unlucky, cacheless] unluckyAgain
  rw [name] at shown others
  refine ⟨takes_part, by decide +kernel, (shown takes_part).1.trans ?_,
    others "calendar" (by decide +kernel), names.trans ?_⟩
  · decide +kernel
  · decide +kernel

end Session

end Reconcile
