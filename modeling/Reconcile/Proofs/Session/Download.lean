import Reconcile.Proofs.Session.Calls

/-!
Downloads. Each change of the server writes the provider at most once, and the cache follows that
write: after a whole download the two are as if the changes had been written one after the other.
-/

namespace Reconcile

variable {P L : Type} [Provider P]

namespace ServerChange

/-- What the provider says to a change of the server, the key that it wrote or why it refused, and the
provider after it. -/
def write (change : ServerChange) (provider : P) : Option (Except Refusal String) × P :=
  let content := change.content.getD []
  match change.command with
  | .add =>
    let (reply, next) := Provider.insert provider content
    (some reply.value, next)
  | .replace =>
    let (reply, next) := Provider.update provider change.key content
    (some (reply.value.map fun _ => change.key), next)
  | .delete =>
    let (reply, next) := Provider.delete provider change.key
    (some (reply.value.map fun _ => change.key), next)
  | .upload | .download => (none, provider)

def follow (change : ServerChange) (entries : List (String × Signature)) :
    Option (Except Refusal String) → List (String × Signature)
  | some (.ok key) =>
    if change.command = .delete then Entries.without key entries
    else Entries.place key (.of (change.content.getD [])) entries
  | _ => entries

/-- What is filed of a change of the server: first that it arrived, then what came of it. -/
def transfer (change : ServerChange) (rule : SuccessRule) : Filing :=
  ⟨.client, .download, { id := change.key, code := rule.okCode }⟩

def answers (change : ServerChange) (rule : SuccessRule)
    (outcome : Option (Except Refusal String)) : List Filing :=
  outcome.toList.map fun outcome => ⟨.client, change.command, SourceM.writeVerdict change.key
    (if change.command = .add then rule.addedCode else rule.okCode) outcome⟩

/-- The code that answers a change: success as the rule has it for the command, or why the provider
refused. -/
def code (change : ServerChange) (rule : SuccessRule) : Except Refusal String → StatusCode
  | .ok _ => if change.command = .add then rule.addedCode else rule.okCode
  | .error .deviceFull => 420
  | .error (.notFound _) => 404
  | .error (.failed _) => 500

omit [Provider P] in
theorem code_writeVerdict (change : ServerChange) (rule : SuccessRule) (outcome : Except Refusal String) :
    (SourceM.writeVerdict change.key
      (if change.command = .add then rule.addedCode else rule.okCode) outcome).code =
      change.code rule outcome := by
  match outcome with
  | .ok _ | .error .deviceFull | .error (.notFound _) | .error (.failed _) => rfl

def fills : Option (Except Refusal String) → Bool
  | some (.error .deviceFull) => true
  | _ => false

/-! ### Changes in a row -/

def writeAll : List ServerChange → P → List (String × Signature) → P × List (String × Signature)
  | [], provider, entries => (provider, entries)
  | change :: rest, provider, entries =>
    let (outcome, next) := change.write provider
    writeAll rest next (change.follow entries outcome)

def writtenKeys : List ServerChange → P → List String
  | [], _ => []
  | change :: rest, provider =>
    let (outcome, next) := change.write provider
    (outcome.bind Except.toOption).toList ++ writtenKeys rest next

def filings (rule : SuccessRule) : List ServerChange → P → List Filing
  | [], _ => []
  | change :: rest, provider =>
    let (outcome, next) := change.write provider
    change.transfer rule :: change.answers rule outcome ++ filings rule rest next

/-- What is sent back for changes: a status for each one that the provider was asked about, under the key
that the server gave. -/
def replies (rule : SuccessRule) : List ServerChange → P → List Verdict
  | [], _ => []
  | change :: rest, provider =>
    let (outcome, next) := change.write provider
    (outcome.map fun outcome => { id := change.key, code := change.code rule outcome }).toList ++
      replies rule rest next

def fillsAny : List ServerChange → P → Bool
  | [], _ => false
  | change :: rest, provider =>
    let (outcome, next) := change.write provider
    fills outcome || fillsAny rest next

omit [Provider P] in
theorem lookup_follow (change : ServerChange) (entries : List (String × Signature))
    {outcome : Option (Except Refusal String)} {key : String}
    (spared : outcome.bind Except.toOption ≠ some key) :
    (change.follow entries outcome).lookup key = entries.lookup key := by
  match outcome with
  | none => rfl
  | some (.error refusal) => rfl
  | some (.ok other) =>
    have different : key ≠ other := fun same => spared (same ▸ rfl)
    rw [follow]
    split
    · rw [Entries.lookup_without, if_neg different]
    · rw [Entries.lookup_place, if_neg different]

omit [Provider P] in
theorem lookup_follow_congr (change : ServerChange) (outcome : Option (Except Refusal String))
    {first second : List (String × Signature)} (same : ∀ key, first.lookup key = second.lookup key)
    (key : String) : (change.follow first outcome).lookup key =
      (change.follow second outcome).lookup key := by
  match outcome with
  | none => exact same key
  | some (.error refusal) => exact same key
  | some (.ok other) =>
    rw [follow, follow]
    split
    · rw [Entries.lookup_without, Entries.lookup_without, same]
    · rw [Entries.lookup_place, Entries.lookup_place, same]

theorem lookup_writeAll_congr (changes : List ServerChange) (provider : P)
    {first second : List (String × Signature)} (same : ∀ key, first.lookup key = second.lookup key)
    (key : String) : (writeAll changes provider first).2.lookup key =
      (writeAll changes provider second).2.lookup key := by
  induction changes generalizing provider first second with
  | nil => exact same key
  | cons change rest ih => exact ih _ (lookup_follow_congr change _ same)

theorem lookup_writeAll (changes : List ServerChange) (provider : P)
    (entries : List (String × Signature)) {key : String}
    (spared : key ∉ writtenKeys changes provider) :
    (writeAll changes provider entries).2.lookup key = entries.lookup key := by
  induction changes generalizing provider entries with
  | nil => rfl
  | cons change rest ih =>
    rw [writtenKeys, List.mem_append, not_or] at spared
    obtain ⟨other, later⟩ := spared
    have different : (change.write provider).1.bind Except.toOption ≠ some key := by
      intro same
      rw [same] at other
      exact other List.mem_cons_self
    rw [writeAll, ih _ _ later, lookup_follow change entries different]

end ServerChange

/-- A relation that holds after a write of the provider, which the entries of the cache follow if it
was done. -/
structure WriteKeeps {β : Type} (relation : P → List (String × Signature) → Prop)
    (written : Reply (Except Refusal β) × P)
    (keep : β → List (String × Signature) → List (String × Signature))
    (entries : List (String × Signature)) : Prop where
  done : ∀ value, written.1.value = .ok value → relation written.2 (keep value entries)
  refused : ∀ error, written.1.value = .error error → relation written.2 entries

structure KeptInStep (relation : P → List (String × Signature) → Prop) : Prop where
  insert : ∀ provider entries content, relation provider entries →
    WriteKeeps relation (Provider.insert provider content)
      (fun key => Entries.place key (.of content)) entries
  update : ∀ provider entries key content, relation provider entries →
    WriteKeeps relation (Provider.update provider key content)
      (fun _ => Entries.place key (.of content)) entries
  delete : ∀ provider entries key, relation provider entries →
    WriteKeeps relation (Provider.delete provider key) (fun _ => Entries.without key) entries

section Relations

variable {relation : P → List (String × Signature) → Prop}

theorem KeptInStep.write (kept : KeptInStep relation) {provider : P}
    {entries : List (String × Signature)} (related : relation provider entries)
    (change : ServerChange) :
    relation (change.write provider).2 (change.follow entries (change.write provider).1) := by
  obtain ⟨command, key, content⟩ := change
  cases command with
  | add =>
    have keeps := kept.insert provider entries (content.getD []) related
    simp only [ServerChange.write]
    cases done : (Provider.insert provider (content.getD [])).1.value with
    | ok key => exact keeps.done key done
    | error refusal => exact keeps.refused refusal done
  | replace =>
    have keeps := kept.update provider entries key (content.getD []) related
    simp only [ServerChange.write]
    cases done : (Provider.update provider key (content.getD [])).1.value with
    | ok _ => exact keeps.done _ done
    | error refusal => exact keeps.refused refusal done
  | delete =>
    have keeps := kept.delete provider entries key related
    simp only [ServerChange.write]
    cases done : (Provider.delete provider key).1.value with
    | ok _ => exact keeps.done _ done
    | error refusal => exact keeps.refused refusal done
  | upload => exact related
  | download => exact related

theorem KeptInStep.writeAll (kept : KeptInStep relation) (changes : List ServerChange) {provider : P}
    {entries : List (String × Signature)} (related : relation provider entries) :
    relation (ServerChange.writeAll changes provider entries).1
      (ServerChange.writeAll changes provider entries).2 := by
  induction changes generalizing provider entries with
  | nil => exact related
  | cons change rest ih => exact ih (kept.write related change)

end Relations

structure Station.InStep (station : Station P) (relation : P → List (String × Signature) → Prop) :
    Prop where
  begun : station.source.report.standing ≠ .resting
  related : ∃ cache, station.source.cache = .ok cache ∧
    relation station.source.provider cache.snapshot

variable {station : Station P} {entries : List (String × Signature)}

omit [Provider P] in
theorem Station.Caches.recorded (caches : station.Caches entries) (side : Side) (command : Command)
    (verdict : Verdict) : (station.recorded side command verdict).Caches entries where
  begun := by rw [source_recorded, SourceReport.standing_record]; exact caches.begun
  cached := by rw [source_recorded]; exact caches.cached

/-- Changes of the server led from one source in an open sync to another one: they were written and
filed one after the other. -/
structure Written (changes : List ServerChange) (before after : Station P)
    (entries : List (String × Signature)) : Prop where
  provider : after.source.provider =
    (ServerChange.writeAll changes before.source.provider entries).1
  caches : after.Caches (ServerChange.writeAll changes before.source.provider entries).2
  report : after.source.report = before.source.report.receive .client
    (ServerChange.filings before.source.config.success changes before.source.provider)
    (ServerChange.fillsAny changes before.source.provider)

theorem Station.Caches.unwritten (caches : station.Caches entries) : Written [] station station entries :=
  ⟨rfl, caches, rfl⟩

namespace ExchangeM

omit [Provider P] in
theorem record_written (report : SourceReport) (outcome : Except Refusal String) (command : Command)
    (verdict : Verdict) : (report.written outcome).record .client command verdict =
      report.receive .client [⟨.client, command, verdict⟩] (ServerChange.fills (some outcome)) := by
  match outcome with
  | .ok _ | .error (.notFound _) | .error (.failed _) => rfl
  | .error .deviceFull => exact SourceReport.record_recordFault _ _ _ _ _

theorem applyChange_ok (calm : station.Calm) (caches : station.Caches entries)
    (change : ServerChange) :
    let written := change.write station.source.provider
    ∃ left, applyChange change station =
        .ok (written.1.map (change.code station.source.config.success)) left ∧
      left.source.provider = written.2 ∧ left.Caches (change.follow entries written.1) ∧
        left.source.report = station.source.report.receive .client
          (change.answers station.source.config.success written.1) (ServerChange.fills written.1) := by
  obtain ⟨cache, cached, rfl⟩ := caches.cached
  have syncs : station.Syncs cache := ⟨calm, caches.begun, cached⟩
  obtain ⟨command, key, content⟩ := change
  unfold applyChange
  dsimp only
  cases command with
  | add =>
    obtain ⟨left, ran, applied⟩ := SourceM.applyAdd_ok syncs key (content.getD [])
    have reported := applied.reported
    rw [record_written] at reported
    refine ⟨left, (bind_of_ok ran _).trans ?_, applied.provider, applied.caches ?_, reported⟩
    · rw [ServerChange.write, Option.map_some, ← ServerChange.code_writeVerdict]
      rfl
    simp only [ServerChange.write]
    cases (Provider.insert station.source.provider (content.getD [])).1.value <;> rfl
  | replace =>
    obtain ⟨left, ran, applied⟩ := SourceM.applyReplace_ok syncs key (content.getD [])
    have reported := applied.reported
    rw [← SourceReport.written_map _ _ fun _ => key, record_written] at reported
    refine ⟨left, (bind_of_ok ran _).trans ?_, applied.provider, applied.caches ?_, reported⟩
    · rw [ServerChange.write, Option.map_some, ← ServerChange.code_writeVerdict]
      rfl
    simp only [ServerChange.write]
    cases (Provider.update station.source.provider key (content.getD [])).1.value <;> rfl
  | delete =>
    obtain ⟨left, ran, applied⟩ := SourceM.applyDelete_ok syncs key
    have reported := applied.reported
    rw [← SourceReport.written_map _ _ fun _ => key, record_written] at reported
    refine ⟨left, (bind_of_ok ran _).trans ?_, applied.provider, applied.caches ?_, reported⟩
    · rw [ServerChange.write, Option.map_some, ← ServerChange.code_writeVerdict]
      rfl
    simp only [ServerChange.write]
    cases (Provider.delete station.source.provider key).1.value <;> rfl
  | upload =>
    exact ⟨station.noted .unsupportedCommand, rfl, rfl, ⟨caches.begun, caches.cached⟩, rfl⟩
  | download =>
    exact ⟨station.noted .unsupportedCommand, rfl, rfl, ⟨caches.begun, caches.cached⟩, rfl⟩

theorem ends_applyChanges (caches : station.Caches entries) (changes : List ServerChange) :
    Ends (applyChanges changes) station fun outcome left =>
      ∃ taken, taken <+: changes ∧ Written taken station left entries ∧
        match outcome with
        | .ok verdicts => taken = changes ∧
          verdicts = ServerChange.replies station.source.config.success changes station.source.provider
        | .error error => error = .cancelled ∧ ¬ left.Calm := by
  induction changes generalizing station entries with
  | nil => exact .of_ok rfl ⟨[], List.prefix_refl _, caches.unwritten, rfl, rfl⟩
  | cons change rest ih =>
    by_cases calm : station.Calm
    · have recorded := SourceM.recordTransfer_eq .client .download change.key station
      have transferred : ∀ filings full, (station.source.report.receive .client
          [change.transfer station.source.config.success] false).receive .client filings full =
          station.source.report.receive .client
            (change.transfer station.source.config.success :: filings) full := fun filings full =>
        SourceReport.receive_receive _ .client [change.transfer _] filings false full
      have applies : Stays (P := P) _ (applyChange change) :=
        Within.elementary.operative.carries_applyChange change
      obtain ⟨left, ran, provider, cached, reported⟩ :=
        applyChange_ok (Station.calm_recorded calm .client .download _)
          (caches.recorded .client .download _) change
      have config := (applies.within ran).config
      rw [Station.source_recorded] at ran provider cached reported config
      refine .after_ok (SourceM.poll_of_calm calm) (.after_ok recorded (.after_ok ran ?_))
      have adds : ∀ {taken last}, Written taken left last (change.follow entries
          (change.write station.source.provider).1) → Written (change :: taken) station last entries := by
        rintro taken last ⟨final, holds, received⟩
        rw [provider] at final holds received
        refine ⟨final, holds, ?_⟩
        rw [received, reported, config, SourceReport.receive_receive]
        exact transferred _ _
      refine (ih cached).bind ?_ ?_
      · rintro error last ⟨taken, early, written, stopped⟩
        exact ⟨change :: taken, (List.prefix_cons_inj change).mpr early, adds written, stopped⟩
      · rintro verdicts last ⟨taken, early, written, rfl, rfl⟩
        refine .of_ok rfl ⟨change :: taken, List.prefix_refl _, adds written, rfl, ?_⟩
        rw [ServerChange.replies, provider, config, Option.map_map]
        rfl
    · refine Ends.of_error (bind_of_error (SourceM.poll_of_stopped calm) _) ?_
      exact ⟨[], List.nil_prefix, caches.unwritten, rfl, calm⟩

theorem gives_applyChanges (caches : station.Caches entries) (changes : List ServerChange) :
    Gives Station.Calm (applyChanges changes) station fun verdicts left =>
      Written changes station left entries ∧
        verdicts = ServerChange.replies station.source.config.success changes station.source.provider := by
  refine (ends_applyChanges caches changes).mono ?_
  rintro (error | verdicts) left ⟨taken, early, written, rest⟩
  · exact rest.2
  · exact ⟨rest.1 ▸ written, rest.2⟩

def Downloaded (before after : Exchange P (Recorded L)) : Prop :=
  ∃ reply changes verdicts answer, reply.value = .ok changes ∧
    applyChanges changes before.station = .ok verdicts after.station ∧
    after.link.events = before.link.events ++ [.fetched reply] ++ [.answered verdicts answer]

inductive Downloads (before after : Exchange P (Recorded L)) : Except SyncFailure Unit → Prop
  | done (downloaded : Downloaded before after) : Downloads before after (.ok ())
  | unanswered {error : SyncFailure} (downloaded : Downloaded before after) (broken : after.Broken) :
      Downloads before after (.error error)
  | unfetched {error : SyncFailure} {reply : Reply (Except SyncFailure (List ServerChange))}
      (station : after.station = before.station) (failed : reply.value = .error error)
      (events : after.link.events = before.link.events ++ [.fetched reply]) :
      Downloads before after (.error error)

variable [ServerLink L] {exchange : Exchange P (Recorded L)}

theorem ends_download (caches : exchange.station.Caches entries) :
    EndsIn Exchange.Calm download exchange fun outcome left => Downloads exchange left outcome := by
  have answers : ∀ verdicts : List Verdict, Carries (Within _)
      (call fun link source => ServerLink.answer link source verdicts :
        ExchangeM P (Recorded L) Unit) := fun _ => Within.elementary.operative.carries_call _
  have applying : ∀ changes, Stays (P := P) _ (applyChanges changes) :=
    Within.elementary.operative.carries_applyChanges
  refine (ends_call records_fetch).bind (fun changes => Carries.calm
    (Within.elementary.operative.carries_bind (Operative.carries_onStation (applying changes)) answers)) ?_ ?_
  · rintro error left _ ⟨station, reply, failed, events, _⟩
    exact .unfetched station failed events
  · rintro changes ⟨_, link⟩ _ ⟨rfl, reply, fetched, events, _⟩
    have applies := (gives_applyChanges caches changes).ran
    have applied : Gives Exchange.Calm (onStation (applyChanges changes))
        ({ exchange with link } : Exchange P (Recorded L)) _ := gives_onStation applies
    refine applied.then (fun verdicts => (answers verdicts).calm) ?_
    rintro verdicts left _ ⟨same, ran, _⟩
    refine (ends_call (records_answer verdicts)).mono ?_
    rintro outcome last ⟨station, answer, replied, more, succeeded⟩
    have downloaded : Downloaded exchange last := by
      refine ⟨reply, changes, verdicts, answer, fetched, station ▸ ran, ?_⟩
      rw [more, same]
      exact congrArg (· ++ _) events
    cases outcome with
    | ok _ => exact .done downloaded
    | error error => exact .unanswered downloaded (Exchange.broken_add more succeeded)

end ExchangeM

end Reconcile
