import Reconcile.Proofs.Provider.Laws
import Reconcile.Proofs.Session.Account
import Reconcile.Provider.Hooked
import Reconcile.Server.Queued

/-!
Answers to the changes of the server. A download that nobody stops asks the provider about every change
of items, in order, and answers each of them once, whatever the provider said to it and to the others.
-/

namespace Reconcile

variable {P L α : Type} [Provider P]

namespace ServerChange

def call? (change : ServerChange) : Option ProviderWrite :=
  let content := change.content.getD []
  match change.command with
  | .add => some (.insert content)
  | .replace => some (.update change.key content)
  | .delete => some (.delete change.key)
  | .upload | .download => none

def provideAll (changes : List ServerChange) (provider : P) : P :=
  changes.foldl (fun provider change => (change.write provider).2) provider

theorem provider_writeAll (changes : List ServerChange) (provider : P)
    (entries : List (String × Signature)) :
    (writeAll changes provider entries).1 = provideAll changes provider := by
  induction changes generalizing provider entries with
  | nil => rfl
  | cons change rest ih => exact ih _ _

theorem isSome_write (change : ServerChange) (provider : P) :
    (change.write provider).1.isSome = change.call?.isSome := by
  obtain ⟨command, key, content⟩ := change
  cases command <;> rfl

theorem ids_replies (rule : SuccessRule) (changes : List ServerChange) (provider : P) :
    (replies rule changes provider).map Verdict.id =
      (changes.filter fun change => change.call?.isSome).map ServerChange.key := by
  induction changes generalizing provider with
  | nil => rfl
  | cons change rest ih =>
    have asked := change.isSome_write provider
    simp only [replies, List.map_append, ih, List.filter_cons, ← asked]
    cases (change.write provider).1 <;> simp

theorem log_write {log : P → List ProviderWrite} (logs : LogsWrites log) (change : ServerChange)
    (provider : P) : log (change.write provider).2 = log provider ++ change.call?.toList := by
  obtain ⟨command, key, content⟩ := change
  cases command with
  | add => exact logs.insert provider _
  | replace => exact logs.update provider key _
  | delete => exact logs.delete provider key
  | upload | download => exact (List.append_nil _).symm

theorem log_provideAll {log : P → List ProviderWrite} (logs : LogsWrites log)
    (changes : List ServerChange) (provider : P) :
    log (provideAll changes provider) = log provider ++ changes.filterMap call? := by
  induction changes generalizing provider with
  | nil => exact (List.append_nil _).symm
  | cons change rest ih =>
    have later := ih (change.write provider).2
    rw [log_write logs, List.append_assoc] at later
    refine later.trans ?_
    cases call : change.call? <;> simp [call]

end ServerChange

namespace ExchangeM

omit [Provider P] in
theorem Mirrors.ends {recorded : ExchangeM P (Recorded L) α} {plain : ExchangeM P L α}
    (mirrors : Mirrors recorded plain) (exchange : Exchange P L) :
    yields plain exchange = yields recorded exchange.recorded ∧
      leaves plain exchange = (leaves recorded exchange.recorded).plain := by
  have same : plain exchange = plainly (recorded exchange.recorded) := mirrors exchange.recorded
  rw [yields, leaves, yields, leaves, same]
  cases recorded exchange.recorded <;> exact ⟨rfl, rfl⟩

variable [ServerLink L] {entries : List (String × Signature)} {changes : List ServerChange}

theorem ends_download_answered {exchange : Exchange P (Recorded L)}
    (caches : exchange.station.Caches entries)
    (fetched : (ServerLink.fetch exchange.link exchange.station.source.config.name).1.value =
      .ok changes) :
    EndsIn Exchange.Calm download exchange fun outcome left => ∃ reply answer,
      answer.value = outcome ∧
      left.link.events = exchange.link.events ++ [.fetched reply, .answered
        (ServerChange.replies exchange.station.source.config.success changes
          exchange.station.source.provider) answer] ∧
      Written changes exchange.station left.station entries := by
  have answers : ∀ verdicts : List Verdict, Carries (Within _)
      (call fun link source => ServerLink.answer link source verdicts :
        ExchangeM P (Recorded L) Unit) := fun _ => Within.elementary.operative.carries_call _
  have applying : ∀ changes, Stays (P := P) _ (applyChanges changes) :=
    Within.elementary.operative.carries_applyChanges
  have fetches : Gives Exchange.Calm (call ServerLink.fetch) exchange fun value left =>
      value = changes ∧ Within [] exchange.station left.station ∧
        ∃ reply, left.link.events = exchange.link.events ++ [.fetched reply] := by
    have called : Ends (call ServerLink.fetch) exchange _ := call_ends records_fetch
    obtain ⟨within, reply, -, adds⟩ := called
    have value := (yields_call ServerLink.fetch exchange).trans fetched
    rw [Gives, Ends, value]
    exact ⟨rfl, within, reply, adds⟩
  refine fetches.then (fun changes => Carries.calm
    (Within.elementary.operative.carries_bind (Operative.carries_onStation (applying changes)) answers)) ?_
  rintro _ left - ⟨rfl, within, reply, adds⟩
  have held : left.station.Caches entries := (caches.unwritten.then_within within).caches
  refine (gives_onStation (gives_applyChanges held _)).then (fun verdicts => (answers verdicts).calm) ?_
  rintro _ last - ⟨same, written, rfl⟩
  refine (ends_call (records_answer _)).mono ?_
  rintro outcome final ⟨kept, answer, answered, more, -⟩
  have config := within.config
  have provider := within.provider List.not_mem_nil
  refine ⟨reply, answer, answered, ?_, ?_⟩
  · rw [more, same, adds, config, provider, List.append_assoc]
    rfl
  · rw [kept]
    exact written.after_within within

/-- A download in an open sync, whose changes were fetched and which nobody stops, answers once, with one
status for each change of items, in order, under its own key and with the code for what the provider said
to it. The provider gets the writes of all these changes and nothing else, whichever of them it refuses. -/
theorem download_answers_each_change (exchange : Exchange P L) {cache : SignatureCache}
    (begun : exchange.station.source.report.standing ≠ .resting)
    (cached : exchange.station.source.cache = .ok cache)
    (fetched : (ServerLink.fetch exchange.link exchange.station.source.config.name).1.value =
      .ok changes)
    (calm : (leaves download exchange).Calm) :
    let source := exchange.station.source
    let left := leaves download exchange
    let verdicts := ServerChange.replies source.config.success changes source.provider
    (∃ fetch answer,
      (leaves download exchange.recorded).link.events = [.fetched fetch, .answered verdicts answer] ∧
      yields download exchange = answer.value) ∧
    left = (leaves download exchange.recorded).plain ∧
    verdicts.map Verdict.id =
      (changes.filter fun change => change.call?.isSome).map ServerChange.key ∧
    left.station.source.provider = ServerChange.provideAll changes source.provider ∧
    ∀ log, LogsWrites log →
      log left.station.source.provider = log source.provider ++ changes.filterMap ServerChange.call? := by
  intro source left verdicts
  have caches : exchange.recorded.station.Caches cache.snapshot := ⟨begun, cache, cached, rfl⟩
  obtain ⟨same, plain⟩ := mirrors_download.ends exchange
  have down : (leaves download exchange.recorded).Calm := by
    rw [plain] at calm
    exact calm
  obtain ⟨fetch, answer, outcome, events, written⟩ := ends_download_answered caches fetched down
  have provided : left.station.source.provider = ServerChange.provideAll changes source.provider := by
    rw [← ServerChange.provider_writeAll changes source.provider cache.snapshot]
    exact (congrArg (fun left => left.station.source.provider) plain).trans written.provider
  refine ⟨⟨fetch, answer, events, same.trans outcome.symm⟩, plain,
    ServerChange.ids_replies _ _ _, provided, ?_⟩
  intro log logs
  rw [provided, ServerChange.log_provideAll logs]

/-! ### A mixed list -/

def mixedChanges : List ServerChange :=
  [⟨.replace, "b", some [1]⟩, ⟨.upload, "x", none⟩, ⟨.add, "srv-1", none⟩, ⟨.delete, "c", none⟩,
    ⟨.delete, "nope", none⟩, ⟨.replace, "a", some [2]⟩]

/-- A source in an open sync, with an item that there is no room to replace and one that cannot be
deleted. -/
def mixedExchange : Exchange (Logged HookedProvider) AnswerQueue where
  station :=
    leaves (SourceM.start .twoWay)
      (Source.make { name := "contact" }
        { provider :=
            { items := { items := [("a", []), ("b", []), ("c", [])] }
              hooks := { failures :=
                [((.update, "b"), .deviceFull), ((.delete, "c"), .failed "busy")] } } }
        (.ok { backing := .memory {} }) {})
  link := { fetches := [{ value := some mixedChanges }] }

theorem mixed_changes_answered :
    (∃ fetch answer, (leaves download mixedExchange.recorded).link.events =
      [.fetched fetch, .answered
        [⟨"b", 420, none⟩, ⟨"srv-1", 201, none⟩, ⟨"c", 500, none⟩, ⟨"nope", 404, none⟩,
          ⟨"a", 200, none⟩] answer]) ∧
    (leaves download mixedExchange).station.source.provider.log =
      [.update "b" [1], .insert [], .delete "c", .delete "nope", .update "a" [2]] := by
  have calm : (leaves download mixedExchange).station.Calm := by decide +kernel
  have fetched : (ServerLink.fetch mixedExchange.link
      mixedExchange.station.source.config.name).1.value = .ok mixedChanges := rfl
  have cached : mixedExchange.station.source.cache = .ok { backing := .memory {} } := rfl
  obtain ⟨⟨fetch, answer, events, -⟩, -, -, -, logs⟩ :=
    download_answers_each_change mixedExchange (by decide +kernel) cached fetched calm
  have verdicts : ServerChange.replies mixedExchange.station.source.config.success mixedChanges
      mixedExchange.station.source.provider =
        [⟨"b", 420, none⟩, ⟨"srv-1", 201, none⟩, ⟨"c", 500, none⟩, ⟨"nope", 404, none⟩,
          ⟨"a", 200, none⟩] := by decide +kernel
  rw [verdicts] at events
  exact ⟨⟨fetch, answer, events⟩, (logs _ Logged.logsWrites).trans (by decide +kernel)⟩

end ExchangeM

end Reconcile
