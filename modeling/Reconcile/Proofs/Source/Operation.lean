import Reconcile.Proofs.Source.Incoming

/-!
Operations in a row. What an operation does to one key of the cache is a step lemma; `holds_run`
carries it over any operations of a sync that spare the key.
-/

namespace Reconcile

inductive Operation where
  | start (mode : SyncMode)
  | first (stream : ItemStream)
  | next (stream : ItemStream)
  | verdict (command : Command) (answer : Verdict)
  | add (serverId : String) (content : Bytes)
  | replace (key : String) (content : Bytes)
  | delete (key : String)
  | probe
  | finish
  deriving DecidableEq

namespace Operation

variable {P : Type}

section Acts

variable [Provider P]

def act : Operation → SourceM P Unit
  | start mode => SourceM.start mode
  | first stream => discard (SourceM.first stream)
  | next stream => discard (SourceM.next stream)
  | verdict command answer => SourceM.takeVerdict command answer
  | add serverId content => discard (SourceM.applyAdd serverId content)
  | replace key content => discard (SourceM.applyReplace key content)
  | delete key => discard (SourceM.applyDelete key)
  | probe => discard SourceM.isModified
  | finish => SourceM.finish

def runAll (operations : List Operation) (station : Station P) : Station P :=
  operations.foldl (fun station operation => leaves operation.act station) station

/-- An operation that goes on with a sync and has nothing to do with a key: it neither brings a
verdict of it nor writes it, and does not empty the cache. -/
def Spares (operation : Operation) (station : Station P) (key : String) : Prop :=
  match operation with
  | start _ | finish | first .full => False
  | first (.bucket _) | next _ | probe => True
  | verdict _ answer => answer.id ≠ key
  | add _ content => (Provider.insert station.source.provider content).1.value ≠ .ok key
  | replace other _ | delete other => other ≠ key

def SpareAll (key : String) : List Operation → Station P → Prop
  | [], _ => True
  | operation :: rest, station =>
    operation.Spares station key ∧ SpareAll key rest (leaves operation.act station)

end Acts

def Holds (station : Station P) (key : String) (signature : Signature) : Prop :=
  station.source.report.standing ≠ .resting ∧
    ∃ cache, station.source.cache = .ok cache ∧ cache.snapshot.lookup key = some signature

theorem leaves_discard {α : Type} (operation : SourceM P α) (station : Station P) :
    leaves (discard operation) station = leaves operation station := by
  cases ran : operation station with
  | ok value left => rw [leaves_of_ok (SourceM.discard_of_ok ran), leaves_of_ok ran]
  | error error left =>
    rw [leaves_of_error (SourceM.discard_of_error ran), leaves_of_error ran]

variable {station : Station P} {key : String} {signature : Signature}

theorem holds_within {parts : List Part} {after : Station P} (holds : Holds station key signature)
    (within : Within parts station after) (cache : .cache ∉ parts) (report : .report ∉ parts) :
    Holds after key signature := by
  obtain ⟨begun, held, cached, found⟩ := holds
  refine ⟨?_, held, ?_, found⟩
  · rwa [within.report report]
  · rwa [within.cache cache]

theorem holds_guarded {α : Type} {name : String} {body : SourceM P α}
    (holds : Holds station key signature)
    (step : ∀ cache, station.Syncs cache → cache.snapshot.lookup key = some signature →
      Holds (leaves (do SourceM.poll; SourceM.requireRunning name; body) station) key signature) :
    Holds (leaves (do SourceM.poll; SourceM.requireRunning name; body) station) key signature := by
  obtain ⟨begun, cache, cached, found⟩ := id holds
  by_cases calm : station.Calm
  · exact step cache ⟨calm, begun, cached⟩ found
  · obtain ⟨error, refused⟩ := SourceM.guards_error (.inl calm) name body
    rwa [leaves_of_error refused]

theorem lookup_answered {rule : SuccessRule} {sign : String → Option Signature} {command : Command}
    {verdict : Verdict} (other : verdict.id ≠ key) (entries : List (String × Signature)) :
    (SourceM.answered rule sign command verdict entries).lookup key = entries.lookup key := by
  rw [SourceM.answered]
  split
  · rfl
  · split
    · rw [Entries.lookup_without, if_neg other.symm]
    · split
      · rw [Entries.lookup_place, if_neg other.symm]
      · rfl

theorem holds_applied {β : Type} {after : Station P} {cache : SignatureCache}
    {written : Reply (Except Refusal β) × P}
    {keep : β → List (String × Signature) → List (String × Signature)}
    {report : SourceReport} (applied : SourceM.Applied station after cache written keep report)
    (found : cache.snapshot.lookup key = some signature)
    (spared : ∀ value, written.1.value = .ok value →
      (keep value cache.snapshot).lookup key = cache.snapshot.lookup key) :
    Holds after key signature := by
  obtain ⟨next, cached, entries⟩ := applied.cached
  refine ⟨applied.begun, next, cached, ?_⟩
  rw [entries]
  split
  · rename_i value done
    rw [spared value done, found]
  · exact found

theorem holds_changeItem {name other : String} {command : Command}
    {action : P → Reply (Except Refusal Unit) × P} {follow : SignatureCache → SignatureCache}
    {keep : List (String × Signature) → List (String × Signature)}
    (holds : Holds station key signature)
    (follows : ∀ cache : SignatureCache, (follow cache).snapshot = keep cache.snapshot)
    (spared : ∀ entries, (keep entries).lookup key = entries.lookup key) :
    Holds (leaves (SourceM.changeItem name command other action follow) station) key signature := by
  refine holds_guarded holds fun cache syncs found => ?_
  obtain ⟨after, ran, applied⟩ :=
    SourceM.changeItem_ok syncs name command other action (follows cache)
  rw [SourceM.changeItem] at ran
  rw [leaves_of_ok ran]
  exact holds_applied applied found fun _ _ => spared _

variable [Provider P]

theorem holds_step (holds : Holds station key signature) {operation : Operation}
    (spares : operation.Spares station key) :
    Holds (leaves operation.act station) key signature := by
  cases operation with
  | start mode => cases spares
  | finish => cases spares
  | first stream =>
    cases stream with
    | full => cases spares
    | bucket bucket =>
      have stays : Stays [.streaming] (SourceM.firstChange bucket : SourceM P _) :=
        SourceM.stays_firstChange (by simp) bucket
      rw [act, leaves_discard]
      exact holds_within holds (stays station) (by simp) (by simp)
  | next stream =>
    have stays : Stays [.streaming] (SourceM.next stream : SourceM P _) :=
      SourceM.stays_next (by simp) stream
    rw [act, leaves_discard]
    exact holds_within holds (stays station) (by simp) (by simp)
  | probe =>
    have stays : Stays [] (SourceM.isModified : SourceM P _) := SourceM.stays_isModified
    rw [act, leaves_discard]
    exact holds_within holds (stays station) (by simp) (by simp)
  | verdict command answer =>
    refine holds_guarded holds fun cache syncs found => ?_
    obtain ⟨after, next, ran, cached, entries, report, _⟩ := SourceM.takeVerdict_ok syncs command answer
    rw [SourceM.takeVerdict] at ran
    rw [leaves_of_ok ran]
    refine ⟨?_, next, cached, by rw [entries, lookup_answered spares, found]⟩
    rw [report]
    exact SourceReport.standing_answered syncs.begun _ _ _
  | add serverId content =>
    rw [act, leaves_discard]
    refine holds_guarded holds fun cache syncs found => ?_
    obtain ⟨after, ran, applied⟩ := SourceM.applyAdd_ok syncs serverId content
    rw [SourceM.applyAdd] at ran
    rw [leaves_of_ok ran]
    refine holds_applied applied found fun value done => ?_
    rw [Entries.lookup_place, if_neg]
    rintro rfl
    exact spares done
  | replace other content =>
    rw [act, leaves_discard]
    refine holds_changeItem holds (fun cache => cache.snapshot_put other _) fun entries => ?_
    rw [Entries.lookup_place, if_neg (Ne.symm spares)]
  | delete other =>
    rw [act, leaves_discard]
    refine holds_changeItem holds (fun cache => cache.snapshot_remove other) fun entries => ?_
    rw [Entries.lookup_without, if_neg (Ne.symm spares)]

theorem holds_run (operations : List Operation) (holds : Holds station key signature)
    (spared : SpareAll key operations station) : Holds (runAll operations station) key signature := by
  induction operations generalizing station with
  | nil => exact holds
  | cons operation rest ih => exact ih (holds_step holds spared.1) spared.2

end Operation

end Reconcile
