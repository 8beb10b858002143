import Reconcile.Proofs.Source.Operation

/-!
Elementary steps. The operations of an open sync move the provider and the streams, change entries of
the cache, and write verdicts and errors to the report. A relation that holds across each of these
steps holds across every such operation, wherever it stops.
-/

namespace Reconcile

variable {P α : Type}

def OfEntries (follow : SignatureCache → SignatureCache) : Prop :=
  ∀ cache, ∃ change, follow cache = cache.update change

theorem ofEntries_put (key : String) (signature : Signature) :
    OfEntries fun cache => cache.put key signature := fun _ => ⟨_, rfl⟩

theorem ofEntries_remove (key : String) : OfEntries fun cache => (cache.remove key).2 :=
  fun _ => ⟨fun table => (table.erase key).2, rfl⟩

theorem ofEntries_clear : OfEntries SignatureCache.clear := fun _ => ⟨_, rfl⟩

/-- A relation that holds across every elementary step of an open sync. -/
structure Elementary (relation : Station P → Station P → Prop) : Prop extends Onward relation where
  aside : ∀ {before after}, Within [.provider, .streaming] before after → relation before after
  updated : ∀ {station cache}, station.source.cache = .ok cache → ∀ change,
    relation station (station.withCache (cache.update change))
  recorded : ∀ station side command verdict, relation station (station.recorded side command verdict)
  failed : ∀ station error, relation station
    ((station.noted .fault).reporting fun report => report.recordFault error)

namespace Elementary

open SourceM

variable {relation : Station P → Station P → Prop} (elementary : Elementary relation)

include elementary

theorem keeps_of_stays (parts : List Part) {operation : SourceM P α} (stays : Stays parts operation)
    (fewer : parts ⊆ [.provider, .streaming]) : Keeps relation operation :=
  fun station => elementary.aside ((stays station).mono fewer)

theorem keeps_note (notice : Notice) : Keeps relation (note notice : SourceM P Unit) :=
  elementary.keeps_of_stays [] (stays_note notice) (by simp)

theorem keeps_source : Keeps relation (source : SourceM P (Source P)) :=
  elementary.keeps_of_stays [] stays_source (by simp)

theorem keeps_poll : Keeps relation (poll : SourceM P Unit) :=
  elementary.keeps_of_stays [] stays_poll (by simp)

theorem keeps_requireRunning (operation : String) :
    Keeps relation (requireRunning operation : SourceM P Unit) :=
  elementary.keeps_of_stays [] (stays_requireRunning _) (by simp)

theorem keeps_hear (reply : Reply α) : Keeps relation (hear reply : SourceM P α) :=
  elementary.keeps_of_stays [] (stays_hear reply) (by simp)

theorem keeps_write (action : P → Reply (Except Refusal α) × P) :
    Keeps relation (write action : SourceM P (Except Refusal α)) :=
  elementary.keeps_of_stays [.provider] (stays_write (by simp) _) (by simp)

theorem keeps_updateCache {follow : SignatureCache → SignatureCache} (follows : OfEntries follow) :
    Keeps relation (updateCache follow : SourceM P Unit) := by
  intro station
  cases cached : station.source.cache with
  | ok cache =>
    obtain ⟨change, same⟩ := follows cache
    rw [leaves_of_ok (updateCache_ok station cached follow), same]
    exact elementary.updated cached change
  | error cause =>
    rw [leaves_of_error (updateCache_missing station cached follow)]
    exact elementary.refl station

theorem keeps_record (side : Side) (command : Command) (verdict : Verdict) :
    Keeps relation (record side command verdict : SourceM P Unit) := by
  intro station
  rw [leaves_of_ok (record_eq side command verdict station)]
  exact elementary.recorded station side command verdict

theorem keeps_recordFault (error : Fault) :
    Keeps relation (recordFault error : SourceM P Unit) := by
  intro station
  rw [leaves_of_ok (recordFault_eq error station)]
  exact elementary.failed station error

theorem keeps_commitOrFail {cache : SignatureCache} (commits : Keeps relation (commit cache)) :
    Keeps relation (commitOrFail cache) := by
  refine elementary.keeps_bind commits fun outcome => ?_
  cases outcome with
  | ok _ => exact elementary.keeps_pure _
  | error cause =>
    exact elementary.keeps_bind (elementary.keeps_recordFault _) fun _ =>
      elementary.keeps_bind elementary.keeps_source fun _ => elementary.keeps_throw _

theorem keeps_recordTransfer (side : Side) (command : Command) (key : String) :
    Keeps relation (recordTransfer side command key : SourceM P Unit) :=
  elementary.keeps_bind elementary.keeps_source fun _ => elementary.keeps_record _ _ _

theorem keeps_refusal (error : Refusal) :
    Keeps relation (refusal error : SourceM P StatusCode) := by
  refine elementary.keeps_bind (elementary.keeps_note _) fun _ => ?_
  cases error with
  | deviceFull => exact elementary.keeps_bind (elementary.keeps_recordFault _) fun _ => elementary.keeps_pure _
  | notFound key => exact elementary.keeps_pure _
  | failed reason => exact elementary.keeps_pure _

theorem keeps_changeItem (operation : String) (command : Command) (key : String)
    (action : P → Reply (Except Refusal Unit) × P) {follow : SignatureCache → SignatureCache}
    (follows : OfEntries follow) :
    Keeps relation (changeItem operation command key action follow) := by
  refine elementary.keeps_bind elementary.keeps_poll fun _ =>
    elementary.keeps_bind (elementary.keeps_requireRunning _) fun _ =>
    elementary.keeps_bind (elementary.keeps_write _) fun outcome => ?_
  have records : ∀ code, Keeps relation (do
      record .client command { id := key, code }
      return code : SourceM P StatusCode) := fun _ =>
    elementary.keeps_bind (elementary.keeps_record _ _ _) fun _ => elementary.keeps_pure _
  split
  · exact elementary.keeps_bind (elementary.keeps_updateCache follows) fun _ =>
      elementary.keeps_bind elementary.keeps_source fun _ =>
      elementary.keeps_bind (elementary.keeps_pure _) records
  · exact elementary.keeps_bind (elementary.keeps_refusal _) records

variable [Provider P]

theorem keeps_cacheSignature (key : String) :
    Keeps relation (cacheSignature key : SourceM P Unit) := by
  refine elementary.keeps_bind elementary.keeps_source fun _ =>
    elementary.keeps_bind (elementary.keeps_hear _) fun signature => ?_
  cases signature with
  | ok signature => exact elementary.keeps_updateCache (ofEntries_put key signature)
  | error refusal => exact elementary.keeps_note _

theorem keeps_takeVerdict (command : Command) (verdict : Verdict) :
    Keeps relation (takeVerdict command verdict : SourceM P Unit) := by
  have looks : Keeps relation (discard cache : SourceM P Unit) :=
    elementary.keeps_of_stays [] (Stays.bind stays_cache fun _ => .pure _) (by simp)
  refine elementary.keeps_bind elementary.keeps_poll fun _ =>
    elementary.keeps_bind (elementary.keeps_requireRunning _) fun _ =>
    elementary.keeps_bind looks fun _ =>
    elementary.keeps_bind (elementary.keeps_record _ _ _) fun _ => ?_
  split
  · exact elementary.keeps_note _
  · refine elementary.keeps_bind elementary.keeps_source fun source => ?_
    split
    · split
      · exact elementary.keeps_recordFault _
      · exact elementary.keeps_pure _
    · split
      · exact elementary.keeps_updateCache (ofEntries_remove _)
      · exact elementary.keeps_cacheSignature _

theorem keeps_applyAdd (serverId : String) (content : Bytes) :
    Keeps relation (applyAdd serverId content : SourceM P StatusCode) := by
  refine elementary.keeps_bind elementary.keeps_poll fun _ =>
    elementary.keeps_bind (elementary.keeps_requireRunning _) fun _ =>
    elementary.keeps_bind (elementary.keeps_write _) fun outcome => ?_
  split
  · exact elementary.keeps_bind (elementary.keeps_updateCache (ofEntries_put _ _)) fun _ =>
      elementary.keeps_bind elementary.keeps_source fun _ =>
      elementary.keeps_bind (elementary.keeps_record _ _ _) fun _ => elementary.keeps_pure _
  · exact elementary.keeps_bind (elementary.keeps_refusal _) fun _ =>
      elementary.keeps_bind (elementary.keeps_record _ _ _) fun _ => elementary.keeps_pure _

theorem keeps_applyReplace (key : String) (content : Bytes) :
    Keeps relation (applyReplace key content : SourceM P StatusCode) :=
  elementary.keeps_changeItem _ _ _ _ (ofEntries_put _ _)

theorem keeps_applyDelete (key : String) :
    Keeps relation (applyDelete key : SourceM P StatusCode) :=
  elementary.keeps_changeItem _ _ _ _ (ofEntries_remove _)

theorem keeps_startEnumeration :
    Keeps relation (startEnumeration : SourceM P (Option OutgoingItem)) := by
  refine elementary.keeps_bind (elementary.keeps_requireRunning _) fun _ =>
    elementary.keeps_bind elementary.keeps_source fun source => ?_
  have collects : ∀ replies, Keeps relation (collectKeys replies : SourceM P (List String)) :=
    fun replies => elementary.keeps_of_stays [] (stays_collectKeys replies) (by simp)
  have expects : ∀ outcome : Except Refusal (List (Reply String)),
      Keeps relation (expect outcome : SourceM P _) := fun outcome =>
    elementary.keeps_of_stays [] (stays_expect outcome) (by simp)
  have streams : ∀ keys, Keeps relation (setStreaming (.full keys) : SourceM P Unit) := fun _ =>
    elementary.keeps_of_stays [.streaming] (stays_setStreaming (by simp) _) (by simp)
  have goes : Keeps relation (nextEnumerated : SourceM P (Option OutgoingItem)) :=
    elementary.keeps_of_stays [.streaming] (stays_nextEnumerated (by simp)) (by simp)
  have starts : ∀ _ : PUnit, Keeps relation (do
      let replies ← expect (← hear (Provider.keys (← SourceM.source).provider))
      let keys ← collectKeys replies
      updateCache SignatureCache.clear
      setStreaming (.full keys)
      nextEnumerated : SourceM P (Option OutgoingItem)) := fun _ =>
    elementary.keeps_bind elementary.keeps_source fun _ => elementary.keeps_bind (elementary.keeps_hear _) fun _ =>
    elementary.keeps_bind (expects _) fun _ => elementary.keeps_bind (collects _) fun _ =>
    elementary.keeps_bind (elementary.keeps_updateCache ofEntries_clear) fun _ =>
    elementary.keeps_bind (streams _) fun _ => goes
  split
  · exact elementary.keeps_bind (elementary.keeps_throw _) starts
  · exact starts ⟨⟩

theorem keeps_first (stream : ItemStream) :
    Keeps relation (first stream : SourceM P (Option OutgoingItem)) := by
  cases stream with
  | full => exact elementary.keeps_startEnumeration
  | bucket bucket =>
    exact elementary.keeps_of_stays [.streaming] (stays_firstChange (by simp) bucket) (by simp)

theorem keeps_next (stream : ItemStream) :
    Keeps relation (next stream : SourceM P (Option OutgoingItem)) :=
  elementary.keeps_of_stays [.streaming] (stays_next (by simp) stream) (by simp)

theorem keeps_act {operation : Operation} (begins : ∀ mode, operation ≠ .start mode)
    (ends : operation ≠ .finish) : Keeps relation (operation.act : SourceM P Unit) := by
  intro station
  cases operation with
  | start mode => exact absurd rfl (begins mode)
  | finish => exact absurd rfl ends
  | verdict command answer => exact elementary.keeps_takeVerdict command answer station
  | first stream =>
    rw [Operation.act, Operation.leaves_discard]
    exact elementary.keeps_first stream station
  | next stream =>
    rw [Operation.act, Operation.leaves_discard]
    exact elementary.keeps_next stream station
  | add serverId content =>
    rw [Operation.act, Operation.leaves_discard]
    exact elementary.keeps_applyAdd serverId content station
  | replace key content =>
    rw [Operation.act, Operation.leaves_discard]
    exact elementary.keeps_applyReplace key content station
  | delete key =>
    rw [Operation.act, Operation.leaves_discard]
    exact elementary.keeps_applyDelete key station
  | probe =>
    have probes : Stays [] (isModified : SourceM P Bool) := stays_isModified
    rw [Operation.act, Operation.leaves_discard]
    exact elementary.aside ((probes station).mono (by simp))

end Elementary

theorem Within.elementary :
    Elementary (Within (P := P) [.provider, .cache, .report, .streaming]) where
  toOnward := onward
  aside within := within.mono (by simp)
  updated {station cache} _ change := SourceM.stays_setCache (by simp) (cache.update change) station
  recorded station side command verdict := by
    have records : Stays (P := P) [.provider, .cache, .report, .streaming]
        (SourceM.record side command verdict) := SourceM.stays_record (by simp) _ _ _
    exact records.within (SourceM.record_eq _ _ _ _)
  failed station error := SourceM.stays_recordFault (by simp) error station

end Reconcile
