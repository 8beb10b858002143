import Reconcile.Proofs.Source.Incoming

/-!
Silent providers. Where no reply of the provider asks for the sync to be cancelled, no operation of an
open sync raises the flag of its source, and none fails of the protocol.
-/

namespace Reconcile

variable {P α β : Type}

/-- No reply of a provider as given asks for the sync to be cancelled, nor one of the provider after
changes of the server. -/
structure Silent [Provider P] (holds : P → Prop) : Prop where
  keys : ∀ provider, holds provider → (Provider.keys provider).cancels = false
  handsOut : ∀ provider replies, holds provider → (Provider.keys provider).value = .ok replies →
    ∀ reply ∈ replies, reply.cancels = false
  content : ∀ provider key, holds provider → (Provider.content provider key).cancels = false
  signature : ∀ provider key, holds provider → (Provider.signature provider key).cancels = false
  confirms : ∀ provider key, holds provider →
    (Provider.confirmsDeletion provider key).cancels = false
  insert : ∀ provider content, holds provider →
    (Provider.insert provider content).1.cancels = false ∧ holds (Provider.insert provider content).2
  update : ∀ provider key content, holds provider →
    (Provider.update provider key content).1.cancels = false ∧
      holds (Provider.update provider key content).2
  delete : ∀ provider key, holds provider →
    (Provider.delete provider key).1.cancels = false ∧ holds (Provider.delete provider key).2

structure Station.Rests (holds : P → Prop) (station : Station P) : Prop where
  held : holds station.source.provider
  calm : station.Calm

variable {holds : P → Prop}

theorem Station.Rests.of_same {before after : Station P} (rests : before.Rests holds)
    (provider : after.source.provider = before.source.provider)
    (flag : after.source.flag = before.source.flag) (flags : after.host.flags = before.host.flags) :
    after.Rests holds where
  held := provider ▸ rests.held
  calm := by
    rw [Station.Calm, Host.isRaised, flags, flag]
    exact rests.calm

/-- An operation over a silent provider raises no flag, and does not fail of the protocol. -/
def RestsOver (holds : P → Prop) (operation : SourceM P α) : Prop :=
  ∀ station : Station P, station.Rests holds → Ends operation station fun outcome left =>
    left.Rests holds ∧ ∀ reason, outcome ≠ .error (.protocol reason)

theorem SourceM.recordedFailure_local {name reason : String} {error : Fault} :
    recordedFailure name error ≠ .protocol reason := by
  rw [recordedFailure]
  split
  · exact nofun
  · exact nofun

namespace RestsOver

theorem bind {operation : SourceM P α} {next : α → SourceM P β} (first : RestsOver holds operation)
    (second : ∀ value, RestsOver holds (next value)) : RestsOver holds (operation >>= next) := by
  intro station rests
  refine (first station rests).bind ?_ ?_
  · rintro error left ⟨kept, other⟩
    exact ⟨kept, fun reason failed => other reason (congrArg Except.error (Except.error.inj failed))⟩
  · rintro value left ⟨kept, -⟩
    exact second value left kept

theorem of_ok {operation : SourceM P α} (ran : ∀ station : Station P, ∃ value left,
      operation station = .ok value left ∧ left.source.provider = station.source.provider ∧
        left.source.flag = station.source.flag ∧ left.host.flags = station.host.flags) :
    RestsOver holds operation := by
  intro station rests
  obtain ⟨value, left, ran, provider, flag, flags⟩ := ran station
  refine .of_ok ran ⟨rests.of_same provider flag flags, fun reason failed => ?_⟩
  cases failed

theorem pure (value : α) : RestsOver holds (Pure.pure value : SourceM P α) :=
  of_ok fun _ => ⟨_, _, rfl, rfl, rfl, rfl⟩

theorem throw {error : SyncFailure} (other : ∀ reason, error ≠ .protocol reason) :
    RestsOver holds (MonadExcept.throw error : SourceM P α) := by
  intro station rests
  exact .of_error rfl ⟨rests, fun reason failed => other reason (Except.error.inj failed)⟩

theorem source : RestsOver holds (SourceM.source : SourceM P (Source P)) :=
  of_ok fun _ => ⟨_, _, rfl, rfl, rfl, rfl⟩

theorem poll : RestsOver holds (SourceM.poll : SourceM P Unit) := by
  intro station rests
  refine .of_ok (SourceM.poll_of_calm rests.calm) ⟨rests, fun reason failed => ?_⟩
  cases failed

theorem note (notice : Notice) : RestsOver holds (SourceM.note notice : SourceM P Unit) :=
  of_ok fun _ => ⟨_, _, rfl, rfl, rfl, rfl⟩

theorem requireRunning (operation : String) :
    RestsOver holds (SourceM.requireRunning operation : SourceM P Unit) :=
  source.bind fun _ => by
    split
    · exact throw fun _ => nofun
    · exact pure _

theorem cache : RestsOver holds (SourceM.cache : SourceM P SignatureCache) :=
  source.bind fun _ => by
    split
    · exact pure _
    · exact source.bind fun _ => throw fun _ => nofun

theorem updateCache (change : SignatureCache → SignatureCache) :
    RestsOver holds (SourceM.updateCache change : SourceM P Unit) :=
  cache.bind fun _ => of_ok fun _ => ⟨_, _, rfl, rfl, rfl, rfl⟩

theorem setStreaming (streaming : Streaming) :
    RestsOver holds (SourceM.setStreaming streaming : SourceM P Unit) :=
  of_ok fun _ => ⟨_, _, rfl, rfl, rfl, rfl⟩

theorem refuses (error : Refusal) (next : α → SourceM P β) :
    RestsOver holds (SourceM.expect (.error error) >>= next) := by
  intro station rests
  exact .of_error (bind_of_error (SourceM.expect_error error station) next) ⟨rests, fun _ => nofun⟩

theorem record (side : Side) (command : Command) (verdict : Verdict) :
    RestsOver holds (SourceM.record side command verdict : SourceM P Unit) := by
  refine of_ok fun station => ⟨_, _, SourceM.record_eq side command verdict station, ?_, ?_, ?_⟩
  · rw [Station.source_recorded]
  · rw [Station.source_recorded]
  · rw [Station.recorded]
    split <;> rfl

theorem recordFault (error : Fault) : RestsOver holds (SourceM.recordFault error : SourceM P Unit) :=
  of_ok fun _ => ⟨_, _, rfl, rfl, rfl, rfl⟩

theorem recordTransfer (side : Side) (command : Command) (key : String) :
    RestsOver holds (SourceM.recordTransfer side command key : SourceM P Unit) :=
  source.bind fun _ => record _ _ _

theorem refusal (error : Refusal) : RestsOver holds (SourceM.refusal error : SourceM P StatusCode) :=
  (note _).bind fun _ => by
    cases error with
    | deviceFull => exact (recordFault _).bind fun _ => pure _
    | notFound => exact pure _
    | failed => exact pure _

theorem asks {ask : P → Reply α} {next : α → SourceM P β}
    (quiet : ∀ provider, holds provider → (ask provider).cancels = false)
    (goes : ∀ provider, holds provider → RestsOver holds (next (ask provider).value)) :
    RestsOver holds (do next (← SourceM.hear (ask (← SourceM.source).provider))) := by
  intro station rests
  have heard := SourceM.hear_eq (ask station.source.provider) station
  rw [quiet _ rests.held] at heard
  exact .after_ok (SourceM.source_eq _) (.after_ok heard (goes _ rests.held station rests))

theorem write {action : P → Reply (Except Refusal α) × P} (quiet : ∀ provider, holds provider →
      (action provider).1.cancels = false ∧ holds (action provider).2) :
    RestsOver holds (SourceM.write action : SourceM P (Except Refusal α)) := by
  intro station rests
  obtain ⟨silent, kept⟩ := quiet _ rests.held
  have ran := SourceM.write_eq action station
  rw [Station.written, silent] at ran
  refine .of_ok ran ⟨⟨kept, rests.calm⟩, fun reason failed => ?_⟩
  cases failed

theorem collectKeys {replies : List (Reply String)} (quiet : ∀ reply ∈ replies, reply.cancels = false) :
    RestsOver holds (SourceM.collectKeys replies : SourceM P (List String)) := by
  induction replies with
  | nil => exact pure _
  | cons reply rest ih =>
    have follows := ih fun other member => quiet other (List.mem_cons_of_mem _ member)
    have notes : ∀ key, RestsOver holds (SourceM.noteLongKey key : SourceM P Unit) := fun key =>
      source.bind fun _ => by
        split
        · exact note _
        · exact pure _
    have hears : RestsOver holds (SourceM.hear reply : SourceM P String) := by
      refine of_ok fun station => ⟨_, _, SourceM.hear_eq reply station, ?_⟩
      rw [quiet reply List.mem_cons_self]
      exact ⟨rfl, rfl, rfl⟩
    exact hears.bind fun _ => poll.bind fun _ => (notes _).bind fun _ => follows.bind fun _ => pure _

theorem finish : RestsOver holds (SourceM.finish : SourceM P Unit) := by
  have settles : RestsOver holds (SourceM.settle : SourceM P Unit) :=
    of_ok fun _ => ⟨_, _, rfl, rfl, rfl, rfl⟩
  have looks : RestsOver holds (SourceM.isStopped : SourceM P Bool) :=
    of_ok fun _ => ⟨_, _, rfl, rfl, rfl, rfl⟩
  have commits : ∀ cache, RestsOver holds (SourceM.commitOrFail cache : SourceM P Unit) := by
    intro cache
    have saves : RestsOver holds (SourceM.commit cache : SourceM P _) :=
      of_ok fun _ => ⟨_, _, rfl, rfl, rfl, rfl⟩
    refine saves.bind fun outcome => ?_
    split
    · exact pure _
    · exact (recordFault _).bind fun _ => source.bind fun _ => throw fun _ => nofun
  have concludes : ∀ name, RestsOver holds (SourceM.conclude name : SourceM P Unit) := fun name =>
    settles.bind fun _ => source.bind fun _ => by
      split
      · exact pure _
      · exact throw fun _ => SourceM.recordedFailure_local
  unfold SourceM.finish
  refine (setStreaming _).bind fun _ => looks.bind fun stopped => ?_
  split
  · exact settles.bind fun _ => throw fun _ => nofun
  · refine source.bind fun present => ?_
    split
    · split
      · exact (commits _).bind fun _ => concludes _
      · exact concludes _
    · exact concludes _

variable [Provider P] (silent : Silent holds)

include silent

theorem load (key : String) (state : Finding) :
    RestsOver holds (SourceM.load key state : SourceM P (Option OutgoingItem)) :=
  asks (fun provider => silent.content provider key) fun _ _ => by
    split
    · exact pure _
    · exact (note _).bind fun _ => pure _

theorem nextReadable (keys : List String) :
    RestsOver holds (SourceM.nextReadable keys : SourceM P (Option OutgoingItem)) := by
  induction keys with
  | nil => exact poll.bind fun _ => pure _
  | cons key rest ih =>
    refine poll.bind fun _ => (setStreaming _).bind fun _ => (load silent _ _).bind fun item => ?_
    cases item
    · exact ih
    · exact pure _

theorem nextEnumerated :
    RestsOver holds (SourceM.nextEnumerated : SourceM P (Option OutgoingItem)) :=
  source.bind fun _ => by
    split
    · exact nextReadable silent _
    · exact poll.bind fun _ => throw fun _ => nofun

theorem startEnumeration :
    RestsOver holds (SourceM.startEnumeration : SourceM P (Option OutgoingItem)) := by
  have goes : RestsOver holds (do
      let replies ← SourceM.expect (← SourceM.hear (Provider.keys (← SourceM.source).provider))
      let keys ← SourceM.collectKeys replies
      SourceM.updateCache SignatureCache.clear
      SourceM.setStreaming (.full keys)
      SourceM.nextEnumerated : SourceM P (Option OutgoingItem)) :=
    asks silent.keys fun provider held => by
      cases listed : (Provider.keys provider).value with
      | error refusal => exact refuses refusal _
      | ok replies =>
        exact (collectKeys (silent.handsOut provider replies held listed)).bind fun _ =>
          (updateCache _).bind fun _ => (setStreaming _).bind fun _ => nextEnumerated silent
  refine (requireRunning _).bind fun _ => source.bind fun _ => ?_
  split
  · refine RestsOver.bind ?_ fun _ => goes
    exact throw fun _ => nofun
  · exact goes

theorem scanCancels_eq_false {provider : P} (held : holds provider) {replies : List (Reply String)}
    (listed : (Provider.keys provider).value = .ok replies) (previous : List (String × Signature)) :
    SourceM.scanCancels provider replies previous = false := by
  have handed := silent.handsOut provider replies held listed
  simp only [SourceM.scanCancels, ChangeScan.cancels, SourceM.scanAnswers, Reply.map,
    silent.keys provider held, silent.signature provider _ held, silent.confirms provider _ held,
    Bool.and_false, Bool.false_or, Bool.or_eq_false_iff, List.any_eq_false]
  exact ⟨⟨fun reply member => by simp [handed reply member], by simp⟩, by simp⟩

theorem scan : RestsOver holds (SourceM.scan : SourceM P ChangeSet) := by
  intro station rests
  cases cached : station.source.cache with
  | error cause =>
    have missing : SourceM.cache station =
        .error (Source.missingCache station.source.config cause) station := by
      rw [SourceM.cache, bind_of_ok (SourceM.source_eq _), cached]
      rfl
    have failed : SourceM.scan station =
        .error (Source.missingCache station.source.config cause) station := by
      rw [SourceM.scan, bind_of_error missing]
    refine .of_error failed ⟨rests, fun reason same => ?_⟩
    cases same
  | ok cache =>
    cases listed : (Provider.keys station.source.provider).value with
    | ok replies =>
      obtain ⟨ends, finds⟩ := SourceM.scan_eq station cached listed
      have calm := ends.mpr
        ⟨rests.calm, scanCancels_eq_false silent rests.held listed cache.snapshot⟩
      obtain ⟨host, ran⟩ := finds calm
      rw [leaves_of_ok ran] at calm
      refine .of_ok ran ⟨⟨rests.held, calm⟩, fun reason same => ?_⟩
      cases same
    | error refusal =>
      have heard := SourceM.hear_eq (Provider.keys station.source.provider) station
      rw [silent.keys _ rests.held, listed] at heard
      have failed : SourceM.scan station = .error (.provider refusal) station := by
        rw [SourceM.scan, bind_of_ok (SourceM.cache_ok cached), bind_of_ok (SourceM.source_eq _),
          bind_of_ok heard]
        exact bind_of_error (SourceM.expect_error refusal _) _
      refine .of_error failed ⟨rests, fun reason same => ?_⟩
      cases same

theorem scanOnce : RestsOver holds (SourceM.scanOnce : SourceM P Unit) :=
  (requireRunning _).bind fun _ => source.bind fun _ => by
    split
    · exact pure _
    · exact throw fun _ => nofun
    · exact (scan silent).bind fun _ => setStreaming _

omit silent [Provider P] in
theorem moveCursor (bucket : ChangeBucket) (keys : List String) :
    RestsOver holds (SourceM.moveCursor bucket keys : SourceM P Unit) := by
  have stays : Stays (P := P) [.streaming] (SourceM.moveCursor bucket keys) :=
    SourceM.stays_moveCursor (by simp) bucket keys
  refine of_ok fun station => ⟨(), leaves (SourceM.moveCursor bucket keys) station, rfl, ?_⟩
  have within := stays station
  exact ⟨within.provider (by simp), within.flag, rfl⟩

theorem nextOfBucket (bucket : ChangeBucket) (keys : List String) :
    RestsOver holds (SourceM.nextOfBucket bucket keys : SourceM P (Option OutgoingItem)) := by
  induction keys with
  | nil => exact poll.bind fun _ => pure _
  | cons key rest ih =>
    have items : RestsOver holds (SourceM.itemOf bucket key : SourceM P (Option OutgoingItem)) := by
      cases bucket
      · exact load silent _ _
      · exact load silent _ _
      · exact pure _
    refine poll.bind fun _ => (moveCursor _ _).bind fun _ => items.bind fun item => ?_
    cases item
    · exact ih
    · exact pure _

theorem nextChange (bucket : ChangeBucket) :
    RestsOver holds (SourceM.nextChange bucket : SourceM P (Option OutgoingItem)) :=
  (scanOnce silent).bind fun _ => source.bind fun _ => by
    split
    · exact nextOfBucket silent _ _
    · exact poll.bind fun _ => throw fun _ => nofun

theorem first (stream : ItemStream) :
    RestsOver holds (SourceM.first stream : SourceM P (Option OutgoingItem)) := by
  cases stream with
  | full => exact startEnumeration silent
  | bucket bucket =>
    refine (scanOnce silent).bind fun _ => source.bind fun _ => ?_
    split
    · exact (moveCursor _ _).bind fun _ => nextChange silent _
    · exact nextChange silent _

theorem next (stream : ItemStream) :
    RestsOver holds (SourceM.next stream : SourceM P (Option OutgoingItem)) := by
  cases stream
  · exact nextEnumerated silent
  · exact nextChange silent _

/-! ### What comes from the server -/

theorem takeVerdict (command : Command) (verdict : Verdict) :
    RestsOver holds (SourceM.takeVerdict command verdict : SourceM P Unit) := by
  have looks : RestsOver holds (discard SourceM.cache : SourceM P Unit) :=
    RestsOver.bind cache fun _ => pure _
  have signs : RestsOver holds (SourceM.cacheSignature verdict.id : SourceM P Unit) :=
    asks (fun provider => silent.signature provider verdict.id) fun _ _ => by
      split
      · exact updateCache _
      · exact note _
  refine poll.bind fun _ => (requireRunning _).bind fun _ => looks.bind fun _ =>
    (record _ _ _).bind fun _ => ?_
  split
  · exact note _
  · refine source.bind fun _ => ?_
    split
    · split
      · exact recordFault _
      · exact pure _
    · split
      · exact updateCache _
      · exact signs

omit silent [Provider P] in
theorem changeItem (operation : String) (command : Command) (key : String)
    {action : P → Reply (Except Refusal Unit) × P} (follow : SignatureCache → SignatureCache)
    (quiet : ∀ provider, holds provider →
      (action provider).1.cancels = false ∧ holds (action provider).2) :
    RestsOver holds (SourceM.changeItem operation command key action follow) := by
  have records : ∀ code, RestsOver holds (do
      SourceM.record .client command { id := key, code }
      return code : SourceM P StatusCode) := fun _ => (record _ _ _).bind fun _ => pure _
  refine poll.bind fun _ => (requireRunning _).bind fun _ => (write quiet).bind fun outcome => ?_
  split
  · exact (updateCache _).bind fun _ => source.bind fun _ => (pure _).bind records
  · exact (refusal _).bind records

theorem applyAdd (serverId : String) (content : Bytes) :
    RestsOver holds (SourceM.applyAdd serverId content : SourceM P StatusCode) := by
  refine poll.bind fun _ => (requireRunning _).bind fun _ =>
    (write fun provider => silent.insert provider content).bind fun outcome => ?_
  split
  · exact (updateCache _).bind fun _ => source.bind fun _ => (record _ _ _).bind fun _ => pure _
  · exact (refusal _).bind fun _ => (record _ _ _).bind fun _ => pure _

theorem applyReplace (key : String) (content : Bytes) :
    RestsOver holds (SourceM.applyReplace key content : SourceM P StatusCode) :=
  changeItem _ _ _ _ fun provider => silent.update provider key content

theorem applyDelete (key : String) :
    RestsOver holds (SourceM.applyDelete key : SourceM P StatusCode) :=
  changeItem _ _ _ _ fun provider => silent.delete provider key

end RestsOver

end Reconcile
