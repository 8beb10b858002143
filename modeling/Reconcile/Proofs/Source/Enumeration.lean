import Reconcile.Proofs.Source.Streams
import Reconcile.Provider.Hooked

/-!
The full enumeration beside the scan. Both go through the keys that the provider hands out, and the
scan records each of them at its first occurrence. The enumeration streams every key that can be
read, a repeated one as often as it is handed out.
-/

namespace Reconcile

/-! ### The keys that a scan records -/

namespace ChangeScan

variable {σ : Type} {context : ScanContext σ}

theorem keys_classify (keys : List (Reply String)) (found : ChangeSet)
    (pending : List (String × Signature)) {state ended : σ}
    {sorted : ChangeSet × List (String × Signature)}
    (ran : classify context keys found pending state = (some sorted, ended)) :
    sorted.1.keys = found.keys ++ unseen found.keys keys := by
  induction keys generalizing found pending state with
  | nil =>
    obtain ⟨same, -⟩ := Prod.mk.inj ran
    obtain rfl := Option.some.inj same
    simp [unseen, List.removeAll]
  | cons reply rest ih =>
    have listed : ∀ (later : ChangeSet) (pending : List (String × Signature)) (state : σ),
        found.keys.contains reply.value = false → later.keys = found.keys ++ [reply.value] →
        classify context rest later pending state = (some sorted, ended) →
        sorted.1.keys = found.keys ++ unseen found.keys (reply :: rest) := by
      intro later pending state new same went
      rw [ih later pending went, same, unseen_new rest new, List.append_assoc]
      rfl
    rw [classify] at ran
    dsimp only at ran
    split at ran
    · cases ran
    · split at ran
      · rename_i known
        rw [unseen_known rest known]
        exact ih found pending ran
      · rename_i new
        rw [Bool.not_eq_true] at new
        split at ran
        · exact listed _ _ _ new rfl ran
        · split at ran
          · exact listed _ _ _ new rfl ran
          · exact listed _ _ _ new rfl ran

theorem keys_run {keys : List (Reply String)} {previous : List (String × Signature)} {state : σ}
    {changes : ChangeSet} (found : (run context keys previous state).1 = some changes) :
    changes.keys = present keys := by
  rw [run] at found
  cases classified : classify context keys {} previous state with
  | mk result middle =>
    rw [classified] at found
    cases result with
    | none => cases found
    | some sorted =>
      obtain ⟨deleted, -, rfl⟩ := Option.map_eq_some_iff.mp found
      show sorted.1.keys = _
      rw [keys_classify keys {} previous classified, List.nil_append, unseen_nil]

end ChangeScan

/-! ### Drained streams -/

/-- A stream gave the first of some items before its end or a failure, all of them before its end,
and failed only at a stop. -/
structure Drained {P : Type} (all : List OutgoingItem)
    (drained : List OutgoingItem × Option SyncFailure) (left : Station P) : Prop where
  first : drained.1 <+: all
  whole : drained.2 = none → drained.1 = all
  stopped : drained.2 ≠ none → ¬ left.Calm

namespace SourceM

variable {P : Type}

theorem attempt_eq {α : Type} (operation : SourceM P α) (station : Station P) :
    attempt operation station = .ok (yields operation station) (leaves operation station) := by
  rw [attempt, yields, leaves]
  cases operation station <;> rfl

theorem ends_attempt {α β : Type} {operation : SourceM P α} {station : Station P}
    {next : Except SyncFailure α → SourceM P β} {result : α → Station P → Prop}
    {final : Except SyncFailure β → Station P → Prop}
    (gives : Gives Station.Calm operation station result)
    (failed : ∀ error left, ¬ left.Calm → Ends (next (.error error)) left final)
    (worked : ∀ value left, result value left → Ends (next (.ok value)) left final) :
    Ends (attempt operation >>= next) station final := by
  refine Ends.after_ok (attempt_eq operation station) ?_
  cases ran : operation station with
  | error error left =>
    rw [Gives, Ends, yields_of_error ran, leaves_of_error ran] at gives
    rw [yields_of_error ran, leaves_of_error ran]
    exact failed error left gives
  | ok value left =>
    rw [Gives, Ends, yields_of_ok ran, leaves_of_ok ran] at gives
    rw [yields_of_ok ran, leaves_of_ok ran]
    exact worked value left gives

variable [Provider P] {provider : P} {found : Option ChangeSet} {station : Station P}

def Drains (operation : SourceM P (List OutgoingItem × Option SyncFailure)) (station : Station P)
    (all : List OutgoingItem) : Prop :=
  Ends operation station fun outcome left => ∃ drained, outcome = .ok drained ∧ Drained all drained left

theorem drains_none (stream : ItemStream) (bound : Nat) (station : Station P) :
    Drains (drainFrom stream bound none) station [] := by
  have ran : drainFrom stream bound none station = .ok ([], none) station := by
    cases bound <;> rfl
  exact .of_ok ran ⟨_, rfl, List.prefix_rfl, fun _ => rfl, fun failed => absurd rfl failed⟩

theorem drains_drainFrom {stream : ItemStream} {keys : List String} (bound : Nat)
    (item : OutgoingItem) (begun : station.source.report.standing ≠ .resting)
    (offers : station.Offers provider found stream keys) (enough : keys.length < bound) :
    Drains (drainFrom stream bound (some item)) station
      (item :: keys.filterMap (stream.item? provider)) := by
  -- The bound stays above the number of keys left, so the stream ends first.
  induction bound generalizing station item keys with
  | zero => exact absurd enough (Nat.not_lt_zero _)
  | succ bound ih =>
    have steps : Stays [.streaming] (next stream : SourceM P (Option OutgoingItem)) :=
      stays_next (by simp) stream
    refine ends_attempt (steps.gives (gives_next stream begun offers)) ?_ ?_
    · intro error left stopped
      exact .of_ok rfl ⟨_, rfl, List.prefix_append [item] _,
        fun whole => absurd whole (Option.some_ne_none error), fun _ => stopped⟩
    · rintro following left ⟨within, rest, offered, takes⟩
      have rests : Drains (drainFrom stream bound following) left
          (keys.filterMap (stream.item? provider)) := by
        rw [takes.items]
        cases following with
        | none =>
          rw [takes.ends rfl]
          exact drains_none stream bound left
        | some next =>
          have active : left.source.report.standing ≠ .resting := by
            rwa [within.report (by simp)]
          have shorter := takes.shorter (Option.some_ne_none next)
          exact ih next active offered (by omega)
      refine Ends.bind rests ?_ ?_
      · rintro _ _ ⟨_, failed, _⟩
        cases failed
      · rintro _ last ⟨⟨items, failure⟩, same, drained⟩
        obtain rfl := Except.ok.inj same
        exact .of_ok rfl ⟨_, rfl, (List.prefix_cons_inj _).mpr drained.first,
          fun whole => congrArg (item :: ·) (drained.whole whole), drained.stopped⟩

theorem stays_first (stream : ItemStream) : Stays [.cache, .streaming] (first stream : SourceM P _) := by
  cases stream with
  | full => exact stays_startEnumeration (by simp) (by simp)
  | bucket bucket => exact stays_firstChange (by simp) bucket

theorem drains_drain {stream : ItemStream} {keys : List String}
    (begun : station.source.report.standing ≠ .resting)
    (starts : Gives Station.Calm (first stream) station fun item left => ∃ rest,
      left.Offers provider found stream rest ∧ Takes (stream.item? provider) keys item rest) :
    Drains (drain stream) station (keys.filterMap (stream.item? provider)) := by
  refine ends_attempt ((stays_first stream).gives starts) ?_ ?_
  · intro error left stopped
    exact .of_ok rfl ⟨_, rfl, List.nil_prefix,
      fun whole => absurd whole (Option.some_ne_none error), fun _ => stopped⟩
  · rintro item left ⟨within, rest, offers, takes⟩
    rw [takes.items]
    refine Ends.after_ok (source_eq left) ?_
    cases item with
    | none =>
      rw [takes.ends rfl]
      exact drains_none stream _ left
    | some item =>
      have active : left.source.report.standing ≠ .resting := by
        rwa [within.report (by simp)]
      refine drains_drainFrom _ item active offers ?_
      rw [offers.streams.remaining]
      exact Nat.lt_succ_self _

/-! ### The enumeration beside the scan -/

def isReadable (provider : P) (key : String) : Bool := (Provider.content provider key).value.isOk

theorem keys_readItem (provider : P) (state : Finding) (keys : List String) :
    (keys.filterMap (readItem provider state)).map OutgoingItem.key =
      keys.filter (isReadable provider) := by
  induction keys with
  | nil => rfl
  | cons key rest ih =>
    rw [List.filterMap_cons, List.filter_cons, readItem, isReadable]
    cases (Provider.content provider key).value with
    | ok content => exact congrArg (key :: ·) ih
    | error refusal => exact ih

/-- A full enumeration streams the keys that can be read as they are handed out, up to a stop. Each at
its first occurrence, these are the readable keys that a scan records of the same ones; and they are
the very same list exactly where no readable key is handed out twice. -/
theorem enumeration_repeats {cache : SignatureCache} {replies : List (Reply String)}
    (begun : station.source.report.standing ≠ .resting) (idle : station.source.streaming = .idle)
    (cached : station.source.cache = .ok cache)
    (enumerated : (Provider.keys station.source.provider).value = .ok replies) {σ : Type}
    {context : ScanContext σ} {previous : List (String × Signature)} {state : σ} {changes : ChangeSet}
    (scanned : (ChangeScan.run context replies previous state).1 = some changes) :
    let readable := isReadable station.source.provider
    ∃ items failure, yields (drain .full) station = .ok (items, failure) ∧
      items.map OutgoingItem.key <+: (replies.map Reply.value).filter readable ∧
      (failure ≠ none → ¬ (leaves (drain .full) station).Calm) ∧
      (failure = none →
        items.map OutgoingItem.key = (replies.map Reply.value).filter readable ∧
        (items.map OutgoingItem.key).eraseDups = changes.keys.filter readable ∧
        (items.map OutgoingItem.key = changes.keys.filter readable ↔
          ((replies.map Reply.value).filter readable).Nodup)) := by
  intro readable
  have starts : Gives Station.Calm (first .full) station fun item left => ∃ rest,
      left.Offers station.source.provider none .full rest ∧
        Takes (ItemStream.full.item? station.source.provider) (replies.map Reply.value) item rest := by
    refine (gives_startEnumeration begun idle cached enumerated).mono ?_
    rintro item left ⟨rest, offers, -, takes⟩
    exact ⟨rest, offers, takes⟩
  obtain ⟨⟨items, failure⟩, ran, drained⟩ := drains_drain begun starts
  have all := keys_readItem station.source.provider .full (replies.map Reply.value)
  have part := drained.first.map OutgoingItem.key
  refine ⟨items, failure, ran, all ▸ part, drained.stopped, fun ended => ?_⟩
  have streamed : items.map OutgoingItem.key = (replies.map Reply.value).filter readable := by
    obtain rfl : items = _ := drained.whole ended
    exact all
  have recorded : changes.keys = (replies.map Reply.value).eraseDups := ChangeScan.keys_run scanned
  have first := ChangeScan.eraseDups_filter readable (replies.map Reply.value)
  rw [streamed, recorded, ← first]
  refine ⟨rfl, rfl, fun same => ?_, fun distinct => (ChangeScan.eraseDups_of_nodup distinct).symm⟩
  rw [same, first]
  exact ChangeScan.nodup_present.filter _

/-! ### A key that is handed out twice -/

def listing (items : MemoryProvider) (extraKeys : List String) : Station HookedProvider :=
  leaves (start .slow) (Source.make { name := "contact" } ({ items, extraKeys } : HookedProvider)
    (.ok { backing := .memory {} }) {})

/-- An item that cannot be read is passed over, however often its key is handed out. -/
theorem hidden_key_passed_over :
    let given := listing { items := [("a", [120]), ("b", [121])], unreadable := ["b"] } ["b", "c"]
    let replies := ["a", "b", "b", "c"].map fun key => { value := key }
    ∃ items changes, yields (drain .full) given = .ok (items, none) ∧
      (ChangeScan.run (scanContext given.source false) replies [] given.host).1 = some changes ∧
      items.map OutgoingItem.key = ["a"] ∧
      items.map OutgoingItem.key = changes.keys.filter (isReadable given.source.provider) := by
  intro given replies
  have begun : given.source.report.standing ≠ .resting := by decide +kernel
  have idle : given.source.streaming = .idle := by decide +kernel
  have enumerated : (Provider.keys given.source.provider).value = .ok replies := rfl
  obtain ⟨changes, scanned⟩ := Option.isSome_iff_exists.mp (show
    (ChangeScan.run (scanContext given.source false) replies [] given.host).1.isSome from by
      decide +kernel)
  obtain ⟨items, failure, ran, -, -, streams⟩ :=
    enumeration_repeats begun idle rfl enumerated scanned
  have ended : ((yields (drain .full) given).toOption.map fun drained => drained.2.isNone) =
      some true := by decide +kernel
  rw [ran] at ended
  obtain rfl : failure = none := Option.isNone_iff_eq_none.mp (Option.some.inj ended)
  obtain ⟨streamed, -, same⟩ := streams rfl
  refine ⟨items, changes, ran, scanned, streamed.trans ?_, same.mpr ?_⟩
  · decide +kernel
  · decide +kernel

/-- A key that is handed out twice is streamed twice, and recorded once by the scan. -/
theorem repeated_key_streamed_twice :
    let given := listing { items := [("a", [120])] } ["a"]
    (yields (drain .full) given).toOption.map (fun drained =>
        (drained.1.map OutgoingItem.key, drained.2.isNone)) = some (["a", "a"], true) ∧
      (yields scan given).toOption.map ChangeSet.keys = some ["a"] ∧
      isReadable given.source.provider "a" = true := by
  decide +kernel

end SourceM

end Reconcile
