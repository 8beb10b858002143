import Reconcile.Proofs.Change.Calls

/-!
Stop flags that are raised during a scan. A scan polls its flag before every key and before every
candidate for deletion. It makes no call once the flag is raised, and gives nothing if it had a poll
left by then; if it had none, it finds what a scan finds that nothing stops.
-/

namespace Reconcile

inductive ScanMoment where
  | poll (key : String)
  | call (call : ScanCall)
  deriving DecidableEq

def ScanMoment.call? : ScanMoment → Option ScanCall
  | poll _ => none
  | call asked => some asked

def ScanMoment.isPoll : ScanMoment → Bool
  | poll _ => true
  | call _ => false

namespace ScanContext

variable {σ : Type}

/-- Surroundings that record the moments of a scan, each with the flag as it is then. -/
def timed (context : ScanContext σ) : ScanContext (σ × List (ScanMoment × Bool)) where
  isStopped now := context.isStopped now.1
  handOut reply now :=
    let state := context.handOut reply now.1
    (state, now.2 ++ [(.poll reply.value, context.isStopped state)])
  repeated key now := (context.repeated key now.1, now.2)
  signature key now :=
    let (present, state) := context.signature key now.1
    (present, state, now.2 ++ [(.call (.signature key), context.isStopped now.1)])
  confirmsDeletion key now :=
    let (gone, state) := context.confirmsDeletion key now.1
    let raised := context.isStopped now.1
    (gone, state, now.2 ++ [(.poll key, raised), (.call (.confirmsDeletion key), raised)])

/-- Surroundings whose stop flag nobody looks at. -/
def heedless (context : ScanContext σ) : ScanContext σ :=
  { context with isStopped := fun _ => false }

def Lasting (context : ScanContext σ) : Prop :=
  context.Keeps fun before after => context.isStopped before = true → context.isStopped after = true

theorem viewed_timed (context : ScanContext σ) : context.timed.Viewed Prod.fst context where
  isStopped _ := rfl
  handOut _ _ := rfl
  repeated _ _ := rfl
  signature _ _ := rfl
  confirms _ _ := rfl

theorem viewed_heedless (context : ScanContext σ) :
    context.timed.heedless.Viewed Prod.fst context.heedless where
  isStopped _ := rfl
  handOut _ _ := rfl
  repeated _ _ := rfl
  signature _ _ := rfl
  confirms _ _ := rfl

/-- The second of two timed states follows on the first, with the flag raised throughout if it was
raised at first. -/
def RaisedSince (context : ScanContext σ) (before after : σ × List (ScanMoment × Bool)) : Prop :=
  context.isStopped before.1 = true → context.isStopped after.1 = true ∧
    ∃ later : List ScanMoment, after.2 = before.2 ++ later.map (·, true)

theorem onward_raisedSince (context : ScanContext σ) : Onward context.RaisedSince where
  refl now raised := ⟨raised, [], (List.append_nil _).symm⟩
  trans early late raised := by
    obtain ⟨still, soon, first⟩ := early raised
    obtain ⟨last, later, second⟩ := late still
    exact ⟨last, soon ++ later, by rw [second, first, List.map_append, List.append_assoc]⟩

theorem Lasting.keeps {context : ScanContext σ} (lasting : context.Lasting) :
    context.timed.heedless.Keeps context.RaisedSince where
  onward := context.onward_raisedSince
  handOut reply now raised := by
    have still := lasting.handOut reply now.1 raised
    exact ⟨still, [.poll reply.value], by rw [← still]; rfl⟩
  repeated key now raised := ⟨lasting.repeated key now.1 raised, [], (List.append_nil _).symm⟩
  signature key now raised :=
    ⟨lasting.signature key now.1 raised, [.call (.signature key)], by rw [← raised]; rfl⟩
  confirms key now raised :=
    ⟨lasting.confirms key now.1 raised, [.poll key, .call (.confirmsDeletion key)],
      by rw [← raised]; rfl⟩

end ScanContext

namespace ChangeScan

variable {σ τ α β : Type} {context : ScanContext σ}

def callsOf (moments : List (ScanMoment × Bool)) : List (ScanCall × Bool) :=
  moments.filterMap fun moment => moment.1.call?.map (·, moment.2)

theorem callsOf_calm (before : List ScanMoment) :
    callsOf (before.map (·, false)) = (before.filterMap ScanMoment.call?).map (·, false) := by
  rw [callsOf, List.filterMap_map, List.map_filterMap]
  rfl

/-- How a scan ends beside one that does not look at the flag. Either the flag was down until the
end, and the two are the same; or a poll finds it raised, and there is no call after that. -/
inductive EndsBeside (context : ScanContext σ)
    (heeding heedless : Option α × σ × List (ScanMoment × Bool)) : Prop
  | through (before : List ScanMoment) (calm : heedless.2.2 = before.map (·, false))
      (same : heeding = heedless)
  | stopped (before : List ScanMoment) (key : String) (later : List ScanMoment)
      (raised : context.isStopped heedless.2.1 = true)
      (split : heedless.2.2 = before.map (·, false) ++ (.poll key :: later).map (·, true))
      (called : callsOf heeding.2.2 = callsOf (before.map (·, false)))
      (nothing : heeding.1 = none)

theorem EndsBeside.map {heeding heedless : Option α × σ × List (ScanMoment × Bool)}
    (ends : EndsBeside context heeding heedless) (make : α → β) :
    EndsBeside context (heeding.map (Option.map make) id) (heedless.map (Option.map make) id) := by
  cases ends with
  | through before calm same => exact .through before calm (by rw [same])
  | stopped before key later raised split called nothing =>
    refine .stopped before key later raised split called ?_
    rw [Prod.map_fst, nothing]
    rfl

/-! ### The parts of a scan -/

theorem classify_endsBeside (lasting : context.Lasting) (keys : List (Reply String))
    (found : ChangeSet) (pending : List (String × Signature)) (state : σ) (before : List ScanMoment) :
    EndsBeside context (classify context.timed keys found pending (state, before.map (·, false)))
      (classify context.timed.heedless keys found pending (state, before.map (·, false))) := by
  induction keys generalizing found pending state before with
  | nil => exact .through before rfl rfl
  | cons reply rest ih =>
    cases raised : context.isStopped (context.handOut reply state) with
    | true =>
      obtain ⟨still, later, follows⟩ := keeps_handed lasting.keeps
        (keeps_classify lasting.keeps rest) reply found pending (state, before.map (·, false)) raised
      have ended : classify context.timed (reply :: rest) found pending (state, before.map (·, false)) =
          (none, context.timed.handOut reply (state, before.map (·, false))) := if_pos raised
      have polled : (context.timed.handOut reply (state, before.map (·, false))).2 =
          before.map (·, false) ++ [(.poll reply.value, true)] := by rw [← raised]; rfl
      refine .stopped before reply.value later still ?_ ?_ (by rw [ended])
      · rw [List.map_cons, List.append_cons, ← polled]
        exact follows
      · rw [ended, polled, callsOf, List.filterMap_append]
        exact List.append_nil _
    | false =>
      -- Both scans pass the poll, and go on alike.
      have later := fun (found : ChangeSet) (pending : List (String × Signature)) (state : σ)
        (passed : List ScanMoment) => ih found pending state (before ++ passed)
      simp only [List.map_append] at later
      simp only [classify, ScanContext.timed, ScanContext.heedless, raised, Bool.false_eq_true,
        if_false] at later ⊢
      split
      · exact later _ _ _ [.poll reply.value]
      · cases takeLast reply.value pending with
        | none => exact later _ _ _ [.poll reply.value]
        | some taken =>
          dsimp only
          rw [List.append_assoc]
          split
          · exact later _ _ _ [.poll reply.value, .call (.signature reply.value)]
          · exact later _ _ _ [.poll reply.value, .call (.signature reply.value)]

theorem confirm_endsBeside (lasting : context.Lasting) (entries : List (String × Signature))
    (state : σ) (before : List ScanMoment) :
    EndsBeside context (confirm context.timed entries (state, before.map (·, false)))
      (confirm context.timed.heedless entries (state, before.map (·, false))) := by
  induction entries generalizing state before with
  | nil => exact .through before rfl rfl
  | cons entry rest ih =>
    let now := (state, before.map (·, false))
    let asked := context.timed.confirmsDeletion entry.1 now
    have answered : asked.2.2 = now.2 ++ [(.poll entry.1, context.isStopped state),
      (.call (.confirmsDeletion entry.1), context.isStopped state)] := rfl
    have goes : confirm context.timed.heedless (entry :: rest) now = _ :=
      confirm_unraised rfl entry rest
    cases raised : context.isStopped state with
    | true =>
      have ended : confirm context.timed (entry :: rest) now = (none, now) := if_pos raised
      obtain ⟨still, later, follows⟩ := keeps_confirm lasting.keeps rest asked.2
        (lasting.confirms entry.1 state raised)
      rw [raised] at answered
      refine .stopped before entry.1 (.call (.confirmsDeletion entry.1) :: later) ?_ ?_ ?_ ?_
      · rw [goes]
        exact still
      · rw [goes]
        refine follows.trans ?_
        rw [answered, List.append_assoc]
        rfl
      · rw [ended]
      · rw [ended]
    | false =>
      let passed : List ScanMoment := [.poll entry.1, .call (.confirmsDeletion entry.1)]
      have later := ih asked.2.1 (before ++ passed)
      rw [raised] at answered
      rw [List.map_append, ← (show asked.2.2 = before.map (·, false) ++ passed.map (·, false)
        from answered)] at later
      have heeds : context.timed.isStopped now = false := raised
      rw [goes, confirm_unraised heeds]
      exact later.map _

theorem run_endsBeside (lasting : context.Lasting) (keys : List (Reply String))
    (previous : List (String × Signature)) (state : σ) :
    EndsBeside context (run context.timed keys previous (state, []))
      (run context.timed.heedless keys previous (state, [])) := by
  have classified := classify_endsBeside lasting keys {} previous state []
  rw [List.map_nil] at classified
  rw [run, run]
  -- A flag that the last key raises is found by the poll for the first entry that is left.
  cases classified with
  | through before calm same =>
    rw [same]
    cases ended : classify context.timed.heedless keys {} previous (state, []) with
    | mk result middle =>
      obtain ⟨now, moments⟩ := middle
      obtain rfl : moments = before.map (·, false) := by rw [ended] at calm; exact calm
      cases result with
      | none => exact .through before rfl rfl
      | some found =>
        exact (confirm_endsBeside lasting found.2 now before).map fun deleted =>
          { found.1 with deleted, previous }
  | stopped before key later raised split called nothing =>
    cases heeded : classify context.timed keys {} previous (state, []) with
    | mk result middle =>
      rw [heeded] at called nothing
      obtain rfl : result = none := nothing
      cases ended : classify context.timed.heedless keys {} previous (state, []) with
      | mk result after =>
        rw [ended] at raised split
        cases result with
        | none => exact .stopped before key later raised split called rfl
        | some found =>
          obtain ⟨still, last, follows⟩ := keeps_confirm lasting.keeps found.2 after raised
          refine .stopped before key (later ++ last) still ?_ called rfl
          rw [← List.cons_append, List.map_append, ← List.append_assoc, ← split]
          exact follows

/-! ### The moments of a scan -/

section

variable {previous : List (String × Signature)} {seen : List String} {key : String}

/-- The moments at the keys that are handed out: a poll for each of them, and a call for the signature
of a new one that has an entry. -/
def momentsAt (previous : List (String × Signature)) : List String → List String → List ScanMoment
  | _, [] => []
  | seen, key :: rest =>
    if seen.contains key then .poll key :: momentsAt previous seen rest
    else
      .poll key ::
        (if (previous.map Prod.fst).contains key then [.call (.signature key)] else []) ++
          momentsAt previous (seen ++ [key]) rest

/-- The entries that are left when every key that is present took one, the last of its own. -/
def unmatched (present : List String) : List (String × Signature) → List (String × Signature)
  | [] => []
  | entry :: rest =>
    if present.contains entry.1 && !(rest.map Prod.fst).contains entry.1 then unmatched present rest
    else entry :: unmatched present rest

/-- The moments of a scan that nothing stops: those at the keys, and then a poll and a call for each
candidate for deletion. -/
def moments (keys : List String) (previous : List (String × Signature)) : List ScanMoment :=
  momentsAt previous [] keys ++
    (unmatched keys previous).flatMap fun entry =>
      [.poll entry.1, .call (.confirmsDeletion entry.1)]

theorem unmatched_nil (previous : List (String × Signature)) : unmatched [] previous = previous := by
  induction previous with
  | nil => rfl
  | cons entry rest ih => simp [unmatched, ih]

theorem unmatched_congr {other : List String} (same : ∀ key, key ∈ seen ↔ key ∈ other)
    (previous : List (String × Signature)) : unmatched seen previous = unmatched other previous := by
  have contains : ∀ key, seen.contains key = other.contains key := fun key => by
    rw [Bool.eq_iff_iff, List.contains_iff_mem, List.contains_iff_mem]
    exact same key
  induction previous with
  | nil => rfl
  | cons entry rest ih => simp only [unmatched, contains, ih]

theorem takeLast_unlisted (seen : List String) (unlisted : key ∉ previous.map Prod.fst) :
    takeLast key (unmatched seen previous) = none ∧
      unmatched (seen ++ [key]) previous = unmatched seen previous := by
  induction previous with
  | nil => exact ⟨rfl, rfl⟩
  | cons entry rest ih =>
    rw [List.map_cons, List.mem_cons, not_or] at unlisted
    obtain ⟨other, elsewhere⟩ := unlisted
    obtain ⟨none, same⟩ := ih elsewhere
    have others : (seen ++ [key]).contains entry.1 = seen.contains entry.1 := by
      simp [Ne.symm other]
    rw [unmatched, unmatched, others, same]
    split
    · exact ⟨none, rfl⟩
    · refine ⟨?_, rfl⟩
      rw [takeLast, none]
      exact if_neg (Ne.symm other)

theorem takeLast_listed (new : key ∉ seen) (listed : key ∈ previous.map Prod.fst) :
    ∃ cached, takeLast key (unmatched seen previous) =
      some (cached, unmatched (seen ++ [key]) previous) := by
  induction previous with
  | nil => cases listed
  | cons entry rest ih =>
    by_cases later : key ∈ rest.map Prod.fst
    · obtain ⟨cached, taken⟩ := ih later
      by_cases same : entry.1 = key
      · have after : (rest.map Prod.fst).contains entry.1 = true := by
          rw [same, List.contains_iff_mem]
          exact later
        refine ⟨cached, ?_⟩
        simp only [unmatched, after, Bool.not_true, Bool.and_false, Bool.false_eq_true, if_false,
          takeLast, taken]
      · have others : (seen ++ [key]).contains entry.1 = seen.contains entry.1 := by simp [same]
        refine ⟨cached, ?_⟩
        simp only [unmatched, others]
        split
        · exact taken
        · rw [takeLast, taken]
    · obtain ⟨none, unchanged⟩ := takeLast_unlisted seen later
      obtain rfl : key = entry.1 := by
        rcases List.mem_cons.mp listed with here | there
        · exact here
        · exact absurd there later
      have last : (rest.map Prod.fst).contains entry.1 = false :=
        Bool.eq_false_iff.mpr (mt List.contains_iff_mem.mp later)
      have kept : seen.contains entry.1 = false :=
        Bool.eq_false_iff.mpr (mt List.contains_iff_mem.mp new)
      have taken : (seen ++ [entry.1]).contains entry.1 = true := by simp
      refine ⟨entry.2, ?_⟩
      simp only [unmatched, last, kept, taken, Bool.not_false, Bool.and_true,
        Bool.false_eq_true, if_false, if_true, takeLast, none, unchanged]

/-- A scan has gone through the keys, and is left with the entries that none of them took. -/
structure GoneThrough (previous : List (String × Signature)) (seen keys : List String)
    (before : List ScanMoment)
    (ended : Option (ChangeSet × List (String × Signature)) × σ × List (ScanMoment × Bool)) : Prop where
  left : ∃ sorted, ended.1 = some (sorted, unmatched (seen ++ keys) previous)
  passed : ended.2.2.map Prod.fst = before ++ momentsAt previous seen keys

namespace GoneThrough

variable {keys : List String} {before : List ScanMoment}
  {ended : Option (ChangeSet × List (String × Signature)) × σ × List (ScanMoment × Bool)}

theorem repeated (present : key ∈ seen)
    (rest : GoneThrough previous seen keys (before ++ [.poll key]) ended) :
    GoneThrough previous seen (key :: keys) before ended where
  left := by
    have same : ∀ other, other ∈ seen ++ keys ↔ other ∈ seen ++ key :: keys := by
      intro other
      simp only [List.mem_append, List.mem_cons]
      constructor
      · exact Or.imp_right .inr
      · rintro (early | rfl | late)
        · exact .inl early
        · exact .inl present
        · exact .inr late
    rw [← unmatched_congr same]
    exact rest.left
  passed := by
    rw [rest.passed, momentsAt, if_pos (List.contains_iff_mem.mpr present), ← List.append_cons]

theorem fresh (new : key ∉ seen)
    (rest : GoneThrough previous (seen ++ [key]) keys
      (before ++ .poll key ::
        if (previous.map Prod.fst).contains key then [.call (.signature key)] else []) ended) :
    GoneThrough previous seen (key :: keys) before ended where
  left := by
    rw [List.append_cons]
    exact rest.left
  passed := by
    rw [rest.passed, momentsAt, if_neg (mt List.contains_iff_mem.mp new), List.append_assoc]

end GoneThrough

theorem classify_heedless (context : ScanContext σ) (previous : List (String × Signature))
    (keys : List (Reply String)) (found : ChangeSet) (now : σ × List (ScanMoment × Bool)) :
    GoneThrough previous found.keys (keys.map Reply.value) (now.2.map Prod.fst)
      (classify context.timed.heedless keys found (unmatched found.keys previous) now) := by
  induction keys generalizing found now with
  | nil => exact ⟨⟨found, by rw [List.map_nil, List.append_nil]; rfl⟩, (List.append_nil _).symm⟩
  | cons reply rest ih =>
    let handed := context.timed.heedless.handOut reply now
    have polled : handed.2.map Prod.fst = now.2.map Prod.fst ++ [.poll reply.value] := by
      simp [handed, ScanContext.heedless, ScanContext.timed]
    have down : context.timed.heedless.isStopped handed = false := rfl
    rw [classify, if_neg (by rw [down]; exact Bool.false_ne_true), List.map_cons]
    split
    · rename_i seen
      refine .repeated (List.contains_iff_mem.mp seen) ?_
      rw [← polled]
      exact ih found (context.timed.heedless.repeated reply.value handed)
    · rename_i unseen
      have new : reply.value ∉ found.keys := mt List.contains_iff_mem.mpr unseen
      refine .fresh new ?_
      cases listed : (previous.map Prod.fst).contains reply.value with
      | true =>
        obtain ⟨cached, taken⟩ := takeLast_listed new (List.contains_iff_mem.mp listed)
        have asked : (context.timed.heedless.signature reply.value handed).2.2.map Prod.fst =
            now.2.map Prod.fst ++ [.poll reply.value, .call (.signature reply.value)] := by
          simp [handed, ScanContext.heedless, ScanContext.timed]
        rw [taken, if_pos rfl, ← asked]
        dsimp only
        split
        · exact ih { found with keys := _, unchanged := _ } _
        · exact ih { found with keys := _, updated := _ } _
      | false =>
        obtain ⟨none, unchanged⟩ := takeLast_unlisted found.keys
          (mt List.contains_iff_mem.mpr (Bool.eq_false_iff.mp listed))
        rw [none, if_neg Bool.false_ne_true, ← unchanged, ← polled]
        exact ih { found with keys := _, added := _ } handed

theorem confirm_heedless (context : ScanContext σ) (entries : List (String × Signature))
    (now : σ × List (ScanMoment × Bool)) :
    let ended := confirm context.timed.heedless entries now
    (∃ deleted, ended.1 = some deleted) ∧
      ended.2.2.map Prod.fst = now.2.map Prod.fst ++ entries.flatMap fun entry =>
        [.poll entry.1, .call (.confirmsDeletion entry.1)] := by
  induction entries generalizing now with
  | nil => exact ⟨⟨[], rfl⟩, by simp [confirm]⟩
  | cons entry rest ih =>
    have asked : (context.timed.heedless.confirmsDeletion entry.1 now).2.2.map Prod.fst =
        now.2.map Prod.fst ++ [.poll entry.1, .call (.confirmsDeletion entry.1)] := by
      simp [ScanContext.heedless, ScanContext.timed]
    obtain ⟨⟨others, answered⟩, passed⟩ := ih (context.timed.heedless.confirmsDeletion entry.1 now).2
    dsimp only
    rw [confirm_unraised rfl, Prod.map_fst, Prod.map_snd, answered, id_eq, passed, asked]
    exact ⟨⟨_, rfl⟩, by rw [List.append_assoc, List.flatMap_cons]⟩

theorem run_heedless (context : ScanContext σ) (keys : List (Reply String))
    (previous : List (String × Signature)) (state : σ) :
    let ended := run context.timed.heedless keys previous (state, [])
    (∃ changes, ended.1 = some changes) ∧
      ended.2.2.map Prod.fst = moments (keys.map Reply.value) previous := by
  have sorting := classify_heedless context previous keys {} (state, [])
  rw [unmatched_nil] at sorting
  obtain ⟨⟨sorted, ended⟩, passed⟩ := sorting
  rw [run]
  cases classified : classify context.timed.heedless keys {} previous (state, []) with
  | mk result middle =>
    rw [classified] at ended passed
    obtain rfl : result = _ := ended
    obtain ⟨⟨deleted, confirmed⟩, asked⟩ :=
      confirm_heedless context (unmatched (keys.map Reply.value) previous) middle
    refine ⟨⟨{ sorted with deleted, previous }, ?_⟩, asked.trans (by rw [passed]; rfl)⟩
    exact congrArg (Option.map _) confirmed

end

/-! ### Raised flags -/

/-- A scan stops at the raise of its flag. Of the moments of a scan whose flag nobody looks at, which
are all that there are for these keys and entries, it makes the calls of those before the raise only,
all with the flag down. If there is a poll among those after it, it gives nothing; else it finds what a
scan finds whose flag is never raised. -/
def StopsAtRaise (context : ScanContext σ) (calm : ScanContext τ) (view : σ → τ)
    (keys : List (Reply String)) (previous : List (String × Signature)) (state : σ) : Prop :=
  ∃ (before after : List ScanMoment) (changes : ChangeSet),
    (run context.timed.heedless keys previous (state, [])).2.2 =
      before.map (·, false) ++ after.map (·, true) ∧
    before ++ after = moments (keys.map Reply.value) previous ∧
    callsOf (run context.timed keys previous (state, [])).2.2 =
      (before.filterMap ScanMoment.call?).map (·, false) ∧
    (run calm keys previous (view state)).1 = some changes ∧
    (run context keys previous state).1 =
      if after.any ScanMoment.isPoll then none else some changes

theorem stopsAtRaise {calm : ScanContext τ} {view : σ → τ} (lasting : context.Lasting)
    (viewed : context.heedless.Viewed view calm) (keys : List (Reply String))
    (previous : List (String × Signature)) (state : σ) :
    StopsAtRaise context calm view keys previous state := by
  obtain ⟨⟨changes, whole⟩, passed⟩ := run_heedless context keys previous state
  have plain := run_viewed context.viewed_timed keys previous (state, [])
  have found : (run calm keys previous (view state)).1 = some changes := by
    rw [run_viewed viewed, Prod.map_fst, id_eq]
    have heedless := run_viewed context.viewed_heedless keys previous (state, [])
    rw [heedless]
    exact whole
  have same : (run context keys previous state).1 =
      (run context.timed keys previous (state, [])).1 := by
    rw [plain]
    rfl
  have all : ∀ {before after : List ScanMoment},
      (run context.timed.heedless keys previous (state, [])).2.2 =
        before.map (·, false) ++ after.map (·, true) →
      before ++ after = moments (keys.map Reply.value) previous := by
    intro before after split
    rw [← passed, split]
    simp [Function.comp_def]
  rw [StopsAtRaise, found, same]
  cases run_endsBeside lasting keys previous state with
  | through before calm same =>
    have split : (run context.timed.heedless keys previous (state, [])).2.2 =
        before.map (·, false) ++ ([] : List ScanMoment).map (·, true) := by
      rw [calm, List.map_nil, List.append_nil]
    refine ⟨before, [], changes, split, all split, ?_, rfl, ?_⟩
    · rw [same, calm, callsOf_calm]
    · rw [same]
      exact whole
  | stopped before key later raised split called nothing =>
    exact ⟨before, .poll key :: later, changes, split, all split, called.trans (callsOf_calm before),
      rfl, nothing⟩

end ChangeScan

end Reconcile
