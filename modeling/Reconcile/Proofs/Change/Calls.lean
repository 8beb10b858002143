import Reconcile.Proofs.Change.Partition

/-!
The calls of a change scan. A scan that nothing stops asks for the signatures of the keys that have
an entry, and after them whether the missing keys are really deleted, each of them once and in order.
-/

namespace Reconcile

inductive ScanCall where
  | signature (key : String)
  | confirmsDeletion (key : String)
  deriving DecidableEq

namespace ScanContext

/-- Surroundings that are answered by others, over the part of their state that these know. -/
structure Viewed {σ τ : Type} (context : ScanContext σ) (view : σ → τ) (other : ScanContext τ) :
    Prop where
  isStopped : ∀ state, other.isStopped (view state) = context.isStopped state
  handOut : ∀ reply state, other.handOut reply (view state) = view (context.handOut reply state)
  repeated : ∀ key state, other.repeated key (view state) = view (context.repeated key state)
  signature : ∀ key state,
    other.signature key (view state) = (context.signature key state).map id view
  confirms : ∀ key state,
    other.confirmsDeletion key (view state) = (context.confirmsDeletion key state).map id view

variable {σ : Type}

def recording (context : ScanContext σ) : ScanContext (σ × List ScanCall) where
  isStopped now := context.isStopped now.1
  handOut reply now := (context.handOut reply now.1, now.2)
  repeated key now := (context.repeated key now.1, now.2)
  signature key now :=
    let (present, state) := context.signature key now.1
    (present, state, now.2 ++ [.signature key])
  confirmsDeletion key now :=
    let (gone, state) := context.confirmsDeletion key now.1
    (gone, state, now.2 ++ [.confirmsDeletion key])

theorem Viewed.refl (context : ScanContext σ) : context.Viewed id context where
  isStopped _ := rfl
  handOut _ _ := rfl
  repeated _ _ := rfl
  signature _ _ := rfl
  confirms _ _ := rfl

theorem viewed_recording (context : ScanContext σ) : context.recording.Viewed Prod.fst context where
  isStopped _ := rfl
  handOut _ _ := rfl
  repeated _ _ := rfl
  signature _ _ := rfl
  confirms _ _ := rfl

theorem Gives.recording {context : ScanContext σ} {answers : ScanAnswers}
    (gives : context.Gives answers) : context.recording.Gives answers where
  signature key now := gives.signature key now.1
  confirms key now := gives.confirms key now.1
  handOut_stops reply now := gives.handOut_stops reply now.1
  repeated_stops key now := gives.repeated_stops key now.1
  signature_stops key now := gives.signature_stops key now.1
  confirms_stops key now := gives.confirms_stops key now.1

def fixed (answers : ScanAnswers) : ScanContext Bool where
  isStopped raised := raised
  handOut reply raised := raised || reply.cancels
  repeated _ raised := raised
  signature key raised :=
    ((answers.signature key).value, raised || (answers.signature key).cancels)
  confirmsDeletion key raised :=
    ((answers.confirmsDeletion key).value, raised || (answers.confirmsDeletion key).cancels)

theorem gives_fixed (answers : ScanAnswers) : (fixed answers).Gives answers where
  signature _ _ := rfl
  confirms _ _ := rfl
  handOut_stops _ _ := rfl
  repeated_stops _ _ := rfl
  signature_stops _ _ := rfl
  confirms_stops _ _ := rfl

end ScanContext

namespace ChangeScan

variable {σ τ : Type} {context : ScanContext σ} {other : ScanContext τ} {view : σ → τ}
  {answers : ScanAnswers} {previous : List (String × Signature)}

/-! ### Scans that go the same way -/

theorem classify_viewed (viewed : context.Viewed view other) (keys : List (Reply String))
    (found : ChangeSet) (pending : List (String × Signature)) (state : σ) :
    classify other keys found pending (view state) =
      (classify context keys found pending state).map id view := by
  induction keys generalizing found pending state with
  | nil => rfl
  | cons reply rest ih =>
    rw [classify, classify]
    simp only [viewed.handOut, viewed.isStopped]
    split
    · rfl
    · split
      · rw [viewed.repeated]
        exact ih _ _ _
      · cases takeLast reply.value pending with
        | none => exact ih _ _ _
        | some taken =>
          simp only [viewed.signature, Prod.map, id_eq]
          split <;> exact ih _ _ _

theorem confirm_viewed (viewed : context.Viewed view other) (entries : List (String × Signature))
    (state : σ) : confirm other entries (view state) = (confirm context entries state).map id view := by
  induction entries generalizing state with
  | nil => rfl
  | cons entry rest ih =>
    rw [confirm, confirm, viewed.isStopped, viewed.confirms]
    split
    · rfl
    · simp only [Prod.map, id_eq, ih]

theorem run_viewed (viewed : context.Viewed view other) (keys : List (Reply String))
    (previous : List (String × Signature)) (state : σ) :
    run other keys previous (view state) = (run context keys previous state).map id view := by
  rw [run, run, classify_viewed viewed]
  cases classify context keys {} previous state with
  | mk result middle =>
    cases result with
    | none => rfl
    | some found =>
      dsimp only [Prod.map, id_eq]
      rw [confirm_viewed viewed]
      rfl

theorem run_recording (context : ScanContext σ) (keys : List (Reply String))
    (previous : List (String × Signature)) (state : σ) (calls : List ScanCall) :
    (run context.recording keys previous (state, calls)).map id Prod.fst =
      run context keys previous state :=
  (run_viewed context.viewed_recording keys previous (state, calls)).symm

/-! ### The calls -/

theorem calls_classify (gives : context.Gives answers) (distinct : (previous.map Prod.fst).Nodup)
    (keys : List (Reply String)) (seen : List String) (state : σ) (calls : List ScanCall) :
    let ended := classify context.recording keys (sorted answers previous seen)
      (missing seen previous) (state, calls)
    context.isStopped ended.2.1 = false →
      ended.2.2 = calls ++
        ((unseen seen keys).filter fun key => (previous.lookup key).isSome).map .signature := by
  induction keys generalizing seen state calls with
  | nil => simp [classify, unseen, List.removeAll]
  | cons reply rest ih =>
    intro ended running
    cases stopped : context.isStopped (context.handOut reply state) with
    | true =>
      have ends : ended = (none, context.handOut reply state, calls) := if_pos stopped
      rw [ends, stopped] at running
      cases running
    | false =>
      have handed : context.recording.isStopped
          (context.recording.handOut reply (state, calls)) = false := stopped
      cases known : seen.contains reply.value with
      | true =>
        have follows : ended = classify context.recording rest (sorted answers previous seen)
            (missing seen previous) _ := classify_known answers rest handed known
        rw [follows] at running ⊢
        rw [unseen_known rest known]
        exact ih seen _ calls running
      | false =>
        have follows := classify_new gives.recording distinct rest handed known
        change ended = _ at follows
        rw [follows] at running ⊢
        rw [unseen_new rest known, List.filter_cons]
        generalize (previous.lookup reply.value).isSome = matched at running ⊢
        cases matched with
        | false => exact ih _ _ calls running
        | true =>
          simp only [if_true, List.map_cons] at running ⊢
          rw [List.append_cons calls]
          exact ih _ _ (calls ++ [.signature reply.value]) running

theorem calls_confirm (context : ScanContext σ) (entries : List (String × Signature)) (state : σ)
    (calls : List ScanCall) :
    let ended := confirm context.recording entries (state, calls)
    context.isStopped ended.2.1 = false →
      ended.2.2 = calls ++ (entries.map Prod.fst).map .confirmsDeletion := by
  induction entries generalizing state calls with
  | nil => simp [confirm]
  | cons entry rest ih =>
    intro ended running
    cases stopped : context.isStopped state with
    | true =>
      have ends : ended = (none, state, calls) := if_pos stopped
      rw [ends, stopped] at running
      cases running
    | false =>
      have down : context.recording.isStopped (state, calls) = false := stopped
      have follows : ended = _ := confirm_unraised down entry rest
      rw [follows, Prod.map_snd, id_eq] at running ⊢
      refine (ih _ _ running).trans ?_
      rw [List.append_assoc]
      rfl

theorem calls_run (gives : context.Gives answers) (distinct : (previous.map Prod.fst).Nodup)
    (keys : List (Reply String)) (state : σ) (calls : List ScanCall) :
    let ended := run context.recording keys previous (state, calls)
    context.isStopped ended.2.1 = false →
      ended.2.2 = calls ++
        ((present keys).filter fun key => (previous.lookup key).isSome).map .signature ++
          ((missing (present keys) previous).map Prod.fst).map .confirmsDeletion := by
  have signing := calls_classify gives distinct keys [] state calls
  have sorting := (classify_eq gives.recording distinct keys [] (state, calls)).2
  simp only [sorted_nil, missing_nil, unseen_nil, List.nil_append] at signing sorting
  intro ended running
  have begun : ended = run context.recording keys previous (state, calls) := rfl
  rw [run] at begun
  cases classified : classify context.recording keys {} previous (state, calls) with
  | mk result middle =>
    rw [classified] at begun signing sorting
    cases result with
    | none =>
      rw [begun] at running
      cases sorting running
    | some found =>
      obtain ⟨changes, pending⟩ := found
      have later : ended.2 = (confirm context.recording pending middle).2 := by rw [begun]
      rw [later] at running ⊢
      -- A flag that is down after the deletions was down before them.
      have down : context.isStopped middle.1 = false := by
        have ends := (confirm_eq gives.recording pending middle).1
        change context.isStopped _ = (context.isStopped middle.1 || _) at ends
        rw [running] at ends
        exact (Bool.or_eq_false_iff.mp ends.symm).1
      obtain ⟨-, rfl⟩ := Prod.mk.inj (Option.some.inj (sorting down))
      rw [calls_confirm context _ middle.1 middle.2 running, signing down]

/-! ### Scans that nothing stops -/

theorem keys_missing (present : List String) (previous : List (String × Signature)) :
    (missing present previous).map Prod.fst =
      (previous.map Prod.fst).filter fun key => !present.contains key := by
  rw [missing, List.filter_map]
  rfl

/-- A scan that nothing stops sorts the keys, each at its first occurrence, against the previous
entries: those without an entry, those with another signature, and those with the same one, in the
order in which they were handed out; and of the previous keys that were not handed out those that are
really deleted, in the order of the entries. It asks once for the signature of every handed out key
that has an entry, and after that once for the deletion of every key that was not handed out. -/
theorem scan_sorts_keys (gives : context.Gives answers) (distinct : (previous.map Prod.fst).Nodup)
    (keys : List (Reply String)) (state : σ) (began : context.isStopped state = false)
    (calm : cancels answers keys previous = false) (calls : List ScanCall) :
    let ended := run context.recording keys previous (state, calls)
    let present := (keys.map Reply.value).eraseDups
    let absent := (previous.map Prod.fst).filter fun key => !present.contains key
    (ended.1, ended.2.1) = run context keys previous state ∧
    ended.1 = some
      { keys := present
        added := present.filter fun key => (previous.lookup key).isNone
        updated := present.filter fun key =>
          (previous.lookup key).any fun cached => cached != (answers.signature key).value
        unchanged := present.filter fun key =>
          (previous.lookup key).any fun cached => cached == (answers.signature key).value
        deleted := absent.filter fun key => (answers.confirmsDeletion key).value
        previous } ∧
    ended.2.2 = calls ++
      (present.filter fun key => (previous.lookup key).isSome).map .signature ++
        absent.map .confirmsDeletion := by
  intro ended present absent
  obtain ⟨ends, finds⟩ := run_eq gives.recording distinct keys (state, calls)
  have running : context.isStopped ended.2.1 = false := by
    rw [calm, Bool.or_false] at ends
    exact ends.trans began
  have absentees : (missing present previous).map Prod.fst = absent := keys_missing present previous
  refine ⟨run_recording context keys previous state calls, ?_, ?_⟩
  · rw [← absentees]
    exact finds running
  · rw [← absentees]
    exact calls_run gives distinct keys state calls running

def uniform : ScanAnswers where
  signature _ := ⟨⟨"7"⟩, false⟩
  confirmsDeletion key := ⟨key == "gone", false⟩

def fourEntries : List (String × Signature) :=
  [("a", ⟨"7"⟩), ("b", ⟨"1"⟩), ("gone", ⟨"7"⟩), ("vetoed", ⟨"7"⟩)]

theorem repeated_key_scanned_once :
    run (ScanContext.fixed uniform).recording [⟨"b", false⟩, ⟨"new", false⟩, ⟨"a", false⟩, ⟨"b", false⟩]
        fourEntries (false, []) =
      (some
        { keys := ["b", "new", "a"], added := ["new"], updated := ["b"], unchanged := ["a"]
          deleted := ["gone"], previous := fourEntries },
        false, [.signature "b", .signature "a", .confirmsDeletion "gone", .confirmsDeletion "vetoed"]) := by
  have distinct : (fourEntries.map Prod.fst).Nodup := by decide
  obtain ⟨-, found, asked⟩ := scan_sorts_keys (ScanContext.gives_fixed uniform) distinct
    [⟨"b", false⟩, ⟨"new", false⟩, ⟨"a", false⟩, ⟨"b", false⟩] false rfl (by decide +kernel) []
  exact Prod.ext (found.trans (by decide +kernel))
    (Prod.ext (by decide +kernel) (asked.trans (by decide +kernel)))

end ChangeScan

end Reconcile
