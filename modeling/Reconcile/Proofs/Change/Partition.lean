import Reconcile.Change.Scan
import Reconcile.Entries
import Reconcile.Proofs.Run

/-!
The change scan as a partition. Where the surroundings of a scan give fixed answers, a scan that
is not stopped sorts the keys, each at its first occurrence, against the previous entries; and it
ends stopped exactly when it began so or one of the calls it makes asks for that.
-/

namespace Reconcile

structure ScanAnswers where
  signature : String → Reply Signature
  confirmsDeletion : String → Reply Bool

/-- Surroundings that give fixed answers, and raise the stop flag only on request. -/
structure ScanContext.Gives {σ : Type} (context : ScanContext σ) (answers : ScanAnswers) : Prop where
  signature : ∀ key state, (context.signature key state).1 = (answers.signature key).value
  confirms : ∀ key state, (context.confirmsDeletion key state).1 = (answers.confirmsDeletion key).value
  handOut_stops : ∀ reply state, context.isStopped (context.handOut reply state) =
    (context.isStopped state || reply.cancels)
  repeated_stops : ∀ key state, context.isStopped (context.repeated key state) = context.isStopped state
  signature_stops : ∀ key state, context.isStopped (context.signature key state).2 =
    (context.isStopped state || (answers.signature key).cancels)
  confirms_stops : ∀ key state, context.isStopped (context.confirmsDeletion key state).2 =
    (context.isStopped state || (answers.confirmsDeletion key).cancels)

structure ScanContext.Keeps {σ : Type} (context : ScanContext σ) (relation : σ → σ → Prop) : Prop where
  onward : Onward relation
  handOut : ∀ reply state, relation state (context.handOut reply state)
  repeated : ∀ key state, relation state (context.repeated key state)
  signature : ∀ key state, relation state (context.signature key state).2
  confirms : ∀ key state, relation state (context.confirmsDeletion key state).2

theorem ScanContext.Keeps.mono {σ : Type} {context : ScanContext σ} {relation weaker : σ → σ → Prop}
    (keeps : context.Keeps relation) (onward : Onward weaker)
    (fewer : ∀ before after, relation before after → weaker before after) : context.Keeps weaker where
  onward := onward
  handOut reply state := fewer _ _ (keeps.handOut reply state)
  repeated key state := fewer _ _ (keeps.repeated key state)
  signature key state := fewer _ _ (keeps.signature key state)
  confirms key state := fewer _ _ (keeps.confirms key state)

namespace ChangeScan

/-! ### What a scan keeps -/

section Keeps

variable {σ : Type} {context : ScanContext σ} {relation : σ → σ → Prop}

theorem keeps_handed (keeps : context.Keeps relation) {rest : List (Reply String)}
    (later : ∀ found pending state, relation state (classify context rest found pending state).2)
    (reply : Reply String) (found : ChangeSet) (pending : List (String × Signature)) (state : σ) :
    relation (context.handOut reply state)
      (classify context (reply :: rest) found pending state).2 := by
  rw [classify]
  dsimp only
  split
  · exact keeps.onward.refl _
  · split
    · exact keeps.onward.trans (keeps.repeated _ _) (later _ _ _)
    · split
      · exact later _ _ _
      · have signed := keeps.signature reply.value (context.handOut reply state)
        split <;> exact keeps.onward.trans signed (later _ _ _)

theorem keeps_classify (keeps : context.Keeps relation) (keys : List (Reply String))
    (found : ChangeSet) (pending : List (String × Signature)) (state : σ) :
    relation state (classify context keys found pending state).2 := by
  induction keys generalizing found pending state with
  | nil => exact keeps.onward.refl state
  | cons reply rest ih =>
    exact keeps.onward.trans (keeps.handOut reply state) (keeps_handed keeps ih reply _ _ _)

theorem keeps_confirm (keeps : context.Keeps relation) (entries : List (String × Signature))
    (state : σ) : relation state (confirm context entries state).2 := by
  induction entries generalizing state with
  | nil => exact keeps.onward.refl state
  | cons entry rest ih =>
    rw [confirm]
    split
    · exact keeps.onward.refl state
    · exact keeps.onward.trans (keeps.confirms _ _) (ih _)

theorem keeps_run (keeps : context.Keeps relation) (keys : List (Reply String))
    (previous : List (String × Signature)) (state : σ) :
    relation state (run context keys previous state).2 := by
  have classified := keeps_classify keeps keys {} previous state
  rw [run]
  split
  · rename_i ended
    rwa [ended] at classified
  · rename_i ended
    rw [ended] at classified
    exact keeps.onward.trans classified (keeps_confirm keeps _ _)

theorem keeps_probeFrom (keeps : context.Keeps relation) (previous : List (String × Signature))
    (keys : List (Reply String)) (seen : List String) (state : σ) :
    relation state (probeFrom context previous keys seen state).2 := by
  induction keys generalizing seen state with
  | nil => exact keeps.onward.refl state
  | cons reply rest ih =>
    have handed := keeps.handOut reply state
    rw [probeFrom]
    dsimp only
    split
    · exact handed
    · split
      · exact keeps.onward.trans handed (ih _ _)
      · split
        · exact handed
        · have signed := keeps.onward.trans handed
            (keeps.signature reply.value (context.handOut reply state))
          split
          · exact keeps.onward.trans signed (ih _ _)
          · exact signed

end Keeps

/-! ### What a scan finds -/

def present (keys : List (Reply String)) : List String := (keys.map Reply.value).eraseDups

def missing (present : List String) (previous : List (String × Signature)) :
    List (String × Signature) :=
  previous.filter fun entry => !present.contains entry.1

def sorted (answers : ScanAnswers) (previous : List (String × Signature)) (present : List String) :
    ChangeSet where
  keys := present
  added := present.filter fun key => (previous.lookup key).isNone
  updated := present.filter fun key =>
    (previous.lookup key).any fun cached => cached != (answers.signature key).value
  unchanged := present.filter fun key =>
    (previous.lookup key).any fun cached => cached == (answers.signature key).value

/-- What a scan finds when nothing stops it. -/
def partition (answers : ScanAnswers) (keys : List (Reply String))
    (previous : List (String × Signature)) : ChangeSet :=
  { sorted answers previous (present keys) with
    deleted := ((missing (present keys) previous).map Prod.fst).filter fun key =>
      (answers.confirmsDeletion key).value
    previous }

def cancels (answers : ScanAnswers) (keys : List (Reply String))
    (previous : List (String × Signature)) : Bool :=
  keys.any Reply.cancels ||
    (present keys).any (fun key => (previous.lookup key).isSome && (answers.signature key).cancels) ||
    (missing (present keys) previous).any fun entry => (answers.confirmsDeletion entry.1).cancels

variable {σ : Type} {context : ScanContext σ} {answers : ScanAnswers}
  {previous : List (String × Signature)}

theorem takeLast_eq (key : String) {entries : List (String × Signature)}
    (distinct : (entries.map Prod.fst).Nodup) :
    takeLast key entries =
      (entries.lookup key).map fun signature => (signature, Entries.without key entries) := by
  induction entries with
  | nil => rfl
  | cons entry rest ih =>
    rw [List.map_cons, List.nodup_cons] at distinct
    rw [takeLast, ih distinct.2, Entries.lookup_cons]
    by_cases same : key = entry.1
    · subst same
      have absent : rest.lookup entry.1 = none := by
        rw [← Option.not_isSome_iff_eq_none, Entries.isSome_lookup]
        exact distinct.1
      have kept : Entries.without entry.1 (entry :: rest) = rest := by
        rw [Entries.without, List.filter_cons, bne_self_eq_false, if_neg Bool.false_ne_true]
        refine List.filter_eq_self.mpr fun other member => bne_iff_ne.mpr fun equal => distinct.1 ?_
        exact equal ▸ List.mem_map_of_mem member
      simp [absent, kept]
    · have dropped : Entries.without key (entry :: rest) = entry :: Entries.without key rest := by
        rw [Entries.without, List.filter_cons, if_pos (bne_iff_ne.mpr (Ne.symm same))]
        rfl
      cases found : rest.lookup key with
      | none => simp [same, Ne.symm same]
      | some signature => simp [same, dropped]

theorem missing_concat (seen : List String) (key : String) :
    missing (seen ++ [key]) previous = Entries.without key (missing seen previous) := by
  rw [missing, missing, Entries.without, List.filter_filter]
  refine List.filter_congr fun entry _ => ?_
  rw [List.contains_eq_any_beq, List.contains_eq_any_beq, List.any_append, Bool.not_or]
  simp [Bool.and_comm, bne]

theorem lookup_missing {seen : List String} {key : String} (new : seen.contains key = false) :
    (missing seen previous).lookup key = previous.lookup key := by
  induction previous with
  | nil => rfl
  | cons entry rest ih =>
    rw [missing, List.filter_cons, Entries.lookup_cons]
    by_cases same : key = entry.1
    · subst same
      rw [new, Bool.not_false, if_pos rfl, Entries.lookup_cons, if_pos rfl, if_pos rfl]
    · rw [if_neg same]
      split
      · rw [Entries.lookup_cons, if_neg same]
        exact ih
      · exact ih

theorem nodup_missing (distinct : (previous.map Prod.fst).Nodup) (seen : List String) :
    ((missing seen previous).map Prod.fst).Nodup :=
  distinct.sublist (List.filter_sublist.map _)

def unseen (seen : List String) (keys : List (Reply String)) : List String :=
  ((keys.map Reply.value).removeAll seen).eraseDups

theorem unseen_nil (keys : List (Reply String)) : unseen [] keys = present keys := by
  rw [unseen, present, List.removeAll_nil]

theorem missing_nil (previous : List (String × Signature)) : missing [] previous = previous :=
  List.filter_eq_self.mpr fun _ _ => rfl

theorem sorted_nil (answers : ScanAnswers) (previous : List (String × Signature)) :
    sorted answers previous [] = {} := rfl

theorem unseen_known {seen : List String} {reply : Reply String} (rest : List (Reply String))
    (known : seen.contains reply.value = true) : unseen seen (reply :: rest) = unseen seen rest := by
  rw [unseen, List.map_cons, List.removeAll, List.filter_cons, List.elem_eq_contains, known]
  rfl

theorem unseen_new {seen : List String} {reply : Reply String} (rest : List (Reply String))
    (new : seen.contains reply.value = false) :
    unseen seen (reply :: rest) = reply.value :: unseen (seen ++ [reply.value]) rest := by
  have later : ((rest.map Reply.value).removeAll seen).filter (fun key => !key == reply.value) =
      (rest.map Reply.value).removeAll (seen ++ [reply.value]) := by
    rw [List.removeAll, List.removeAll, List.filter_filter]
    refine List.filter_congr fun key _ => ?_
    simp [Bool.beq_eq_decide_eq, Bool.and_comm]
  rw [unseen, List.map_cons, List.removeAll, List.filter_cons, List.elem_eq_contains, new,
    Bool.not_false, if_pos rfl, List.eraseDups_cons, ← List.removeAll, later]
  rfl

theorem classify_known (answers : ScanAnswers) {seen : List String} {reply : Reply String}
    (rest : List (Reply String)) {state : σ}
    (running : context.isStopped (context.handOut reply state) = false)
    (known : seen.contains reply.value = true) :
    classify context (reply :: rest) (sorted answers previous seen) (missing seen previous) state =
      classify context rest (sorted answers previous seen) (missing seen previous)
        (context.repeated reply.value (context.handOut reply state)) := by
  rw [classify]
  simp only [running, sorted, known, if_true, Bool.false_eq_true, if_false]

/-- A key that is seen for the first time moves from the previous entries to its place. Its
signature is taken only if there is one to compare it with. -/
theorem classify_new (gives : context.Gives answers) (distinct : (previous.map Prod.fst).Nodup)
    {seen : List String} {reply : Reply String} (rest : List (Reply String)) {state : σ}
    (running : context.isStopped (context.handOut reply state) = false)
    (new : seen.contains reply.value = false) :
    classify context (reply :: rest) (sorted answers previous seen) (missing seen previous) state =
      classify context rest (sorted answers previous (seen ++ [reply.value]))
        (missing (seen ++ [reply.value]) previous)
        (if (previous.lookup reply.value).isSome then
          (context.signature reply.value (context.handOut reply state)).2
        else context.handOut reply state) := by
  have taken := takeLast_eq reply.value (nodup_missing distinct seen)
  rw [lookup_missing new, ← missing_concat] at taken
  rw [classify]
  simp only [running, Bool.false_eq_true, if_false, taken]
  have unlisted : (sorted answers previous seen).keys.contains reply.value = false := new
  rw [unlisted, if_neg Bool.false_ne_true]
  cases found : previous.lookup reply.value with
  | none =>
    have kept : missing (seen ++ [reply.value]) previous = missing seen previous := by
      rw [missing_concat]
      refine List.filter_eq_self.mpr fun entry member => bne_iff_ne.mpr fun same => ?_
      have held : (previous.lookup entry.1).isSome :=
        Entries.isSome_lookup.mpr (List.mem_map_of_mem (List.mem_filter.mp member).1)
      rw [same, found] at held
      cases held
    rw [kept]
    simp [sorted, List.filter_append, found]
  | some cached =>
    have signed := gives.signature reply.value (context.handOut reply state)
    simp only [Option.map_some, signed, Option.isSome_some, if_true]
    by_cases same : (answers.signature reply.value).value = cached
    · simp [same, sorted, List.filter_append, found]
    · simp [same, Ne.symm same, sorted, List.filter_append, found]

theorem classify_eq (gives : context.Gives answers) (distinct : (previous.map Prod.fst).Nodup)
    (keys : List (Reply String)) (seen : List String) (state : σ) :
    let ended := classify context keys (sorted answers previous seen) (missing seen previous) state
    context.isStopped ended.2 = (context.isStopped state || keys.any Reply.cancels ||
        (unseen seen keys).any fun key =>
          (previous.lookup key).isSome && (answers.signature key).cancels) ∧
      (context.isStopped ended.2 = false →
        ended.1 = some (sorted answers previous (seen ++ unseen seen keys),
          missing (seen ++ unseen seen keys) previous)) := by
  induction keys generalizing seen state with
  | nil => simp [classify, unseen, List.removeAll]
  | cons reply rest ih =>
    have handed := gives.handOut_stops reply state
    intro ended
    rw [List.any_cons, ← Bool.or_assoc (context.isStopped state), ← handed]
    cases stopped : context.isStopped (context.handOut reply state) with
    | true =>
      have ends : ended = (none, context.handOut reply state) := if_pos stopped
      rw [ends, stopped]
      simp
    | false =>
      rw [Bool.false_or]
      cases known : seen.contains reply.value with
      | true =>
        have follows : ended = classify context rest (sorted answers previous seen)
            (missing seen previous) (context.repeated reply.value (context.handOut reply state)) :=
          classify_known answers rest stopped known
        have further := ih seen (context.repeated reply.value (context.handOut reply state))
        rw [gives.repeated_stops, stopped, Bool.false_or] at further
        rw [follows, unseen_known rest known]
        exact further
      | false =>
        have further := ih (seen ++ [reply.value])
          (if (previous.lookup reply.value).isSome then
            (context.signature reply.value (context.handOut reply state)).2
          else context.handOut reply state)
        rw [← classify_new gives distinct rest stopped known] at further
        obtain ⟨ends, finds⟩ := further
        rw [unseen_new rest known, List.any_cons]
        refine ⟨ends.trans ?_, fun running => (finds running).trans ?_⟩
        · cases previous.lookup reply.value with
          | none => simp [stopped]
          | some cached => simp [gives.signature_stops, stopped, Bool.or_left_comm, Bool.or_assoc]
        · rw [List.append_assoc, List.singleton_append]

theorem classify_cut (gives : context.Gives answers) {keys : List (Reply String)} (listed : keys ≠ [])
    (found : ChangeSet) (pending : List (String × Signature)) {state : σ}
    (raised : context.isStopped state = true ∨ ∃ reply ∈ keys, reply.cancels = true) :
    (classify context keys found pending state).1 = none := by
  induction keys generalizing found pending state with
  | nil => exact absurd rfl listed
  | cons reply rest ih =>
    rw [classify]
    dsimp only
    split
    · rfl
    · rename_i down
      -- The poll of this key found the flag down, so it is a later key that raises it.
      rw [gives.handOut_stops, Bool.or_eq_true, not_or] at down
      obtain ⟨later, member, cancels⟩ := raised.resolve_left down.1
      have among : later ∈ rest := (List.mem_cons.mp member).resolve_left fun same =>
        down.2 (same ▸ cancels)
      have goes := fun (found : ChangeSet) (pending : List (String × Signature)) (state : σ) =>
        @ih (List.ne_nil_of_mem among) found pending state (.inr ⟨later, among, cancels⟩)
      split
      · exact goes _ _ _
      · split
        · exact goes _ _ _
        · split <;> exact goes _ _ _

theorem run_cut (gives : context.Gives answers) {keys : List (Reply String)} (listed : keys ≠ [])
    (previous : List (String × Signature)) {state : σ}
    (raised : context.isStopped state = true ∨ ∃ reply ∈ keys, reply.cancels = true) :
    (run context keys previous state).1 = none := by
  have cut := classify_cut gives listed {} previous raised
  rw [run]
  split
  · rfl
  · rename_i classified
    rw [classified] at cut
    cases cut

theorem confirm_unraised {state : σ} (down : context.isStopped state = false)
    (entry : String × Signature) (rest : List (String × Signature)) :
    let asked := context.confirmsDeletion entry.1 state
    confirm context (entry :: rest) state = (confirm context rest asked.2).map
      (Option.map fun keys => if asked.1 then entry.1 :: keys else keys) id := by
  intro asked
  rw [confirm, if_neg (by rw [down]; exact Bool.false_ne_true)]
  rfl

theorem confirm_eq (gives : context.Gives answers) (entries : List (String × Signature)) (state : σ) :
    let ended := confirm context entries state
    context.isStopped ended.2 = (context.isStopped state ||
        entries.any fun entry => (answers.confirmsDeletion entry.1).cancels) ∧
      (context.isStopped ended.2 = false →
        ended.1 =
          some ((entries.map Prod.fst).filter fun key => (answers.confirmsDeletion key).value)) := by
  induction entries generalizing state with
  | nil => simp [confirm]
  | cons entry rest ih =>
    intro ended
    cases stopped : context.isStopped state with
    | true =>
      have ends : ended = (none, state) := if_pos stopped
      rw [ends, stopped]
      simp
    | false =>
      have asked := gives.confirms_stops entry.1 state
      obtain ⟨ends, finds⟩ := ih (context.confirmsDeletion entry.1 state).2
      have goes : ended = _ := confirm_unraised stopped entry rest
      rw [goes, Prod.map_snd, id_eq]
      refine ⟨?_, fun running => ?_⟩
      · rw [ends, asked, stopped, List.any_cons, Bool.false_or, Bool.false_or]
      · rw [Prod.map_fst, finds running, gives.confirms, Option.map_some, List.map_cons,
          List.filter_cons]

theorem classify_of_some (gives : context.Gives answers) (distinct : (previous.map Prod.fst).Nodup)
    (keys : List (Reply String)) (seen : List String) {state ended : σ}
    {result : ChangeSet × List (String × Signature)}
    (classified : classify context keys (sorted answers previous seen) (missing seen previous) state =
      (some result, ended)) :
    result = (sorted answers previous (seen ++ unseen seen keys),
      missing (seen ++ unseen seen keys) previous) := by
  induction keys generalizing seen state with
  | nil =>
    rw [← Option.some.inj (Prod.mk.inj classified).1]
    simp [unseen, List.removeAll]
  | cons reply rest ih =>
    cases stopped : context.isStopped (context.handOut reply state) with
    | true =>
      have ends : classify context (reply :: rest) (sorted answers previous seen)
          (missing seen previous) state = (none, context.handOut reply state) := if_pos stopped
      rw [ends] at classified
      cases classified
    | false =>
      cases known : seen.contains reply.value with
      | true =>
        rw [classify_known answers rest stopped known] at classified
        rw [unseen_known rest known]
        exact ih seen classified
      | false =>
        rw [classify_new gives distinct rest stopped known] at classified
        have further := ih _ classified
        rwa [List.append_assoc, List.singleton_append, ← unseen_new rest known] at further

theorem confirm_of_some (gives : context.Gives answers) (entries : List (String × Signature))
    {state ended : σ} {deleted : List String}
    (confirmed : confirm context entries state = (some deleted, ended)) :
    deleted = (entries.map Prod.fst).filter fun key => (answers.confirmsDeletion key).value := by
  induction entries generalizing state ended deleted with
  | nil =>
    rw [← Option.some.inj (Prod.mk.inj confirmed).1]
    rfl
  | cons entry rest ih =>
    rw [confirm] at confirmed
    split at confirmed
    · cases confirmed
    · dsimp only at confirmed
      cases further : confirm context rest (context.confirmsDeletion entry.1 state).2 with
      | mk others last =>
        rw [further] at confirmed
        cases others with
        | none => cases confirmed
        | some keys =>
          obtain ⟨found, -⟩ := Prod.mk.inj confirmed
          rw [← Option.some.inj found, ih further, gives.confirms, List.map_cons, List.filter_cons]

theorem run_of_some (gives : context.Gives answers) (distinct : (previous.map Prod.fst).Nodup)
    (keys : List (Reply String)) {state ended : σ} {changes : ChangeSet}
    (ran : run context keys previous state = (some changes, ended)) :
    changes = partition answers keys previous := by
  rw [run] at ran
  cases classified : classify context keys {} previous state with
  | mk result middle =>
    rw [classified] at ran
    cases result with
    | none => cases ran
    | some found =>
      have sorting := classify_of_some gives distinct keys []
        (by rw [sorted_nil, missing_nil]; exact classified)
      rw [unseen_nil, List.nil_append] at sorting
      subst sorting
      dsimp only at ran
      cases confirmed : confirm context (missing (present keys) previous) middle with
      | mk deleted last =>
        rw [confirmed] at ran
        cases deleted with
        | none => cases ran
        | some gone =>
          obtain ⟨found, -⟩ := Prod.mk.inj ran
          rw [← Option.some.inj found, confirm_of_some gives _ confirmed]
          rfl

/-- A scan ends stopped exactly when it began so or a call of it asks for that; and a scan that
does not end stopped gives the partition. -/
theorem run_eq (gives : context.Gives answers) (distinct : (previous.map Prod.fst).Nodup)
    (keys : List (Reply String)) (state : σ) :
    let ended := run context keys previous state
    context.isStopped ended.2 = (context.isStopped state || cancels answers keys previous) ∧
      (context.isStopped ended.2 = false → ended.1 = some (partition answers keys previous)) := by
  have sorting := classify_eq gives distinct keys [] state
  simp only [sorted_nil, missing_nil, unseen_nil, List.nil_append] at sorting
  obtain ⟨ends, finds⟩ := sorting
  intro ended
  have shown : ended = run context keys previous state := rfl
  rw [shown, run]
  cases classified : classify context keys {} previous state with
  | mk result middle =>
    rw [classified] at ends finds
    have confirming := confirm_eq gives (missing (present keys) previous) middle
    cases result with
    | none =>
      have stopped : context.isStopped middle = true := by
        cases running : context.isStopped middle with
        | true => rfl
        | false => exact nomatch finds running
      have asked := ends.symm.trans stopped
      simp only [stopped, Bool.true_eq_false, false_implies, and_true, cancels]
      rw [← Bool.or_assoc, ← Bool.or_assoc, asked, Bool.true_or]
    | some found =>
      obtain ⟨changes, pending⟩ := found
      cases stopped : context.isStopped middle with
      | true =>
        have settled := (confirm_eq gives pending middle).1
        rw [stopped, Bool.true_or] at settled
        have asked := ends.symm.trans stopped
        show context.isStopped (confirm context pending middle).2 = _ ∧
          (context.isStopped (confirm context pending middle).2 = false → _)
        simp only [settled, Bool.true_eq_false, false_implies, and_true, cancels]
        rw [← Bool.or_assoc, ← Bool.or_assoc, asked, Bool.true_or]
      | false =>
        obtain ⟨rfl, rfl⟩ := Prod.mk.inj (Option.some.inj (finds stopped))
        obtain ⟨closes, confirms⟩ := confirming
        refine ⟨?_, fun running => ?_⟩
        · show context.isStopped (confirm context _ middle).2 = _
          rw [closes, ends, cancels, ← Bool.or_assoc, ← Bool.or_assoc]
        · have gone := confirms running
          simp only [gone, Option.map_some]
          rfl

/-! ### The buckets of a partition -/

theorem eraseDups_of_nodup {items : List String} (distinct : items.Nodup) : items.eraseDups = items := by
  induction items with
  | nil => rfl
  | cons item rest ih =>
    obtain ⟨new, later⟩ := List.nodup_cons.mp distinct
    have others : rest.filter (fun other => !other == item) = rest :=
      List.filter_eq_self.mpr fun other member => by
        have different : other ≠ item := fun same => new (same ▸ member)
        simp [different]
    rw [List.eraseDups_cons, others, ih later]

theorem eraseDups_filter (keep : String → Bool) (items : List String) :
    (items.filter keep).eraseDups = items.eraseDups.filter keep := by
  induction length : items.length using Nat.strongRecOn generalizing items with
  | ind bound ih =>
    cases items with
    | nil => rfl
    | cons item rest =>
      have others := ih _ (length ▸ Nat.lt_succ_of_le (List.length_filter_le _ rest))
        (rest.filter fun other => !other == item) rfl
      rw [List.eraseDups_cons, List.filter_cons, List.filter_cons, ← others, List.filter_filter]
      cases kept : keep item with
      | true =>
        rw [if_pos rfl, if_pos rfl, List.eraseDups_cons, List.filter_filter]
        simp only [Bool.and_comm]
      | false =>
        rw [if_neg Bool.false_ne_true, if_neg Bool.false_ne_true]
        refine congrArg List.eraseDups (List.filter_congr fun other _ => ?_)
        cases same : other == item with
        | true => simp [beq_iff_eq.mp same, kept]
        | false => simp

section Buckets

variable {keys : List (Reply String)} {key : String}

theorem mem_present : key ∈ present keys ↔ key ∈ keys.map Reply.value := List.mem_eraseDups

theorem nodup_present : (present keys).Nodup := Entries.nodup_eraseDups _

theorem mem_added : key ∈ (partition answers keys previous).added ↔
    key ∈ present keys ∧ previous.lookup key = none := by
  simp [partition, sorted]

theorem mem_updated : key ∈ (partition answers keys previous).updated ↔
    key ∈ present keys ∧
      ∃ cached, previous.lookup key = some cached ∧ cached ≠ (answers.signature key).value := by
  simp [partition, sorted, Option.any_eq_true]

theorem mem_unchanged : key ∈ (partition answers keys previous).unchanged ↔
    key ∈ present keys ∧ previous.lookup key = some (answers.signature key).value := by
  simp [partition, sorted, Option.any_eq_true]

theorem mem_deleted : key ∈ (partition answers keys previous).deleted ↔
    key ∈ previous.map Prod.fst ∧ key ∉ present keys ∧
      (answers.confirmsDeletion key).value = true := by
  simp only [partition, missing, List.mem_filter, List.mem_map, Bool.not_eq_true',
    List.contains_eq_mem, decide_eq_false_iff_not]
  constructor
  · rintro ⟨⟨entry, ⟨member, gone⟩, rfl⟩, confirmed⟩
    exact ⟨⟨entry, member, rfl⟩, gone, confirmed⟩
  · rintro ⟨⟨entry, member, rfl⟩, gone, confirmed⟩
    exact ⟨⟨entry, ⟨member, gone⟩, rfl⟩, confirmed⟩

theorem mem_updated_iff : key ∈ (partition answers keys previous).updated ↔
    key ∈ present keys ∧ previous.lookup key ≠ none ∧
      previous.lookup key ≠ some (answers.signature key).value := by
  rw [mem_updated]
  cases previous.lookup key <;> simp

theorem mem_deleted_iff : key ∈ (partition answers keys previous).deleted ↔
    key ∉ present keys ∧ (answers.confirmsDeletion key).value = true ∧
      previous.lookup key ≠ none := by
  rw [mem_deleted, ← Entries.isSome_lookup, Option.isSome_iff_ne_none, and_comm, and_assoc]

end Buckets

/-! ### Caches that a scan cannot tell apart -/

def SendAlike (first second : ChangeSet) : Prop :=
  ∀ key, (key ∈ first.added ↔ key ∈ second.added) ∧
    (key ∈ first.updated ↔ key ∈ second.updated) ∧ (key ∈ first.deleted ↔ key ∈ second.deleted)

/-- Two caches that agree in what a scan asks of them: both or neither know a key that is present or
really deleted, and both or neither have the signature of a present key. -/
structure Agree (answers : ScanAnswers) (keys : List (Reply String))
    (first second : List (String × Signature)) : Prop where
  known : ∀ key, key ∈ present keys ∨ (answers.confirmsDeletion key).value = true →
    (first.lookup key = none ↔ second.lookup key = none)
  signed : ∀ key ∈ present keys, (first.lookup key = some (answers.signature key).value ↔
    second.lookup key = some (answers.signature key).value)

theorem sendAlike_iff_agree {keys : List (Reply String)}
    {first second : List (String × Signature)} :
    SendAlike (partition answers keys first) (partition answers keys second) ↔
      Agree answers keys first second := by
  constructor
  · intro alike
    have known : ∀ key, key ∈ present keys ∨ (answers.confirmsDeletion key).value = true →
        (first.lookup key = none ↔ second.lookup key = none) := by
      intro key asked
      obtain ⟨added, _, deleted⟩ := alike key
      by_cases listed : key ∈ present keys
      · rwa [mem_added, mem_added, and_congr_right_iff, imp_iff_right listed] at added
      · have gone := asked.resolve_left listed
        rw [mem_deleted_iff, mem_deleted_iff, and_congr_right_iff, imp_iff_right listed,
          and_congr_right_iff, imp_iff_right gone] at deleted
        exact Decidable.not_iff_not.mp deleted
    refine ⟨known, fun key listed => ?_⟩
    have updated := (alike key).2.1
    have absent := known key (.inl listed)
    rw [mem_updated_iff, mem_updated_iff, and_congr_right_iff, imp_iff_right listed] at updated
    by_cases missed : first.lookup key = none
    · rw [missed, absent.mp missed]
    · have held := fun gone => missed (absent.mpr gone)
      rw [and_iff_right missed, and_iff_right held] at updated
      exact Decidable.not_iff_not.mp updated
  · intro agree key
    rw [mem_added, mem_added, mem_updated_iff, mem_updated_iff, mem_deleted_iff, mem_deleted_iff]
    refine ⟨and_congr_right fun listed => agree.known key (.inl listed), ?_, ?_⟩
    · exact and_congr_right fun listed =>
        and_congr (not_congr (agree.known key (.inl listed))) (not_congr (agree.signed key listed))
    · exact and_congr_right fun _ => and_congr_right fun gone =>
        not_congr (agree.known key (.inr gone))

/-! ### The next partition -/

/-- Entries that came out of the previous ones by confirming some of the keys: a present key has its
present signature from then on, and a missing one has no entry. -/
structure Confirms (answers : ScanAnswers) (keys : List (Reply String)) (sure : String → Bool)
    (previous after : List (String × Signature)) : Prop where
  unsure : ∀ key, sure key = false → after.lookup key = previous.lookup key
  taken : ∀ key ∈ present keys, sure key = true →
    after.lookup key = some (answers.signature key).value
  gone : ∀ key, key ∉ present keys → sure key = true → after.lookup key = none
  order : (missing (present keys) after).Sublist (missing (present keys) previous)

namespace Confirms

variable {keys : List (Reply String)} {sure : String → Bool} {after : List (String × Signature)}

theorem added_eq (confirms : Confirms answers keys sure previous after) :
    (partition answers keys after).added =
      (partition answers keys previous).added.filter fun key => !sure key := by
  show (present keys).filter _ = ((present keys).filter _).filter _
  rw [List.filter_filter]
  refine List.filter_congr fun key listed => ?_
  cases confirmed : sure key with
  | false => simp [confirms.unsure key confirmed]
  | true => simp [confirms.taken key listed confirmed]

theorem updated_eq (confirms : Confirms answers keys sure previous after) :
    (partition answers keys after).updated =
      (partition answers keys previous).updated.filter fun key => !sure key := by
  show (present keys).filter _ = ((present keys).filter _).filter _
  rw [List.filter_filter]
  refine List.filter_congr fun key listed => ?_
  cases confirmed : sure key with
  | false => simp [confirms.unsure key confirmed]
  | true => simp [confirms.taken key listed confirmed]

theorem mem_missing {seen : List String} {entries : List (String × Signature)} {key : String} :
    key ∈ (missing seen entries).map Prod.fst ↔ key ∉ seen ∧ (entries.lookup key).isSome := by
  rw [Entries.isSome_lookup]
  simp [missing, and_comm]

theorem missing_eq (confirms : Confirms answers keys sure previous after)
    (distinct : (previous.map Prod.fst).Nodup) :
    (missing (present keys) after).map Prod.fst =
      ((missing (present keys) previous).map Prod.fst).filter fun key => !sure key := by
  have once := nodup_missing distinct (present keys)
  have part := confirms.order.map Prod.fst
  have open_ : ∀ key ∈ (missing (present keys) after).map Prod.fst, (!sure key) = true := by
    intro key member
    obtain ⟨absent, held⟩ := mem_missing.mp member
    cases confirmed : sure key with
    | false => rfl
    | true =>
      rw [confirms.gone key absent confirmed] at held
      cases held
  have sub := part.filter fun key => !sure key
  rw [List.filter_eq_self.mpr open_] at sub
  refine sub.eq_of_length (List.Perm.length_eq ?_)
  rw [List.perm_ext_iff_of_nodup (once.sublist part) (once.filter _)]
  intro key
  rw [List.mem_filter, mem_missing, mem_missing]
  cases confirmed : sure key with
  | false => simp [confirms.unsure key confirmed]
  | true =>
    refine ⟨fun ⟨absent, held⟩ => ?_, fun ⟨_, kept⟩ => nomatch kept⟩
    rw [confirms.gone key absent confirmed] at held
    cases held

theorem deleted_eq (confirms : Confirms answers keys sure previous after)
    (distinct : (previous.map Prod.fst).Nodup) :
    (partition answers keys after).deleted =
      (partition answers keys previous).deleted.filter fun key => !sure key := by
  show ((missing (present keys) after).map Prod.fst).filter _ =
    (((missing (present keys) previous).map Prod.fst).filter _).filter _
  rw [confirms.missing_eq distinct, List.filter_filter, List.filter_filter]
  exact List.filter_congr fun key _ => Bool.and_comm _ _

end Confirms

end ChangeScan

end Reconcile
