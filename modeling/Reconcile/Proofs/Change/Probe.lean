import Mathlib.Data.List.Nodup
import Reconcile.Proofs.Change.Calls

/-!
The probe beside the scan. The probe stops at the first key that a scan would find added or updated,
and compares the number of keys with that of the entries if there is none. It answers that nothing
changed exactly where the entries are those of the handed out keys, with their present signatures; a
scan finds nothing then, whatever deletions it has confirmed.
-/

namespace Reconcile

def ScanAnswers.signing (sign : String → Signature) : ScanAnswers where
  signature key := { value := sign key }
  confirmsDeletion _ := { value := true }

def ScanCall.signed? : ScanCall → Option String
  | signature key => some key
  | confirmsDeletion _ => none

namespace ChangeScan

variable {σ : Type} {context : ScanContext σ} {answers : ScanAnswers} {keys : List (Reply String)}
  {previous : List (String × Signature)}

/-! ### The entries as the probe reads them -/

theorem length_distinctKeys (distinct : (previous.map Prod.fst).Nodup) :
    (distinctKeys previous).length = previous.length := by
  rw [distinctKeys, eraseDups_of_nodup distinct, List.length_map]

theorem lookupLast_eq (key : String) (distinct : (previous.map Prod.fst).Nodup) :
    lookupLast key previous = previous.lookup key := by
  have reversed : (previous.reverse.map Prod.fst).Nodup := by
    rw [List.map_reverse]
    exact List.nodup_reverse.mpr distinct
  refine Option.ext fun signature => ?_
  rw [lookupLast, Entries.lookup_eq_some reversed, Entries.lookup_eq_some distinct, List.mem_reverse]

def isCurrent (answers : ScanAnswers) (previous : List (String × Signature)) (key : String) : Bool :=
  previous.lookup key == some (answers.signature key).value

structure Unchanged (answers : ScanAnswers) (keys : List (Reply String))
    (previous : List (String × Signature)) : Prop where
  current : ∀ key ∈ present keys, isCurrent answers previous key = true
  whole : missing (present keys) previous = []

theorem length_present_add_missing (distinct : (previous.map Prod.fst).Nodup)
    (known : ∀ key ∈ present keys, (previous.lookup key).isSome) :
    (present keys).length + (missing (present keys) previous).length = previous.length := by
  have found : ((previous.map Prod.fst).filter (present keys).contains).Perm (present keys) := by
    refine (List.perm_ext_iff_of_nodup (distinct.filter _) nodup_present).mpr fun key => ?_
    rw [List.mem_filter, List.contains_iff_mem, and_iff_right_iff_imp]
    exact fun listed => Entries.isSome_lookup.mp (known key listed)
  have split : (previous.map Prod.fst).length = _ :=
    List.length_eq_length_filter_add (present keys).contains
  rw [found.length_eq, ← keys_missing, List.length_map, List.length_map] at split
  exact split.symm

/-! ### The answer of the probe -/

/-- The first of some keys: a repeated one is passed over, and so is one that did not change; any
other one is a difference. Its signature is taken only if there is one to compare it with. -/
theorem probeFrom_cons (gives : context.Gives answers) (distinct : (previous.map Prod.fst).Nodup)
    (reply : Reply String) (rest : List (Reply String)) (seen : List String) (state : σ) :
    let handed := context.handOut reply state
    let signed := (context.signature reply.value handed).2
    probeFrom context previous (reply :: rest) seen state =
      if context.isStopped handed then (none, handed)
      else if seen.contains reply.value then probeFrom context previous rest seen handed
      else if isCurrent answers previous reply.value then
        probeFrom context previous rest (seen ++ [reply.value]) signed
      else (some true, if (previous.lookup reply.value).isSome then signed else handed) := by
  intro handed signed
  rw [probeFrom, lookupLast_eq _ distinct, isCurrent]
  cases previous.lookup reply.value with
  | none => rfl
  | some cached =>
    simp only [gives.signature, Option.isSome_some, if_true, Option.some_beq_some, beq_iff_eq,
      eq_comm (a := cached)]
    rfl

theorem probeFrom_of_some (gives : context.Gives answers) (distinct : (previous.map Prod.fst).Nodup)
    (keys : List (Reply String)) (seen : List String) {state ended : σ} {answer : Bool}
    (probed : probeFrom context previous keys seen state = (some answer, ended)) :
    answer = ((unseen seen keys).any (fun key => !isCurrent answers previous key) ||
      (seen ++ unseen seen keys).length != previous.length) := by
  induction keys generalizing seen state with
  | nil =>
    obtain ⟨told, -⟩ := Prod.mk.inj probed
    rw [← Option.some.inj told, length_distinctKeys distinct]
    simp [unseen, List.removeAll]
  | cons reply rest ih =>
    rw [probeFrom_cons gives distinct] at probed
    split at probed
    · cases probed
    · split at probed
      · rename_i known
        rw [unseen_known rest known]
        exact ih seen probed
      · rename_i new
        rw [unseen_new rest (eq_false_of_ne_true new), List.any_cons]
        split at probed
        · rename_i current
          rw [ih _ probed, current, List.append_assoc]
          rfl
        · rename_i changed
          obtain ⟨told, -⟩ := Prod.mk.inj probed
          rw [← Option.some.inj told, eq_false_of_ne_true changed]
          rfl

theorem unchanged_of_probe (gives : context.Gives answers) (distinct : (previous.map Prod.fst).Nodup)
    {state ended : σ} {answer : Bool} (probed : probe context keys previous state = (some answer, ended)) :
    answer = false ↔ Unchanged answers keys previous := by
  have told := probeFrom_of_some gives distinct keys [] probed
  rw [unseen_nil, List.nil_append] at told
  rw [told, Bool.or_eq_false_iff, List.any_eq_false, bne_eq_false_iff_eq]
  simp only [Bool.not_eq_true', Bool.not_eq_false]
  have counted : (∀ key ∈ present keys, isCurrent answers previous key = true) →
      ((present keys).length = previous.length ↔ missing (present keys) previous = []) := by
    intro current
    have known : ∀ key ∈ present keys, (previous.lookup key).isSome := fun key listed => by
      rw [beq_iff_eq.mp (current key listed)]
      rfl
    rw [← length_present_add_missing distinct known, Nat.left_eq_add, List.length_eq_zero_iff]
  constructor
  · rintro ⟨current, same⟩
    exact ⟨current, (counted current).mp same⟩
  · intro unchanged
    exact ⟨unchanged.current, (counted unchanged.current).mpr unchanged.whole⟩

/-! ### The calls of the probe -/

/-- A probe asks for signatures only, and for the first of those that a scan asks for. -/
theorem calls_probeFrom (gives : context.Gives answers) (distinct : (previous.map Prod.fst).Nodup)
    (keys : List (Reply String)) (seen : List String) (state : σ) (calls : List ScanCall) :
    ∃ asked, (probeFrom context.recording previous keys seen (state, calls)).2.2 =
        calls ++ asked.map .signature ∧
      asked <+: (unseen seen keys).filter fun key => (previous.lookup key).isSome := by
  have silent : ∀ (calls : List ScanCall) (keys : List String), ∃ asked : List String,
      calls = calls ++ asked.map .signature ∧ asked <+: keys :=
    fun calls _ => ⟨[], (List.append_nil calls).symm, List.nil_prefix⟩
  induction keys generalizing seen state calls with
  | nil => exact silent calls _
  | cons reply rest ih =>
    rw [probeFrom_cons gives.recording distinct]
    split
    · exact silent calls _
    · split
      · rename_i known
        rw [unseen_known rest known]
        exact ih seen _ calls
      · rename_i new
        rw [unseen_new rest (eq_false_of_ne_true new), List.filter_cons]
        split
        · rename_i current
          have known : (previous.lookup reply.value).isSome := by
            rw [beq_iff_eq.mp current]
            rfl
          obtain ⟨asked, more, part⟩ := ih (seen ++ [reply.value])
            (context.signature reply.value (context.handOut reply state)).2
            (calls ++ [.signature reply.value])
          rw [if_pos known]
          refine ⟨reply.value :: asked, more.trans ?_, (List.prefix_cons_inj _).mpr part⟩
          rw [List.append_assoc]
          rfl
        · cases (previous.lookup reply.value).isSome with
          | false => exact silent calls _
          | true => exact ⟨[reply.value], rfl, List.prefix_append [reply.value] _⟩

theorem probeFrom_calm (gives : context.Gives answers) (distinct : (previous.map Prod.fst).Nodup)
    (steady : ∀ key, (answers.signature key).cancels = false) {keys : List (Reply String)}
    (quiet : ∀ reply ∈ keys, reply.cancels = false) (seen : List String) {state : σ}
    (began : context.isStopped state = false) :
    ∃ answer ended, probeFrom context previous keys seen state = (some answer, ended) ∧
      context.isStopped ended = false := by
  induction keys generalizing seen state with
  | nil => exact ⟨_, state, rfl, began⟩
  | cons reply rest ih =>
    obtain ⟨still, later⟩ := List.forall_mem_cons.mp quiet
    have handed : context.isStopped (context.handOut reply state) = false := by
      rw [gives.handOut_stops, began, still]
      rfl
    have signed : context.isStopped
        (context.signature reply.value (context.handOut reply state)).2 = false := by
      rw [gives.signature_stops, handed, steady]
      rfl
    rw [probeFrom_cons gives distinct, if_neg (by rw [handed]; exact Bool.false_ne_true)]
    split
    · exact ih later seen handed
    · split
      · exact ih later _ signed
      · refine ⟨_, _, rfl, ?_⟩
        split
        · exact signed
        · exact handed

/-! ### Where the scan finds nothing -/

theorem Unchanged.isEmpty_partition {other : ScanAnswers} (unchanged : Unchanged answers keys previous)
    (signs : ∀ key, (other.signature key).value = (answers.signature key).value) :
    (partition other keys previous).isEmpty = true := by
  have known : ∀ key ∈ present keys, previous.lookup key = some (other.signature key).value :=
    fun key listed => (signs key).symm ▸ beq_iff_eq.mp (unchanged.current key listed)
  have added : (partition other keys previous).added = [] :=
    List.filter_eq_nil_iff.mpr fun key listed => by simp [known key listed]
  have updated : (partition other keys previous).updated = [] :=
    List.filter_eq_nil_iff.mpr fun key listed => by simp [known key listed]
  have deleted : (partition other keys previous).deleted = [] := by
    rw [partition, unchanged.whole]
    rfl
  rw [ChangeSet.isEmpty, added, updated, deleted]
  rfl

theorem unchanged_iff_isEmpty (confirms : ∀ key, (answers.confirmsDeletion key).value = true) :
    Unchanged answers keys previous ↔ (partition answers keys previous).isEmpty = true := by
  refine ⟨fun unchanged => unchanged.isEmpty_partition fun _ => rfl, fun empty => ?_⟩
  simp only [ChangeSet.isEmpty, Bool.and_eq_true, List.isEmpty_iff] at empty
  obtain ⟨⟨added, updated⟩, deleted⟩ := empty
  constructor
  case current =>
    intro key listed
    have unadded := List.filter_eq_nil_iff.mp added key listed
    have same := List.filter_eq_nil_iff.mp updated key listed
    rw [isCurrent]
    cases found : previous.lookup key with
    | none => simp [found] at unadded
    | some cached => simpa [found] using same
  case whole =>
    have confirmed : (partition answers keys previous).deleted =
        (missing (present keys) previous).map Prod.fst :=
      List.filter_eq_self.mpr fun key _ => confirms key
    rwa [confirmed, List.map_eq_nil_iff] at deleted

/-- A probe that nothing stops says whether the scan finds anything, and asks for the first of the
signatures that the scan asks for. -/
theorem probe_signing (sign : String → Signature) (keys : List String)
    (distinct : (previous.map Prod.fst).Nodup) :
    let context := (ScanContext.fixed (.signing sign)).recording
    let replies := keys.map fun key => { value := key }
    ∃ answer asked changes calls,
      probe context replies previous (false, []) = (some answer, false, asked.map .signature) ∧
      run context replies previous (false, []) = (some changes, false, calls) ∧
      (answer = true ↔ changes.isEmpty = false) ∧ asked <+: calls.filterMap ScanCall.signed? := by
  intro context replies
  have gives := ScanContext.gives_fixed (.signing sign)
  have quiet : ∀ reply ∈ replies, Reply.cancels reply = false := by
    rintro reply member
    obtain ⟨key, _, rfl⟩ := List.mem_map.mp member
    rfl
  have calm : cancels (.signing sign) replies previous = false := by
    simpa [cancels, ScanAnswers.signing] using quiet
  obtain ⟨answer, ⟨raised, asking⟩, probed, down⟩ := probeFrom_calm gives.recording distinct
    (fun _ => rfl) quiet [] (show context.isStopped (false, []) = false from rfl)
  obtain rfl : raised = false := down
  obtain ⟨asked, asks, part⟩ := calls_probeFrom gives distinct replies [] false []
  have scanning := run_eq gives.recording distinct replies (false, [])
  have called := calls_run gives distinct replies false []
  cases scanned : run context replies previous (false, []) with
  | mk found ended =>
    obtain ⟨stopped, calls⟩ := ended
    rw [scanned] at scanning called
    obtain ⟨ends, finds⟩ := scanning
    obtain rfl : stopped = false := ends.trans calm
    obtain rfl : found = some _ := finds rfl
    obtain rfl : calls = _ := called rfl
    have unchanged := unchanged_of_probe gives.recording distinct probed
    rw [unchanged_iff_isEmpty fun _ => rfl] at unchanged
    have same : asking = asked.map .signature := by
      rw [probed] at asks
      exact asks
    have signed : ([] ++ ((present replies).filter fun key => (previous.lookup key).isSome).map
          ScanCall.signature ++ ((missing (present replies) previous).map Prod.fst).map
          ScanCall.confirmsDeletion).filterMap ScanCall.signed? =
        (present replies).filter fun key => (previous.lookup key).isSome := by
      simp [List.filterMap_append, List.filterMap_map, ScanCall.signed?, Function.comp_def]
    rw [unseen_nil] at part
    refine ⟨answer, asked, _, _, probed.trans (same ▸ rfl), rfl, ?_, signed.symm ▸ part⟩
    rw [← Bool.not_eq_false, unchanged, Bool.not_eq_true]

end ChangeScan

end Reconcile
