import Reconcile.Proofs.Session.Ledger

/-!
Full servers. A server is known to be full exactly when the first final verdict of a sending says so.
-/

namespace Reconcile

/-- The first final verdict after the sending of an item says that the server is full. -/
def Filled (steps : List UploadStep) : Prop :=
  ∃ earlier item later verdict, steps = earlier ++ .send item :: later ∧
    firstFinal item.key later = some verdict ∧ verdict.code.isFull = true

theorem Filled.cons {steps : List UploadStep} (filled : Filled steps) (taken : UploadStep) :
    Filled (taken :: steps) := by
  obtain ⟨earlier, item, later, verdict, rfl, final, full⟩ := filled
  exact ⟨taken :: earlier, item, later, verdict, rfl, final, full⟩

theorem mem_sentKeys (earlier later : List UploadStep) (item : OutgoingItem) :
    item.key ∈ sentKeys (earlier ++ .send item :: later) := by
  refine List.mem_map_of_mem (List.mem_filterMap.mpr ⟨.send item, ?_, rfl⟩)
  exact List.mem_append_right _ List.mem_cons_self

theorem answerTo_split {earlier later : List UploadStep} {item : OutgoingItem}
    (distinct : (sentKeys (earlier ++ .send item :: later)).Nodup) :
    answerTo item.key (earlier ++ .send item :: later) = firstFinal item.key later := by
  induction earlier with
  | nil => exact if_pos rfl
  | cons taken rest ih =>
    cases taken with
    | hear verdict => exact ih distinct
    | send other =>
      obtain ⟨once, others⟩ : other.key ∉ sentKeys (rest ++ .send item :: later) ∧
          (sentKeys (rest ++ .send item :: later)).Nodup := List.nodup_cons.mp distinct
      have different : other.key ≠ item.key := fun same =>
        once (same ▸ mem_sentKeys rest later item)
      rw [List.cons_append, answerTo, if_neg different]
      exact ih others

theorem SourceM.fills_iff {rule : SuccessRule} {verdict : Verdict} :
    fills rule verdict = true ↔ verdict.code.isChunkAck = false ∧ verdict.code.isFull = true := by
  have refused : verdict.code.isFull = true → rule.isSuccess verdict.code = false := by
    intro full
    rw [eq_of_beq full]
    cases rule <;> rfl
  simp only [fills, Bool.and_eq_true, Bool.not_eq_true']
  constructor
  · rintro ⟨⟨final, -⟩, full⟩
    exact ⟨final, full⟩
  · rintro ⟨final, full⟩
    exact ⟨⟨final, refused full⟩, full⟩

namespace Ledger

variable {terms : Terms} {ledger : Ledger} {key : String} {verdict : Verdict}

theorem full_hear (ledger : Ledger) (verdict : Verdict) :
    (ledger.step terms (.hear verdict)).full = (ledger.full ||
      (ledger.inFlight.waiting verdict.id).isSome && SourceM.fills terms.rule verdict) := by
  rw [step]
  cases ledger.inFlight.waiting verdict.id with
  | none => exact (Bool.or_false _).symm
  | some command => rfl

theorem full_of_full (steps : List UploadStep) (full : ledger.full = true) :
    (ledger.run terms steps).full = true := by
  induction steps generalizing ledger with
  | nil => exact full
  | cons taken rest ih =>
    rw [run_cons]
    cases taken with
    | send item => exact ih full
    | hear verdict => exact ih (by rw [full_hear, full, Bool.true_or])

theorem full_of_waiting (steps : List UploadStep) (waits : (ledger.inFlight.waiting key).isSome)
    (final : firstFinal key steps = some verdict) (full : verdict.code.isFull = true) :
    (ledger.run terms steps).full = true := by
  induction steps generalizing ledger with
  | nil => cases final
  | cons taken rest ih =>
    rw [run_cons]
    cases taken with
    | send item =>
      refine ih ?_ final
      rw [waiting_send]
      split
      · rfl
      · exact waits
    | hear other =>
      rw [firstFinal] at final
      split at final
      · rename_i first
        obtain ⟨rfl, settles⟩ := first
        obtain rfl := Option.some.inj final
        refine full_of_full rest ?_
        rw [full_hear, waits, SourceM.fills_iff.mpr ⟨settles, full⟩, Bool.true_and, Bool.or_true]
      · rename_i later
        refine ih ?_ final
        rwa [waiting_hear, if_neg later]

theorem full_of_filled {steps : List UploadStep} (filled : Filled steps) :
    (ledger.run terms steps).full = true := by
  obtain ⟨earlier, item, later, verdict, rfl, final, full⟩ := filled
  rw [run_append, run_cons]
  refine full_of_waiting later ?_ final full
  rw [waiting_send, if_pos rfl]
  rfl

/-- Where the server turns out to be full, it was so before, or the first final verdict of an item
says so, one that was in flight or one that is sent. -/
theorem filled_of_full (steps : List UploadStep) (full : (ledger.run terms steps).full = true) :
    ledger.full = true ∨
      (∃ key verdict, (ledger.inFlight.waiting key).isSome ∧
        firstFinal key steps = some verdict ∧ verdict.code.isFull = true) ∨ Filled steps := by
  induction steps generalizing ledger with
  | nil => exact .inl full
  | cons taken rest ih =>
    rw [run_cons] at full
    cases taken with
    | send item =>
      rcases ih full with known | ⟨key, verdict, waits, final, fills⟩ | filled
      · exact .inl known
      · rw [waiting_send] at waits
        split at waits
        · rename_i own
          subst own
          exact .inr (.inr ⟨[], item, rest, verdict, rfl, final, fills⟩)
        · exact .inr (.inl ⟨key, verdict, waits, final, fills⟩)
      · exact .inr (.inr (filled.cons _))
    | hear other =>
      rcases ih full with known | ⟨key, verdict, waits, final, fills⟩ | filled
      · rw [full_hear, Bool.or_eq_true, Bool.and_eq_true, SourceM.fills_iff] at known
        rcases known with known | ⟨waits, settles, fills⟩
        · exact .inl known
        · refine .inr (.inl ⟨other.id, other, waits, ?_, fills⟩)
          rw [firstFinal, if_pos ⟨rfl, settles⟩]
      · rw [waiting_hear] at waits
        split at waits
        · cases waits
        · rename_i later
          refine .inr (.inl ⟨key, verdict, waits, ?_, fills⟩)
          rw [firstFinal, if_neg later]
          exact final
      · exact .inr (.inr (filled.cons _))

/-- An upload finds the server full exactly when a first final verdict says so. -/
theorem full_iff_filled {base : List (String × Signature)} {steps : List UploadStep} :
    (Ledger.run terms { entries := base } steps).full = true ↔ Filled steps := by
  refine ⟨fun full => ?_, full_of_filled⟩
  rcases filled_of_full steps full with known | ⟨key, verdict, waits, _⟩ | filled
  · cases known
  · cases waits
  · exact filled

end Ledger

theorem filled_append_sends (steps : List UploadStep) (items : List OutgoingItem) :
    Filled (steps ++ items.map .send) ↔ Filled steps := by
  have terms : Terms := { rule := .syncML, sign := fun _ => none }
  have reads : ∀ steps, (Ledger.run terms { entries := [] } steps).full = true ↔ Filled steps :=
    fun _ => Ledger.full_iff_filled
  rw [← reads, ← reads, Ledger.run_append, (Ledger.run_sends _ _ _).2]

end Reconcile
