import Reconcile.Proofs.Change.Raise
import Reconcile.Proofs.Source.Streams
import Reconcile.Provider.Hooked

/-!
Sources whose flag is raised while they scan. A bucket gives none of its items then, even where the
scan had nothing left to poll for, and came to its end.
-/

namespace Reconcile

variable {P : Type} [Provider P] {station : Station P}

namespace SourceM

theorem lasting_scanContext (source : Source P) (probing : Bool) :
    (scanContext source probing).Lasting :=
  (keeps_scanContext source probing).mono ⟨fun _ => id, fun early late => late ∘ early⟩
    fun _ _ raises => raises.2 source.flag

/-! ### Buckets -/

theorem nextOfBucket_stopped (stopped : ¬ station.Calm) (bucket : ChangeBucket) (keys : List String) :
    nextOfBucket bucket keys station = .error .cancelled station := by
  cases keys with
  | nil => rw [nextOfBucket, bind_of_error (poll_of_stopped stopped)]
  | cons key rest => rw [nextOfBucket, bind_of_error (poll_of_stopped stopped)]

theorem nextChange_stopped (stopped : ¬ (leaves scanOnce station).Calm) (bucket : ChangeBucket) :
    ∃ error left, nextChange bucket station = .error error left := by
  rw [nextChange]
  cases scanned : scanOnce station with
  | error error left => exact ⟨error, left, bind_of_error scanned _⟩
  | ok value left =>
    rw [leaves_of_ok scanned] at stopped
    rw [bind_of_ok scanned, bind_of_ok (source_eq left)]
    cases left.source.streaming with
    | incremental changes cursors => exact ⟨_, _, nextOfBucket_stopped stopped bucket _⟩
    | idle => exact ⟨_, _, bind_of_error (poll_of_stopped stopped) _⟩
    | full queue => exact ⟨_, _, bind_of_error (poll_of_stopped stopped) _⟩

theorem firstChange_stopped (stopped : ¬ (leaves scanOnce station).Calm) (bucket : ChangeBucket) :
    ∃ error left, firstChange bucket station = .error error left := by
  have scans : Stays (P := P) [.streaming] scanOnce := stays_scanOnce (by simp)
  have onward : ∀ between : Station P, ¬ between.Calm →
      ∃ error left, nextChange bucket between = .error error left := by
    intro between halted
    exact nextChange_stopped (mt scans.calm halted) bucket
  rw [firstChange]
  cases scanned : scanOnce station with
  | error error left => exact ⟨error, left, bind_of_error scanned _⟩
  | ok value left =>
    rw [leaves_of_ok scanned] at stopped
    rw [bind_of_ok scanned, bind_of_ok (source_eq left)]
    cases left.source.changes? with
    | none => exact onward left stopped
    | some changes =>
      have moves : Stays (P := P) [.streaming] (moveCursor bucket (bucket.keys changes)) :=
        stays_moveCursor (by simp) bucket _
      cases moved : moveCursor bucket (bucket.keys changes) left with
      | error error after => exact ⟨error, after, bind_of_error moved _⟩
      | ok value after =>
        dsimp only
        rw [bind_of_ok moved]
        exact onward after (leaves_of_ok moved ▸ mt moves.calm stopped)

/-- A scan stops at the raise of its flag, wherever that comes: it makes no further call, gives
nothing if it had a poll left by then, and else finds what a scan finds whose flag is never raised.
The scan of a source is such a scan; and no bucket gives its first item if the flag of the source is
raised by the end of the scan. -/
theorem scan_stops_at_raise {σ τ : Type} {context : ScanContext σ} {calm : ScanContext τ}
    {view : σ → τ} (lasting : context.Lasting) (viewed : context.heedless.Viewed view calm)
    (keys : List (Reply String)) (previous : List (String × Signature)) (state : σ)
    (station : Station P) :
    ChangeScan.StopsAtRaise context calm view keys previous state ∧
    (∀ replies entries host, ChangeScan.StopsAtRaise (scanContext station.source false)
      (scanContext station.source false).heedless id replies entries host) ∧
    (¬ (leaves scanOnce station).Calm →
      ∀ bucket, ∃ error left, first (.bucket bucket) station = .error error left) := by
  refine ⟨ChangeScan.stopsAtRaise lasting viewed keys previous state, ?_, firstChange_stopped⟩
  intro replies entries host
  exact ChangeScan.stopsAtRaise (lasting_scanContext station.source false) (.refl _) _ _ _

/-! ### A flag that the last call raises -/

def unflagged (answers : ScanAnswers) : ScanContext Unit where
  isStopped _ := false
  handOut _ _ := ()
  repeated _ _ := ()
  signature key _ := ((answers.signature key).value, ())
  confirmsDeletion key _ := ((answers.confirmsDeletion key).value, ())

theorem viewed_unflagged (answers : ScanAnswers) :
    (ScanContext.fixed answers).heedless.Viewed (fun _ => ()) (unflagged answers) where
  isStopped _ := rfl
  handOut _ _ := rfl
  repeated _ _ := rfl
  signature _ _ := rfl
  confirms _ _ := rfl

theorem lasting_fixed (answers : ScanAnswers) : (ScanContext.fixed answers).Lasting where
  onward := ⟨fun _ => id, fun early late => late ∘ early⟩
  handOut _ _ raised := (Bool.or_eq_true _ _).mpr (.inl raised)
  repeated _ _ raised := raised
  signature _ _ raised := (Bool.or_eq_true _ _).mpr (.inl raised)
  confirms _ _ raised := (Bool.or_eq_true _ _).mpr (.inl raised)

/-- The flag is raised by the one call for a key. -/
def raisesAt (last : String) : ScanAnswers where
  signature key := ⟨⟨"7"⟩, key == last⟩
  confirmsDeletion key := ⟨true, key == last⟩

/-- A source in a sync, the signature of whose only item raises the flag. -/
def raising : Station HookedProvider :=
  leaves (start .twoWay) (Source.make { name := "contact" }
    { items := { items := [("a", [])] }, hooks := { cancels := [(.signature, "a")] } }
    (.ok { backing := .memory (MemoryStore.ofList [("a", "1")]) }) {})

/-- With nothing left to poll for the scan comes to its end, be it after the keys or after the
candidates for deletion, but the source gives no item. -/
theorem raise_in_last_call :
    let keys := [⟨"a", false⟩, ⟨"b", false⟩]
    let entries := [("a", ⟨"7"⟩), ("b", ⟨"1"⟩), ("gone", ⟨"1"⟩)]
    let scan := fun last entries =>
      (ChangeScan.run (ScanContext.fixed (raisesAt last)) keys entries false).1.map fun changes =>
        (changes.updated, changes.deleted)
    (ChangeScan.StopsAtRaise (ScanContext.fixed (raisesAt "gone")) (unflagged (raisesAt "gone"))
        (fun _ => ()) keys entries false ∧
      scan "gone" entries = some (["b"], ["gone"]) ∧ scan "b" entries = none ∧
      scan "b" (entries.take 2) = some (["b"], []) ∧ scan "a" (entries.take 2) = none) ∧
    succeeds scanOnce raising = true ∧
      ∃ error left, first (.bucket .updated) raising = .error error left := by
  intro keys entries scan
  have raised : ¬ (leaves scanOnce raising).Calm := by decide +kernel
  obtain ⟨stops, -, fails⟩ := scan_stops_at_raise (lasting_fixed (raisesAt "gone"))
    (viewed_unflagged _) keys entries false raising
  refine ⟨⟨stops, ?_, ?_, ?_, ?_⟩, ?_, fails raised .updated⟩
  all_goals decide +kernel

end SourceM

end Reconcile
