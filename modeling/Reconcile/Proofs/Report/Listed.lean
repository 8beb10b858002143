import Reconcile.Proofs.Report.Verdicts

/-!
Buckets as lists. Verdicts of different items that are filed one after the other are listed in that
order, each in the bucket of its side and command, but for those that no bucket takes.
-/

namespace Reconcile

namespace Bucket

variable {bucket : Bucket}

theorem verdicts_add (indexed : bucket.Indexed) {verdict : Verdict}
    (new : accepts verdict = true → verdict.id ∉ bucket.verdicts.map Verdict.id) :
    (bucket.add verdict).verdicts = bucket.verdicts ++ if accepts verdict then [verdict] else [] := by
  rw [add]
  cases accepted : accepts verdict with
  | false => simp
  | true =>
    rw [if_pos rfl, if_pos rfl]
    cases known : bucket.index.lookup verdict.id with
    | none => rfl
    | some place =>
      obtain ⟨old, there, own⟩ := indexed verdict.id place known
      exact absurd (List.mem_map.mpr ⟨old, List.mem_of_getElem? there, own⟩) (new accepted)

end Bucket

namespace Filing

def fits (filing : Filing) (side : Side) (command : Command) : Bool :=
  filing.side == side && filing.command == command && Bucket.accepts filing.verdict

end Filing

namespace SourceReport

variable {report : SourceReport} {side : Side} {command : Command}

def listed (report : SourceReport) (side : Side) (command : Command) : List Verdict :=
  ((report.bucket? side command).map Bucket.verdicts).getD []

theorem listed_record (indexed : report.Indexed) (filing : Filing)
    (tracked : (lane? side command).isSome)
    (new : filing.fits side command = true →
      filing.verdict.id ∉ (report.listed side command).map Verdict.id) :
    (report.record filing.side filing.command filing.verdict).listed side command =
      report.listed side command ++ if filing.fits side command then [filing.verdict] else [] := by
  rw [← report.isSome_bucket?, Option.isSome_iff_exists] at tracked
  obtain ⟨bucket, held⟩ := tracked
  rw [listed, held] at new
  rw [listed, listed, bucket?_record, held]
  by_cases own : filing.side = side ∧ filing.command = command
  · have fits : filing.fits side command = Bucket.accepts filing.verdict := by simp [Filing.fits, own]
    rw [fits] at new ⊢
    simp only [Option.map_some, Option.getD_some, if_pos own]
    exact Bucket.verdicts_add (indexed.bucket held) new
  · have other : ¬ filing.fits side command = true := fun fits => own (by
      simp only [Filing.fits, Bool.and_eq_true, beq_iff_eq] at fits
      exact fits.1)
    simp [own, other]

theorem listed_file (indexed : report.Indexed) (filings : List Filing)
    (tracked : (lane? side command).isSome)
    (distinct : ((report.listed side command ++
      (filings.filter (·.fits side command)).map Filing.verdict).map Verdict.id).Nodup) :
    (report.file filings).listed side command =
      report.listed side command ++ (filings.filter (·.fits side command)).map Filing.verdict := by
  induction filings generalizing report with
  | nil => exact (List.append_nil _).symm
  | cons filing rest ih =>
    have split : ((filing :: rest).filter (·.fits side command)).map Filing.verdict =
        (if filing.fits side command then [filing.verdict] else []) ++
          (rest.filter (·.fits side command)).map Filing.verdict := by
      rw [List.filter_cons]
      cases filing.fits side command <;> rfl
    rw [split] at distinct ⊢
    have recorded := listed_record indexed filing tracked fun fits => by
      rw [if_pos fits, List.map_append, List.nodup_append] at distinct
      intro member
      exact distinct.2.2 _ member _ List.mem_cons_self rfl
    rw [← List.append_assoc, ← recorded] at distinct ⊢
    exact ih (indexed.record _ _ _) distinct

theorem listed_receive (indexed : report.Indexed) (filer : Side) (filings : List Filing) (full : Bool)
    (tracked : (lane? side command).isSome)
    (distinct : ((report.listed side command ++
      (filings.filter (·.fits side command)).map Filing.verdict).map Verdict.id).Nodup) :
    (report.receive filer filings full).listed side command =
      report.listed side command ++ (filings.filter (·.fits side command)).map Filing.verdict := by
  rw [← listed_file indexed filings tracked distinct, receive]
  cases full with
  | true => rfl
  | false => rfl

end SourceReport

end Reconcile
