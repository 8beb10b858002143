import Reconcile.Entries
import Reconcile.Report

/-!
Verdicts in a report. A report that was filed verdict by verdict shows of an item the latest one that
was filed for it, so that the order of the verdicts of different items does not show.
-/

namespace Reconcile

namespace Bucket

variable {bucket : Bucket}

/-- The place of every item is that of its own verdict. -/
def Indexed (bucket : Bucket) : Prop :=
  ∀ id place, bucket.index.lookup id = some place →
    ∃ verdict, bucket.verdicts[place]? = some verdict ∧ verdict.id = id

theorem indexed_empty : Indexed {} := by
  intro id place found
  cases found

theorem Indexed.eq_of_place (indexed : bucket.Indexed) {first second : String} {place : Nat}
    (one : bucket.index.lookup first = some place)
    (other : bucket.index.lookup second = some place) : first = second := by
  obtain ⟨verdict, found, rfl⟩ := indexed first place one
  obtain ⟨again, same, own⟩ := indexed second place other
  rw [found] at same
  cases same
  exact own

theorem Indexed.add (indexed : bucket.Indexed) (verdict : Verdict) : (bucket.add verdict).Indexed := by
  intro id place found
  unfold Bucket.add at found ⊢
  split at found
  · rename_i accepted
    rw [if_pos accepted]
    cases known : bucket.index.lookup verdict.id with
    | some spot =>
      rw [known] at found
      dsimp only at found ⊢
      obtain ⟨old, there, own⟩ := indexed id place found
      by_cases same : spot = place
      · subst same
        refine ⟨verdict, ?_, indexed.eq_of_place known found⟩
        rw [List.getElem?_set_self (List.getElem?_eq_some_iff.mp there).1]
      · exact ⟨old, by rw [List.getElem?_set_ne same, there], own⟩
    | none =>
      rw [known] at found
      dsimp only at found ⊢
      rw [Entries.lookup_cons] at found
      split at found
      · rename_i new
        cases found
        exact ⟨verdict, List.getElem?_concat_length, new.symm⟩
      · obtain ⟨old, there, own⟩ := indexed id place found
        refine ⟨old, ?_, own⟩
        rw [List.getElem?_append_left (List.getElem?_eq_some_iff.mp there).1, there]
  · rename_i dropped
    rw [if_neg dropped]
    exact indexed id place found

/-- A verdict shows under its item, and changes what shows of no other one. -/
theorem get?_add (indexed : bucket.Indexed) (verdict : Verdict) (id : String) :
    (bucket.add verdict).get? id =
      if accepts verdict = true ∧ verdict.id = id then some verdict else bucket.get? id := by
  unfold Bucket.add
  cases accepted : accepts verdict with
  | false => simp
  | true =>
    simp only [if_true, true_and]
    cases known : bucket.index.lookup verdict.id with
    | some spot =>
      obtain ⟨old, there, -⟩ := indexed verdict.id spot known
      have inside := (List.getElem?_eq_some_iff.mp there).1
      by_cases own : verdict.id = id
      · subst own
        simp [get?, known, inside]
      · rw [if_neg own, get?, get?]
        cases found : bucket.index.lookup id with
        | none => rfl
        | some place =>
          have apart : spot ≠ place := by
            rintro rfl
            exact own (indexed.eq_of_place known found)
          simp only [Option.bind_some, List.getElem?_set_ne apart]
    | none =>
      by_cases own : verdict.id = id
      · subst own
        rw [if_pos rfl, get?, Entries.lookup_cons, if_pos rfl]
        exact List.getElem?_concat_length
      · rw [if_neg own, get?, Entries.lookup_cons, if_neg (Ne.symm own), get?]
        cases found : bucket.index.lookup id with
        | none => rfl
        | some place =>
          obtain ⟨other, stays, -⟩ := indexed id place found
          exact List.getElem?_append_left (List.getElem?_eq_some_iff.mp stays).1

end Bucket

structure Filing where
  side : Side
  command : Command
  verdict : Verdict
  deriving DecidableEq

namespace Filing

variable {filing : Filing} {side : Side} {command : Command} {id : String}

def about (filing : Filing) (side : Side) (command : Command) (id : String) : Bool :=
  filing.side == side && filing.command == command && filing.verdict.id == id

theorem about_iff : filing.about side command id = true ↔
    filing.side = side ∧ filing.command = command ∧ filing.verdict.id = id := by
  simp [about, and_assoc]

end Filing

namespace SourceReport

variable {report : SourceReport}

@[simp] theorem standing_record (report : SourceReport) (side : Side) (command : Command)
    (verdict : Verdict) : (report.record side command verdict).standing = report.standing := by
  rw [record]
  split <;> rfl

@[simp] theorem fault_record (report : SourceReport) (side : Side) (command : Command)
    (verdict : Verdict) : (report.record side command verdict).fault = report.fault := by
  rw [record]
  split <;> rfl

@[simp] theorem source_record (report : SourceReport) (side : Side) (command : Command)
    (verdict : Verdict) : (report.record side command verdict).source = report.source := by
  rw [record]
  split <;> rfl

theorem record_recordFault (report : SourceReport) (error : Fault) (side : Side) (command : Command)
    (verdict : Verdict) : (report.recordFault error).record side command verdict =
      (report.record side command verdict).recordFault error := by
  rw [record, record]
  cases lane? side command <;> rfl

theorem record_chunk {verdict : Verdict} (chunk : verdict.code.isChunkAck = true)
    (report : SourceReport) (side : Side) (command : Command) :
    report.record side command verdict = report := by
  have refused : Bucket.accepts verdict = false := by
    rw [Bucket.accepts, chunk, Bool.not_true, Bool.and_false]
  rw [record]
  cases lane? side command with
  | none => rfl
  | some lane => simp [Bucket.add, refused]

/-! ### What a report shows -/

def verdict? (report : SourceReport) (side : Side) (command : Command) (id : String) :
    Option Verdict :=
  (report.bucket? side command).bind fun bucket => bucket.get? id

theorem verdict?_congr {one two : SourceReport} (same : one.buckets = two.buckets) (side : Side)
    (command : Command) (id : String) :
    one.verdict? side command id = two.verdict? side command id := by
  rw [verdict?, verdict?, bucket?, bucket?, same]

def Indexed (report : SourceReport) : Prop := ∀ bucket ∈ report.buckets, bucket.Indexed

theorem lane?_inj {side other : Side} {command also : Command} {lane : Fin 8}
    (one : lane? side command = some lane) (two : lane? other also = some lane) :
    side = other ∧ command = also := by
  revert one two
  cases side <;> cases other <;> cases command <;> cases also <;> revert lane <;> decide

theorem isSome_bucket? (report : SourceReport) (side : Side) (command : Command) :
    (report.bucket? side command).isSome = (lane? side command).isSome := Option.isSome_map

theorem bucket?_record (report : SourceReport) (filing : Filing) (side : Side) (command : Command) :
    (report.record filing.side filing.command filing.verdict).bucket? side command =
      (report.bucket? side command).map fun bucket =>
        if filing.side = side ∧ filing.command = command then bucket.add filing.verdict else bucket := by
  rw [record, bucket?, bucket?]
  cases asked : lane? side command with
  | none => cases lane? filing.side filing.command <;> rfl
  | some lane =>
    cases filed : lane? filing.side filing.command with
    | none =>
      have apart : ¬(filing.side = side ∧ filing.command = command) := by
        rintro ⟨rfl, rfl⟩
        simp [asked] at filed
      simp [apart]
    | some place =>
      by_cases same : place = lane
      · subst same
        simp [lane?_inj filed asked]
      · have apart : ¬(filing.side = side ∧ filing.command = command) := by
          rintro ⟨rfl, rfl⟩
          exact same (Option.some.inj (filed.symm.trans asked))
        have places : (place : Nat) ≠ lane := fun equal => same (Fin.ext equal)
        simp [apart, Vector.getElem_set_ne, places]

theorem Indexed.bucket (indexed : report.Indexed) {side : Side} {command : Command} {bucket : Bucket}
    (held : report.bucket? side command = some bucket) : bucket.Indexed := by
  obtain ⟨lane, -, rfl⟩ := Option.map_eq_some_iff.mp held
  exact indexed _ (Vector.getElem_mem lane.isLt)

theorem Indexed.record (indexed : report.Indexed) (side : Side) (command : Command)
    (verdict : Verdict) : (report.record side command verdict).Indexed := by
  rw [SourceReport.record]
  cases lane? side command with
  | none => exact indexed
  | some lane =>
    intro bucket (member : bucket ∈ report.buckets.set lane (report.buckets[lane].add verdict))
    rcases Vector.mem_or_eq_of_mem_set member with old | rfl
    · exact indexed bucket old
    · exact (indexed _ (Vector.getElem_mem lane.isLt)).add verdict

/-- What a report shows of an item once a verdict was filed. -/
def shows (side : Side) (command : Command) (shown : Option Verdict) (filing : Filing) :
    Option Verdict :=
  if (lane? side command).isSome && Bucket.accepts filing.verdict then some filing.verdict else shown

theorem verdict?_record (indexed : report.Indexed) (filing : Filing) (side : Side)
    (command : Command) (id : String) :
    (report.record filing.side filing.command filing.verdict).verdict? side command id =
      if filing.about side command id then
        shows side command (report.verdict? side command id) filing
      else report.verdict? side command id := by
  rw [verdict?, verdict?, bucket?_record, shows, ← report.isSome_bucket? side command]
  cases held : report.bucket? side command with
  | none => simp
  | some bucket =>
    by_cases own : filing.side = side ∧ filing.command = command
    · have about : filing.about side command id = (filing.verdict.id == id) := by
        simp [Filing.about, own]
      simp only [Option.map_some, Option.bind_some, if_pos own, about,
        Bucket.get?_add (indexed.bucket held) filing.verdict id]
      cases Bucket.accepts filing.verdict <;> simp
    · have other : ¬ filing.about side command id = true := fun about =>
        own ⟨(Filing.about_iff.mp about).1, (Filing.about_iff.mp about).2.1⟩
      simp [own, other]

/-! ### Filings -/

def file (report : SourceReport) (filings : List Filing) : SourceReport :=
  filings.foldl (fun report filing => report.record filing.side filing.command filing.verdict) report

theorem file_cons (report : SourceReport) (filing : Filing) (rest : List Filing) :
    report.file (filing :: rest) =
      (report.record filing.side filing.command filing.verdict).file rest := rfl

theorem file_append (report : SourceReport) (first second : List Filing) :
    report.file (first ++ second) = (report.file first).file second := List.foldl_append

@[simp] theorem standing_file (report : SourceReport) (filings : List Filing) :
    (report.file filings).standing = report.standing := by
  induction filings generalizing report with
  | nil => rfl
  | cons filing rest ih => rw [file_cons, ih, standing_record]

@[simp] theorem fault_file (report : SourceReport) (filings : List Filing) :
    (report.file filings).fault = report.fault := by
  induction filings generalizing report with
  | nil => rfl
  | cons filing rest ih => rw [file_cons, ih, fault_record]

@[simp] theorem source_file (report : SourceReport) (filings : List Filing) :
    (report.file filings).source = report.source := by
  induction filings generalizing report with
  | nil => rfl
  | cons filing rest ih => rw [file_cons, ih, source_record]

theorem file_recordFault (report : SourceReport) (error : Fault) (filings : List Filing) :
    (report.recordFault error).file filings = (report.file filings).recordFault error := by
  induction filings generalizing report with
  | nil => rfl
  | cons filing rest ih => rw [file_cons, file_cons, record_recordFault, ih]

theorem Indexed.file (indexed : report.Indexed) (filings : List Filing) :
    (report.file filings).Indexed := by
  induction filings generalizing report with
  | nil => exact indexed
  | cons filing rest ih => exact ih (indexed.record _ _ _)

/-- What a report shows of an item follows from the filings about it, in their order. -/
theorem verdict?_file (indexed : report.Indexed) (filings : List Filing) (side : Side)
    (command : Command) (id : String) :
    (report.file filings).verdict? side command id =
      (filings.filter fun filing => filing.about side command id).foldl (shows side command)
        (report.verdict? side command id) := by
  induction filings generalizing report with
  | nil => rfl
  | cons filing rest ih =>
    have filed := verdict?_record indexed filing side command id
    rw [List.filter_cons, file_cons, ih (indexed.record _ _ _), filed]
    cases filing.about side command id with
    | true => rfl
    | false => rfl

/-- Files verdicts, and the lack of storage of a side if there was one. -/
def receive (report : SourceReport) (side : Side) (filings : List Filing) (full : Bool) :
    SourceReport :=
  let filed := report.file filings
  if full then filed.recordFull side else filed

theorem receive_receive (report : SourceReport) (side : Side) (first second : List Filing)
    (full more : Bool) :
    (report.receive side first full).receive side second more =
      report.receive side (first ++ second) (full || more) := by
  unfold receive recordFull
  rw [file_append]
  cases full with
  | false => rfl
  | true =>
    simp only [if_true, Bool.true_or, file_recordFault]
    cases more with
    | false => rfl
    | true => rfl

theorem standing_receive (begun : report.standing ≠ .resting) (side : Side) (filings : List Filing)
    (full : Bool) : (report.receive side filings full).standing ≠ .resting := by
  rw [receive]
  cases full with
  | true => exact fun resting => nomatch resting
  | false =>
    rw [if_neg Bool.false_ne_true, standing_file]
    exact begun

theorem fault_receive (report : SourceReport) (side : Side) (filings : List Filing) (full : Bool) :
    (report.receive side filings full).fault =
      if full then some (fullFault side) else report.fault := by
  rw [receive]
  cases full with
  | true => rfl
  | false => exact report.fault_file filings

theorem source_receive (report : SourceReport) (side : Side) (filings : List Filing) (full : Bool) :
    (report.receive side filings full).source = report.source := by
  rw [receive]
  cases full with
  | true => exact report.source_file filings
  | false => exact report.source_file filings

theorem Indexed.receive (indexed : report.Indexed) (side : Side) (filings : List Filing)
    (full : Bool) : (report.receive side filings full).Indexed := by
  rw [SourceReport.receive]
  cases full with
  | true => exact indexed.file filings
  | false => exact indexed.file filings

theorem verdict?_receive (indexed : report.Indexed) (filer : Side) (filings : List Filing)
    (full : Bool) (side : Side) (command : Command) (id : String) :
    (report.receive filer filings full).verdict? side command id =
      (filings.filter fun filing => filing.about side command id).foldl (shows side command)
        (report.verdict? side command id) := by
  rw [← verdict?_file indexed, receive]
  cases full with
  | true => rfl
  | false => rfl

end SourceReport

end Reconcile
