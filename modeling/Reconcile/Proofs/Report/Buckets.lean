import Mathlib.Algebra.GroupWithZero.Nat
import Mathlib.Data.List.DropRight
import Mathlib.Data.List.Nodup
import Reconcile.Proofs.Entries
import Reconcile.Proofs.Report.Faults

/-!
Buckets as maps. Whatever a report goes through, each of its buckets holds what was recorded in it since
the report was last emptied: every item stands once, where it was first seen, with its latest verdict.
-/

namespace Reconcile

/-- Verdicts by item, each in the place of the first one of its item. -/
def latest (verdicts : List Verdict) : List (String × Verdict) :=
  Entries.placeAll (verdicts.map fun verdict => (verdict.id, verdict)) []

theorem latest_concat (verdicts : List Verdict) (verdict : Verdict) :
    latest (verdicts ++ [verdict]) = Entries.place verdict.id verdict (latest verdicts) := by
  simp [latest, Entries.placeAll_concat]

theorem keys_latest (verdicts : List Verdict) :
    (latest verdicts).map Prod.fst = (verdicts.map Verdict.id).eraseDups := by
  simp [latest, Entries.keys_placeAll, Function.comp_def]

theorem lookup_latest (verdicts : List Verdict) (id : String) :
    (latest verdicts).lookup id = (verdicts.filter fun verdict => verdict.id == id).getLast? := by
  simp [latest, Entries.lookup_placeAll, List.filter_map, List.getLast?_map, Function.comp_def]

namespace Bucket

variable {bucket : Bucket}

def entries (bucket : Bucket) : List (String × Verdict) :=
  bucket.verdicts.map fun verdict => (verdict.id, verdict)

/-- The index gives every listed verdict its own place, and no other place. -/
structure Sound (bucket : Bucket) : Prop where
  indexed : bucket.Indexed
  placed : ∀ place verdict, bucket.verdicts[place]? = some verdict →
    bucket.index.lookup verdict.id = some place

theorem sound_empty : Sound {} := ⟨indexed_empty, by simp⟩

theorem Sound.lookup_iff (sound : bucket.Sound) {id : String} {place : Nat} :
    bucket.index.lookup id = some place ↔ bucket.verdicts[place]?.map Verdict.id = some id := by
  rw [Option.map_eq_some_iff]
  constructor
  · exact sound.indexed id place
  · rintro ⟨verdict, there, rfl⟩
    exact sound.placed place verdict there

theorem Sound.nodup (sound : bucket.Sound) : (bucket.entries.map Prod.fst).Nodup := by
  rw [List.nodup_iff_getElem?_ne_getElem?]
  intro first second before inside same
  obtain ⟨verdict, there⟩ : ∃ verdict, bucket.verdicts[second]? = some verdict :=
    ⟨_, List.getElem?_eq_getElem (by simpa [entries] using inside)⟩
  have id_there : bucket.verdicts[second]?.map Verdict.id = some verdict.id := by rw [there]; rfl
  have id_first : bucket.verdicts[first]?.map Verdict.id = some verdict.id := by
    simpa [entries, there, Function.comp_def] using same
  have places := (sound.lookup_iff.mpr id_first).symm.trans (sound.lookup_iff.mpr id_there)
  simp at places
  omega

theorem Sound.not_mem (sound : bucket.Sound) {id : String} (new : bucket.index.lookup id = none) :
    id ∉ bucket.entries.map Prod.fst := by
  intro member
  obtain ⟨verdict, listed, rfl⟩ : ∃ verdict ∈ bucket.verdicts, verdict.id = id := by
    simpa [entries] using member
  obtain ⟨place, there⟩ := List.getElem?_of_mem listed
  rw [sound.placed place verdict there] at new
  cases new

theorem Sound.add (sound : bucket.Sound) (verdict : Verdict) : (bucket.add verdict).Sound := by
  refine ⟨sound.indexed.add verdict, ?_⟩
  intro place shown there
  unfold Bucket.add at there ⊢
  by_cases accepted : accepts verdict = true
  · rw [if_pos accepted] at there ⊢
    cases known : bucket.index.lookup verdict.id with
    | some spot =>
      simp only [known] at there ⊢
      by_cases same : spot = place
      · subst same
        obtain ⟨old, before, -⟩ := sound.indexed verdict.id spot known
        rw [List.getElem?_set_self (List.getElem?_eq_some_iff.mp before).1] at there
        cases there
        exact known
      · rw [List.getElem?_set_ne same] at there
        exact sound.placed place shown there
    | none =>
      simp only [known] at there ⊢
      rw [Entries.lookup_cons]
      by_cases before : place < bucket.verdicts.length
      · rw [List.getElem?_append_left before] at there
        have found := sound.placed place shown there
        have apart : shown.id ≠ verdict.id := by
          intro same
          simp [same, known] at found
        rw [if_neg apart, found]
      · have new : bucket.verdicts ++ [verdict] ≠ [] := by simp
        have last : place = bucket.verdicts.length := by
          have inside := (List.getElem?_eq_some_iff.mp there).1
          simp at inside
          omega
        subst last
        obtain rfl : verdict = shown := by simpa using there
        rw [if_pos rfl]
  · rw [if_neg accepted] at there ⊢
    exact sound.placed place shown there

theorem Sound.entries_add (sound : bucket.Sound) (verdict : Verdict) :
    (bucket.add verdict).entries =
      if accepts verdict then Entries.place verdict.id verdict bucket.entries else bucket.entries := by
  unfold Bucket.add
  by_cases accepted : accepts verdict = true
  · rw [if_pos accepted, if_pos accepted]
    cases known : bucket.index.lookup verdict.id with
    | some spot =>
      obtain ⟨old, there, own⟩ := sound.indexed verdict.id spot known
      have entry : bucket.entries[spot]? = some (verdict.id, old) := by simp [entries, there, own]
      rw [Entries.place_eq_set sound.nodup entry]
      simp [entries, List.map_set]
    | none =>
      rw [Entries.place_of_not_mem (sound.not_mem known)]
      simp [entries]
  · rw [if_neg accepted, if_neg accepted]

theorem Sound.get?_eq (sound : bucket.Sound) (id : String) :
    bucket.get? id = bucket.entries.lookup id := by
  ext verdict
  rw [Entries.lookup_eq_some sound.nodup]
  simp only [get?, Option.bind_eq_some_iff, entries, List.mem_map, Prod.ext_iff]
  constructor
  · rintro ⟨place, known, there⟩
    obtain ⟨listed, here, own⟩ := sound.indexed id place known
    rw [there] at here
    cases here
    exact ⟨verdict, List.mem_of_getElem? there, own, rfl⟩
  · rintro ⟨_, member, rfl, rfl⟩
    obtain ⟨place, there⟩ := List.getElem?_of_mem member
    exact ⟨place, sound.placed place _ there, there⟩

theorem successful_eq (bucket : Bucket) (rule : SuccessRule) :
    bucket.successful rule = bucket.entries.countP fun entry => rule.isSuccess entry.2.code := by
  rw [successful, entries, List.countP_map]
  rfl

theorem failed_eq (bucket : Bucket) (rule : SuccessRule) :
    bucket.failed rule = bucket.entries.countP fun entry => !rule.isSuccess entry.2.code := by
  have listed : bucket.entries.length = bucket.size := List.length_map _
  have parts : bucket.entries.length =
      bucket.entries.countP (fun entry => rule.isSuccess entry.2.code) +
        bucket.entries.countP fun entry => !rule.isSuccess entry.2.code := by
    simpa using List.length_eq_countP_add_countP
      fun entry : String × Verdict => rule.isSuccess entry.2.code
  rw [failed, successful_eq]
  omega

theorem successful_add_failed (bucket : Bucket) (rule : SuccessRule) :
    bucket.successful rule + bucket.failed rule = bucket.size := by
  have bounded : bucket.successful rule ≤ bucket.size := List.countP_le_length
  rw [failed]
  omega

end Bucket

namespace ReportStep

variable {side : Side} {command : Command}

def refill (side : Side) (command : Command) (bucket : Bucket) : ReportStep → Bucket
  | record filer written verdict =>
    if filer = side ∧ written = command then bucket.add verdict else bucket
  | clear => {}
  | stand _ | fault _ | full _ => bucket

theorem bucket?_apply (report : SourceReport) (side : Side) (command : Command) (step : ReportStep) :
    (step.apply report).bucket? side command =
      (report.bucket? side command).map fun bucket => step.refill side command bucket := by
  cases step with
  | stand | fault | full => exact Option.map_id'.symm
  | clear => simp [apply, refill, SourceReport.bucket?, SourceReport.clear, Function.comp_def]
  | record filer written verdict => exact report.bucket?_record ⟨filer, written, verdict⟩ side command

/-- The verdict that a step has for the bucket of a side and a command: it must name an item, and be
final. -/
def own? (side : Side) (command : Command) : ReportStep → Option Verdict
  | record filer written verdict =>
    if filer = side ∧ written = command ∧ verdict.id ≠ "" ∧ verdict.code.isChunkAck = false then
      some verdict
    else none
  | stand _ | fault _ | full _ | clear => none

end ReportStep

/-- The verdicts for the bucket of a side and a command since the report was last emptied. -/
def ownVerdicts (side : Side) (command : Command) (steps : List ReportStep) : List Verdict :=
  (steps.rtakeWhile (· ≠ .clear)).filterMap (ReportStep.own? side command)

theorem ownVerdicts_clear (side : Side) (command : Command) (steps : List ReportStep) :
    ownVerdicts side command (steps ++ [.clear]) = [] := by
  simp [ownVerdicts]

theorem ownVerdicts_concat (side : Side) (command : Command) (steps : List ReportStep)
    {step : ReportStep} (goes_on : step ≠ .clear) :
    ownVerdicts side command (steps ++ [step]) =
      ownVerdicts side command steps ++ (step.own? side command).toList := by
  rw [ownVerdicts, List.rtakeWhile_concat_pos _ _ _ (by simpa using goes_on), List.filterMap_append,
    ownVerdicts]
  cases own : step.own? side command <;> simp [own]

def bucketOf (side : Side) (command : Command) (steps : List ReportStep) : Bucket :=
  steps.foldl (fun bucket step => step.refill side command bucket) {}

theorem bucketOf_spec (side : Side) (command : Command) (steps : List ReportStep) :
    (bucketOf side command steps).Sound ∧
      (bucketOf side command steps).entries = latest (ownVerdicts side command steps) := by
  induction steps using List.reverseRecOn with
  | nil => exact ⟨Bucket.sound_empty, rfl⟩
  | append_singleton steps step ih =>
    obtain ⟨sound, held⟩ := ih
    have last : bucketOf side command (steps ++ [step]) =
        step.refill side command (bucketOf side command steps) := by simp [bucketOf]
    rw [last]
    by_cases clears : step = .clear
    · rw [clears, ownVerdicts_clear]
      exact ⟨Bucket.sound_empty, rfl⟩
    rw [ownVerdicts_concat _ _ _ clears]
    cases step with
    | clear => exact absurd rfl clears
    | stand | fault | full =>
      rw [ReportStep.own?, Option.toList_none, List.append_nil]
      exact ⟨sound, held⟩
    | record filer written verdict =>
      rw [ReportStep.own?, ReportStep.refill]
      by_cases own : filer = side ∧ written = command
      · rw [if_pos own]
        refine ⟨sound.add verdict, ?_⟩
        rw [sound.entries_add, held]
        by_cases accepted : verdict.id ≠ "" ∧ verdict.code.isChunkAck = false
        · have kept : Bucket.accepts verdict = true := by simp [Bucket.accepts, accepted]
          rw [if_pos kept, if_pos ⟨own.1, own.2, accepted⟩, Option.toList_some, latest_concat]
        · have dropped : ¬Bucket.accepts verdict = true := by simpa [Bucket.accepts] using accepted
          rw [if_neg dropped, if_neg fun all => accepted all.2.2, Option.toList_none, List.append_nil]
      · rw [if_neg own, if_neg fun all => own ⟨all.1, all.2.1⟩, Option.toList_none, List.append_nil]
        exact ⟨sound, held⟩

namespace SourceReport

theorem bucket?_takeAll (report : SourceReport) (steps : List ReportStep) (side : Side)
    (command : Command) :
    (report.takeAll steps).bucket? side command = (report.bucket? side command).map fun bucket =>
      steps.foldl (fun bucket step => step.refill side command bucket) bucket := by
  induction steps generalizing report with
  | nil => simp [takeAll]
  | cons step rest ih =>
    show ((step.apply report).takeAll rest).bucket? side command = _
    rw [ih, ReportStep.bucket?_apply, Option.map_map]
    rfl

theorem success_takeAll (report : SourceReport) (steps : List ReportStep) :
    (report.takeAll steps).success = report.success := by
  induction steps generalizing report with
  | nil => rfl
  | cons step rest ih =>
    have kept : (step.apply report).success = report.success := by
      cases step with
      | record side command verdict =>
        simp only [ReportStep.apply, record]
        split <;> rfl
      | stand | fault | full | clear => rfl
    exact (ih _).trans kept

theorem mem_lanes_iff {side : Side} {command : Command} :
    (side, command) ∈ lanes ↔ (lane? side command).isSome = true := by
  cases side <;> cases command <;> decide

theorem bucket?_blank {side : Side} {command : Command} (tracked : (side, command) ∈ lanes)
    (source : String) (success : SuccessRule) :
    bucket? { source, success } side command = some {} := by
  obtain ⟨lane, asked⟩ := Option.isSome_iff_exists.mp (mem_lanes_iff.mp tracked)
  simp [bucket?, asked]

/-- The total is counted along the buckets, the counts that it sums go by side and command. -/
theorem totalSuccessful_eq (report : SourceReport) :
    report.totalSuccessful =
      ([Side.client, .server].flatMap fun side =>
        [Command.add, .replace, .delete].map fun command => report.successfulCount side command).sum := by
  obtain ⟨source, success, standing, fault, ⟨⟨buckets⟩, eight⟩⟩ := report
  match buckets, eight with
  | [a, b, c, d, e, f, g, h], _ => rfl

theorem record_untracked {side : Side} {command : Command} (untracked : (side, command) ∉ lanes)
    (report : SourceReport) (verdict : Verdict) :
    report.bucket? side command = none ∧ report.record side command verdict = report := by
  have unasked : lane? side command = none := by simpa [mem_lanes_iff] using untracked
  exact ⟨by rw [bucket?, unasked, Option.map_none], by rw [record, unasked]⟩

theorem successfulCount_add_failedCount (report : SourceReport) (side : Side) (command : Command) :
    report.successfulCount side command + report.failedCount side command =
      report.count side command := by
  rw [successfulCount, failedCount, count, tally, tally, tally]
  cases report.bucket? side command with
  | none => rfl
  | some bucket => exact bucket.successful_add_failed report.success

/-- Whatever a report goes through, every tracked bucket is the map of its own verdicts since the report
was last emptied: its list, its index and its size say the same of them, and its counts are those of
the verdicts that a rule calls a success and of the others. What is not tracked leaves the report alone,
every item counts as successful or as failed, and the total is that of the six outcome buckets. -/
theorem buckets_hold_latest (source : String) (success : SuccessRule) (steps : List ReportStep) :
    let report := takeAll { source, success } steps
    (∀ side command, (side, command) ∈ lanes →
      let own := ownVerdicts side command steps
      ∃ bucket, report.bucket? side command = some bucket ∧
        bucket.entries = latest own ∧
        (latest own).map Prod.fst = (own.map Verdict.id).eraseDups ∧
        (∀ id, (latest own).lookup id = (own.filter fun verdict => verdict.id == id).getLast?) ∧
        (∀ id, bucket.get? id = (latest own).lookup id) ∧
        (∀ id place, bucket.index.lookup id = some place ↔
          bucket.verdicts[place]?.map Verdict.id = some id) ∧
        bucket.size = (latest own).length ∧
        (∀ rule, bucket.successful rule + bucket.failed rule = bucket.size) ∧
        (∀ rule,
          bucket.successful rule = (latest own).countP (fun entry => rule.isSuccess entry.2.code) ∧
            bucket.failed rule = (latest own).countP fun entry => !rule.isSuccess entry.2.code) ∧
        report.successfulCount side command =
          (latest own).countP fun entry => success.isSuccess entry.2.code) ∧
    (∀ side command, (side, command) ∉ lanes → ∀ verdict,
      report.bucket? side command = none ∧ report.record side command verdict = report) ∧
    (∀ side command, report.successfulCount side command + report.failedCount side command =
      report.count side command) ∧
    report.totalSuccessful =
      ([Side.client, .server].flatMap fun side =>
        [Command.add, .replace, .delete].map fun command => report.successfulCount side command).sum := by
  intro report
  refine ⟨?_, fun _ _ untracked => record_untracked untracked report,
    report.successfulCount_add_failedCount, report.totalSuccessful_eq⟩
  intro side command tracked own
  obtain ⟨sound, held⟩ := bucketOf_spec side command steps
  have found : report.bucket? side command = some (bucketOf side command steps) := by
    rw [bucket?_takeAll, bucket?_blank tracked]
    rfl
  have counts : ∀ rule, (bucketOf side command steps).successful rule =
      (latest own).countP fun entry => rule.isSuccess entry.2.code := fun rule => by
    rw [Bucket.successful_eq, held]
  refine ⟨bucketOf side command steps, found, held, keys_latest own, lookup_latest own, ?_, ?_, ?_,
    Bucket.successful_add_failed _, ?_, ?_⟩
  · intro id
    rw [sound.get?_eq, held]
  · exact fun _ _ => sound.lookup_iff
  · rw [← held]
    simp [Bucket.size, Bucket.entries]
  · exact fun rule => ⟨counts rule, by rw [Bucket.failed_eq, held]⟩
  · rw [successfulCount, tally, found, Option.map_some, Option.getD_some, counts, success_takeAll]

/-- An item before the report was emptied, an item twice, a chunk, no item at all, and two other
buckets, one of them untracked. -/
theorem bucket_keeps_last_verdict :
    let verdict (id : String) (code : StatusCode) : Verdict := { id, code }
    let steps : List ReportStep :=
      [.record .client .add (verdict "old" 201), .clear, .record .client .add (verdict "a" 500),
        .record .client .add (verdict "b" 201), .record .server .add (verdict "b" 500),
        .record .client .upload (verdict "b" 500), .record .client .add (verdict "b" 213),
        .record .client .add (verdict "" 201), .full .client,
        .record .client .add (verdict "a" 201)]
    let report := takeAll { source := "contact", success := .syncML } steps
    (Side.client, Command.add) ∈ lanes ∧
      (report.bucket? .client .add).map Bucket.entries =
        some [("a", verdict "a" 201), ("b", verdict "b" 201)] := by
  intro verdict steps report
  refine ⟨by decide, ?_⟩
  obtain ⟨bucket, found, held, -⟩ :=
    (buckets_hold_latest "contact" .syncML steps).1 .client .add (by decide)
  rw [found, Option.map_some, held]
  decide +kernel

end SourceReport

end Reconcile
