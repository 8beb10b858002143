import Reconcile.Proofs.Report.Verdicts
import Reconcile.Report

/-!
Errors in a report. A report keeps the last error that was recorded and no other one, so that a side
is reported to be out of storage until the next error, of whatever kind.
-/

namespace Reconcile

inductive ReportStep where
  | record (side : Side) (command : Command) (verdict : Verdict)
  | stand (standing : Standing)
  | fault (error : Fault)
  | full (side : Side)
  | clear
  deriving DecidableEq

namespace ReportStep

def apply (report : SourceReport) : ReportStep → SourceReport
  | record side command verdict => report.record side command verdict
  | stand standing => { report with standing }
  | fault error => report.recordFault error
  | full side => report.recordFull side
  | clear => report.clear

def fault? : ReportStep → Option Fault
  | fault error => some error
  | full side => some (SourceReport.fullFault side)
  | _ => none

theorem fault_apply (report : SourceReport) (step : ReportStep) :
    (step.apply report).fault = step.fault?.or report.fault := by
  cases step with
  | record side command verdict => exact SourceReport.fault_record report side command verdict
  | stand | fault | full | clear => rfl

end ReportStep

namespace SourceReport

variable {report : SourceReport} {side : Side}

theorem fault_of_isSuccessful (successful : report.isSuccessful = true) : report.fault = none := by
  unfold isSuccessful at successful
  obtain ⟨clear, -⟩ := Bool.and_eq_true_iff.mp successful
  exact Option.isNone_iff_eq_none.mp clear

theorem isFull_iff : report.isFull side = true ↔ report.fault.map Fault.kind = some (.full side) :=
  beq_iff_eq

def takeAll (report : SourceReport) (steps : List ReportStep) : SourceReport :=
  steps.foldl ReportStep.apply report

def faultsOf (steps : List ReportStep) : List Fault := steps.filterMap ReportStep.fault?

theorem fault_takeAll (report : SourceReport) (steps : List ReportStep) :
    (report.takeAll steps).fault = (faultsOf steps).getLast?.or report.fault := by
  induction steps generalizing report with
  | nil => rfl
  | cons step rest ih =>
    show ((step.apply report).takeAll rest).fault = _
    rw [ih, ReportStep.fault_apply, faultsOf, faultsOf, List.filterMap_cons]
    cases step.fault? with
    | none => rfl
    | some error =>
      rw [List.getLast?_cons]
      cases (rest.filterMap ReportStep.fault?).getLast? <;> rfl

theorem isFull_takeAll (blank : report.fault = none) (steps : List ReportStep) :
    (report.takeAll steps).isFull side = true ↔
      (faultsOf steps).getLast?.map Fault.kind = some (.full side) := by
  rw [isFull_iff, fault_takeAll, blank, Option.or_none]

/-- That the server ran out of storage is forgotten when the local data does. -/
theorem server_full_forgotten :
    let blank : SourceReport := { source := "contact", success := .syncML }
    let steps : List ReportStep := [.full .server, .full .client]
    ReportStep.full .server ∈ steps ∧ (blank.takeAll steps).isFull .server = false := by decide

end SourceReport

namespace SessionReport

theorem source?_push (report : SessionReport) (entry : SourceReport) :
    (report.push entry).source? entry.source = some entry := by
  obtain ⟨sources, fault⟩ := report
  show (place entry sources).find? (fun other => other.source == entry.source) = some entry
  induction sources with
  | nil => exact List.find?_cons_of_pos (beq_self_eq_true _)
  | cons other rest ih =>
    rw [place]
    split
    · exact List.find?_cons_of_pos (beq_self_eq_true _)
    · rename_i different
      rw [List.find?_cons, eq_false_of_ne_true different]
      exact ih

theorem mem_place (entry : SourceReport) (sources : List SourceReport) : entry ∈ place entry sources := by
  induction sources with
  | nil => exact List.mem_singleton_self entry
  | cons other rest ih =>
    rw [place]
    split
    · exact List.mem_cons_self
    · exact List.mem_cons_of_mem _ ih

theorem successful_of_push {report : SessionReport} {entry : SourceReport}
    (successful : (report.push entry).isSuccessful = true) : entry.isSuccessful = true := by
  unfold isSuccessful at successful
  obtain ⟨-, every⟩ := Bool.and_eq_true_iff.mp successful
  exact List.all_eq_true.mp every entry (mem_place entry report.sources)

theorem isFull_push (report : SessionReport) (entry : SourceReport) (side : Side) :
    (report.push entry).isFull entry.source side = entry.isFull side := by
  rw [isFull, source?_push]
  rfl

end SessionReport

end Reconcile
