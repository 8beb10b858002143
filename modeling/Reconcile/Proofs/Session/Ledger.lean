import Reconcile.Proofs.Session.Transcript
import Reconcile.Proofs.Source.Operation

/-!
The ledger of an upload: the items in flight and the entries of the cache, as the items that are
sent and the verdicts that come in make them. A key is settled by the first final verdict after its
sending, and by no other one.
-/

namespace Reconcile

/-- What matters of an upload to the ledger: an item goes out, or a verdict comes in. -/
inductive UploadStep where
  | send (item : OutgoingItem)
  | hear (verdict : Verdict)
  deriving DecidableEq

def LinkEvent.steps : LinkEvent → List UploadStep
  | sent item reply => .send item :: (reply.value.toOption.getD []).map .hear
  | concluded reply => (reply.value.toOption.getD []).map .hear
  | fetched _ | answered .. => []

def uploadSteps (events : List LinkEvent) : List UploadStep := events.flatMap LinkEvent.steps

def sentItems (steps : List UploadStep) : List OutgoingItem :=
  steps.filterMap fun
    | .send item => some item
    | .hear _ => none

theorem sentItems_append (first second : List UploadStep) :
    sentItems (first ++ second) = sentItems first ++ sentItems second := List.filterMap_append

theorem sentItems_hear (verdicts : List Verdict) : sentItems (verdicts.map .hear) = [] := by
  simp [sentItems]

def sentKeys (steps : List UploadStep) : List String := (sentItems steps).map OutgoingItem.key

def firstFinal (key : String) : List UploadStep → Option Verdict
  | [] => none
  | .send _ :: rest => firstFinal key rest
  | .hear verdict :: rest =>
    if verdict.id = key ∧ verdict.code.isChunkAck = false then some verdict else firstFinal key rest

/-- What a verdict is held against: the rule of success, and the signatures that can be read. -/
structure Terms where
  rule : SuccessRule
  sign : String → Option Signature

def Station.terms {P : Type} [Provider P] (station : Station P) : Terms where
  rule := station.source.config.success
  sign := SourceM.readable station.source.provider

/-- A key that was sent and then confirmed: the first final verdict since is a success, and the item
was a deletion or has a signature that can be read. -/
def confirmed (terms : Terms) (key : String) :
    List UploadStep → Bool
  | [] => false
  | .hear _ :: rest => confirmed terms key rest
  | .send item :: rest =>
    if item.key = key then
      (firstFinal key rest).any fun verdict =>
        terms.rule.isSuccess verdict.code && (item.state == .deleted || (terms.sign key).isSome)
    else confirmed terms key rest

def allAccepted (rule : SuccessRule) : List UploadStep → Bool
  | [] => true
  | .hear _ :: rest => allAccepted rule rest
  | .send item :: rest =>
    (firstFinal item.key rest).any (fun verdict => rule.isSuccess verdict.code) &&
      allAccepted rule rest

def sentItem? (key : String) (steps : List UploadStep) : Option OutgoingItem :=
  (sentItems steps).find? fun item => item.key == key

def answerTo (key : String) : List UploadStep → Option Verdict
  | [] => none
  | .hear _ :: rest => answerTo key rest
  | .send item :: rest => if item.key = key then firstFinal key rest else answerTo key rest

theorem id_firstFinal {key : String} {steps : List UploadStep} {verdict : Verdict}
    (found : firstFinal key steps = some verdict) :
    verdict.id = key ∧ verdict.code.isChunkAck = false := by
  induction steps with
  | nil => cases found
  | cons taken rest ih =>
    cases taken with
    | send item => exact ih found
    | hear other =>
      rw [firstFinal] at found
      split at found
      · rename_i first
        rw [← Option.some.inj found]
        exact first
      · exact ih found

theorem id_answerTo {key : String} {steps : List UploadStep} {verdict : Verdict}
    (found : answerTo key steps = some verdict) :
    verdict.id = key ∧ verdict.code.isChunkAck = false := by
  induction steps with
  | nil => cases found
  | cons taken rest ih =>
    cases taken with
    | hear other => exact ih found
    | send item =>
      rw [answerTo] at found
      split at found
      · exact id_firstFinal found
      · exact ih found

theorem sentItem?_send (key : String) (item : OutgoingItem) (rest : List UploadStep) :
    sentItem? key (.send item :: rest) = if item.key = key then some item else sentItem? key rest := by
  show ((item :: sentItems rest).find? fun item => item.key == key) = _
  rw [List.find?_cons]
  by_cases own : item.key = key
  · rw [if_pos own, beq_iff_eq.mpr own]
  · rw [if_neg own, beq_false_of_ne own]
    rfl

theorem of_sentItem? {key : String} {steps : List UploadStep} {item : OutgoingItem}
    (found : sentItem? key steps = some item) : item ∈ sentItems steps ∧ item.key = key := by
  rw [sentItem?] at found
  have own := List.find?_some found
  exact ⟨List.mem_of_find?_eq_some found, eq_of_beq own⟩

theorem confirmed_eq (terms : Terms) (key : String) (steps : List UploadStep) :
    confirmed terms key steps = (sentItem? key steps).any fun item =>
      (answerTo key steps).any fun verdict =>
        terms.rule.isSuccess verdict.code && (item.state == .deleted || (terms.sign key).isSome) := by
  induction steps with
  | nil => rfl
  | cons taken rest ih =>
    cases taken with
    | hear verdict => exact ih
    | send item =>
      rw [confirmed, answerTo, sentItem?_send]
      split
      · rfl
      · exact ih

/-- The items in flight, the entries of the cache, whether the server is known to be full, and what
was filed in the report. -/
structure Ledger where
  inFlight : InFlight := {}
  entries : List (String × Signature)
  full : Bool := false
  filings : List (Command × Verdict) := []

namespace InFlight

def waiting (inFlight : InFlight) (key : String) : Option Command := inFlight.commands.lookup key

theorem waiting_send (inFlight : InFlight) (item : OutgoingItem) (key : String) :
    (inFlight.send item).waiting key =
      if key = item.key then some item.state.command else inFlight.waiting key := by
  rw [send, waiting, Entries.lookup_cons]
  split
  · rfl
  · rename_i other
    exact (Entries.lookup_without item.key key inFlight.commands).trans (if_neg other)

theorem waiting_answer (inFlight : InFlight) (verdict : Verdict) (key : String) :
    (inFlight.answer verdict).2.waiting key =
      if verdict.id = key ∧ verdict.code.isChunkAck = false then none else inFlight.waiting key := by
  rw [answer]
  cases verdict.code.isChunkAck with
  | true => simp
  | false =>
    refine (Entries.lookup_without verdict.id key inFlight.commands).trans ?_
    simp [waiting, eq_comm]

end InFlight

namespace Ledger

variable (terms : Terms)

def transfer (key : String) : Command × Verdict :=
  (.upload, { id := key, code := terms.rule.okCode })

/-- One step of an upload. A verdict of an item that is not in flight has no effect, and a chunk
acknowledgment is not filed. -/
def step (ledger : Ledger) : UploadStep → Ledger
  | .send item =>
    { ledger with
      inFlight := ledger.inFlight.send item
      filings := ledger.filings ++ [transfer terms item.key] }
  | .hear verdict =>
    match ledger.inFlight.waiting verdict.id with
    | none => { ledger with inFlight := (ledger.inFlight.answer verdict).2 }
    | some command =>
      { inFlight := (ledger.inFlight.answer verdict).2
        entries := SourceM.answered terms.rule terms.sign command verdict ledger.entries
        full := ledger.full || SourceM.fills terms.rule verdict
        filings := ledger.filings ++ if verdict.code.isChunkAck then [] else [(command, verdict)] }

def run (ledger : Ledger) (steps : List UploadStep) : Ledger := steps.foldl (step terms) ledger

def settled (command : Command) (verdict : Verdict) (entry : Option Signature) : Option Signature :=
  if terms.rule.isSuccess verdict.code then
    if command = .delete then none else (terms.sign verdict.id).or entry
  else entry

variable {terms}

theorem lookup_answered_final {command : Command} {verdict : Verdict}
    (final : verdict.code.isChunkAck = false) (entries : List (String × Signature)) :
    (SourceM.answered terms.rule terms.sign command verdict entries).lookup verdict.id =
      settled terms command verdict (entries.lookup verdict.id) := by
  rw [SourceM.answered, settled, final, Bool.false_or]
  cases terms.rule.isSuccess verdict.code with
  | false => rfl
  | true =>
    by_cases deletion : command = .delete
    · simp [deletion, Entries.lookup_without]
    · cases terms.sign verdict.id <;> simp [deletion, Entries.lookup_place]

theorem answered_chunk {command : Command} {verdict : Verdict}
    (chunk : verdict.code.isChunkAck = true) (entries : List (String × Signature)) :
    SourceM.answered terms.rule terms.sign command verdict entries = entries := by
  rw [SourceM.answered, chunk, Bool.true_or, if_pos rfl]

variable (terms)

theorem run_cons (ledger : Ledger) (taken : UploadStep) (rest : List UploadStep) :
    ledger.run terms (taken :: rest) = (ledger.step terms taken).run terms rest := rfl

theorem run_append (ledger : Ledger) (first second : List UploadStep) :
    ledger.run terms (first ++ second) = (ledger.run terms first).run terms second :=
  List.foldl_append

theorem run_concat (ledger : Ledger) (steps : List UploadStep) (taken : UploadStep) :
    ledger.run terms (steps ++ [taken]) = (ledger.run terms steps).step terms taken :=
  run_append terms ledger steps [taken]

theorem run_sends (ledger : Ledger) (items : List OutgoingItem) :
    (ledger.run terms (items.map .send)).entries = ledger.entries ∧
      (ledger.run terms (items.map .send)).full = ledger.full := by
  induction items generalizing ledger with
  | nil => exact ⟨rfl, rfl⟩
  | cons item rest ih => exact ih (ledger.step terms (.send item))

theorem waiting_send (ledger : Ledger) (item : OutgoingItem) (key : String) :
    (ledger.step terms (.send item)).inFlight.waiting key =
      if key = item.key then some item.state.command else ledger.inFlight.waiting key :=
  InFlight.waiting_send _ _ _

theorem inFlight_send (ledger : Ledger) (item : OutgoingItem) :
    (ledger.step terms (.send item)).inFlight = ledger.inFlight.send item := rfl

theorem inFlight_hear (ledger : Ledger) (verdict : Verdict) :
    (ledger.step terms (.hear verdict)).inFlight = (ledger.inFlight.answer verdict).2 := by
  rw [step]
  split <;> rfl

theorem waiting_hear (ledger : Ledger) (verdict : Verdict) (key : String) :
    (ledger.step terms (.hear verdict)).inFlight.waiting key =
      if verdict.id = key ∧ verdict.code.isChunkAck = false then none
      else ledger.inFlight.waiting key := by
  rw [inFlight_hear, InFlight.waiting_answer]

/-! ### What becomes of a key -/

theorem lookup_hear (ledger : Ledger) (verdict : Verdict) (key : String) :
    (ledger.step terms (.hear verdict)).entries.lookup key =
      match ledger.inFlight.waiting key with
      | none => ledger.entries.lookup key
      | some command =>
        if verdict.id = key ∧ verdict.code.isChunkAck = false then
          settled terms command verdict (ledger.entries.lookup key)
        else ledger.entries.lookup key := by
  by_cases own : verdict.id = key
  · subst own
    rw [step]
    cases ledger.inFlight.waiting verdict.id with
    | none => rfl
    | some command =>
      cases chunk : verdict.code.isChunkAck with
      | true => simp [answered_chunk chunk]
      | false => simp [lookup_answered_final chunk]
  · have kept : (ledger.step terms (.hear verdict)).entries.lookup key =
        ledger.entries.lookup key := by
      rw [step]
      split
      · rfl
      · exact Operation.lookup_answered own _
    rw [kept]
    simp only [own, false_and, if_false]
    split <;> rfl

/-- What is read of a ledger is about one key: it moves with the sending of that key, and with the
first final verdict after it, and with nothing else. -/
structure Observes {α : Type} (key : String) (read : Ledger → α) (sent : OutgoingItem → α → α)
    (settle : Command → Verdict → α → α) : Prop where
  send : ∀ ledger item, read (step terms ledger (.send item)) =
    if item.key = key then sent item (read ledger) else read ledger
  hear : ∀ ledger verdict, read (step terms ledger (.hear verdict)) =
    match ledger.inFlight.waiting key with
    | none => read ledger
    | some command =>
      if verdict.id = key ∧ verdict.code.isChunkAck = false then settle command verdict (read ledger)
      else read ledger

theorem observes_entry (key : String) :
    Observes terms key (fun ledger => ledger.entries.lookup key) (fun _ => id) (settled terms) where
  send _ _ := (ite_self _).symm
  hear ledger verdict := lookup_hear terms ledger verdict key

def about (ledger : Ledger) (key : String) : List (Command × Verdict) :=
  ledger.filings.filter fun filing => filing.2.id == key

theorem about_eq_append {ledger after : Ledger} (filing : Command × Verdict)
    (files : after.filings = ledger.filings ++ [filing]) (key : String) :
    after.about key = ledger.about key ++ if filing.2.id = key then [filing] else [] := by
  rw [about, files, List.filter_append, about]
  by_cases own : filing.2.id = key
  · simp [own]
  · simp [own]

theorem observes_filings (key : String) :
    Observes terms key (fun ledger => ledger.about key)
      (fun _ filings => filings ++ [transfer terms key])
      (fun command verdict filings => filings ++ [(command, verdict)]) where
  send ledger item := by
    rw [about_eq_append (transfer terms item.key) rfl]
    by_cases own : item.key = key
    · simp [transfer, own]
    · simp [transfer, own]
  hear ledger verdict := by
    by_cases own : verdict.id = key
    · subst own
      rw [step]
      cases ledger.inFlight.waiting verdict.id with
      | none => rfl
      | some command =>
        cases chunk : verdict.code.isChunkAck with
        | true => simp [about]
        | false => simp [about]
    · have kept : (ledger.step terms (.hear verdict)).about key = ledger.about key := by
        rw [step]
        cases ledger.inFlight.waiting verdict.id with
        | none => rfl
        | some command =>
          cases chunk : verdict.code.isChunkAck with
          | true => simp [about]
          | false => simp [about, own]
      rw [kept]
      simp only [own, false_and, if_false]
      split <;> rfl

/-! ### The report -/

def serverFiling (filing : Command × Verdict) : Filing := ⟨.server, filing.1, filing.2⟩

def report (ledger : Ledger) (config : SourceSettings) : SourceReport :=
  { Source.blankReport config with standing := .running }.receive .server
    (ledger.filings.map serverFiling) ledger.full

section Report

variable (ledger : Ledger) (config : SourceSettings)

theorem report_receive {after : Ledger} {filings : List (Command × Verdict)} {fills : Bool}
    (files : after.filings = ledger.filings ++ filings) (full : after.full = (ledger.full || fills)) :
    after.report config =
      (ledger.report config).receive .server (filings.map serverFiling) fills := by
  rw [report, report, files, full, List.map_append, SourceReport.receive_receive]

theorem report_send (item : OutgoingItem) :
    (ledger.step terms (.send item)).report config = (ledger.report config).record .server .upload
      { id := item.key, code := terms.rule.okCode } := by
  have files : (ledger.step terms (.send item)).filings =
      ledger.filings ++ [transfer terms item.key] := rfl
  have full : (ledger.step terms (.send item)).full = (ledger.full || false) :=
    (Bool.or_false _).symm
  exact ledger.report_receive config files full

theorem report_hear {verdict : Verdict} {command : Command}
    (waits : ledger.inFlight.waiting verdict.id = some command) :
    (ledger.step terms (.hear verdict)).report config =
      (ledger.report config).answered terms.rule command verdict := by
  have full : (ledger.step terms (.hear verdict)).full =
      (ledger.full || SourceM.fills terms.rule verdict) := by rw [step, waits]
  cases chunk : verdict.code.isChunkAck with
  | true =>
    have files : (ledger.step terms (.hear verdict)).filings = ledger.filings ++ [] := by
      rw [step, waits, chunk]
      rfl
    rw [ledger.report_receive config files full, SourceReport.answered,
      SourceReport.record_chunk chunk]
    rfl
  | false =>
    have files : (ledger.step terms (.hear verdict)).filings =
        ledger.filings ++ [(command, verdict)] := by
      rw [step, waits, chunk]
      rfl
    exact ledger.report_receive config files full

theorem standing_report : (ledger.report config).standing ≠ .resting := by
  rw [report]
  refine SourceReport.standing_receive ?_ _ _ _
  intro resting
  cases resting

theorem fault_report :
    (ledger.report config).fault = if ledger.full then some (SourceReport.fullFault .server) else none :=
  SourceReport.fault_receive _ _ _ _

theorem isFull_report : (ledger.report config).isFull .server = ledger.full := by
  rw [SourceReport.isFull, fault_report]
  cases ledger.full with
  | true => rfl
  | false => rfl

end Report

section

variable {terms} {ledger : Ledger} {key : String}

section Observations

variable {α : Type} {read : Ledger → α} {sent : OutgoingItem → α → α}
  {settle : Command → Verdict → α → α} (observes : Observes terms key read sent settle)

include observes

theorem Observes.run_idle (steps : List UploadStep) (idle : ledger.inFlight.waiting key = none)
    (unsent : key ∉ sentKeys steps) : read (ledger.run terms steps) = read ledger := by
  induction steps generalizing ledger with
  | nil => rfl
  | cons taken rest ih =>
    rw [run_cons]
    cases taken with
    | send item =>
      obtain ⟨other, later⟩ : key ≠ item.key ∧ key ∉ sentKeys rest := by
        simpa [sentKeys, sentItems] using unsent
      have still : (ledger.step terms (.send item)).inFlight.waiting key = none := by
        rw [waiting_send, if_neg other, idle]
      rw [ih still later, observes.send, if_neg (Ne.symm other)]
    | hear verdict =>
      have still : (ledger.step terms (.hear verdict)).inFlight.waiting key = none := by
        rw [waiting_hear, idle, ite_self]
      rw [ih still unsent, observes.hear, idle]

theorem Observes.run_waiting (steps : List UploadStep) {command : Command}
    (waits : ledger.inFlight.waiting key = some command) (unsent : key ∉ sentKeys steps) :
    read (ledger.run terms steps) =
      match firstFinal key steps with
      | none => read ledger
      | some verdict => settle command verdict (read ledger) := by
  induction steps generalizing ledger with
  | nil => rfl
  | cons taken rest ih =>
    rw [run_cons]
    cases taken with
    | send item =>
      obtain ⟨other, later⟩ : key ≠ item.key ∧ key ∉ sentKeys rest := by
        simpa [sentKeys, sentItems] using unsent
      have still : (ledger.step terms (.send item)).inFlight.waiting key = some command := by
        rw [waiting_send, if_neg other, waits]
      have kept := observes.send ledger item
      rw [if_neg (Ne.symm other)] at kept
      rw [ih still later, firstFinal, kept]
    | hear verdict =>
      have moves := observes.hear ledger verdict
      have flight := waiting_hear terms ledger verdict key
      rw [waits] at moves flight
      rw [firstFinal]
      by_cases first : verdict.id = key ∧ verdict.code.isChunkAck = false
      · simp only [if_pos first] at moves flight ⊢
        rw [observes.run_idle rest flight unsent, moves]
      · simp only [if_neg first] at moves flight ⊢
        rw [ih flight unsent, moves]

/-- Where no key is sent twice, what is read of a key follows from its item and its answer. -/
theorem Observes.run (steps : List UploadStep) (distinct : (sentKeys steps).Nodup)
    (idle : ledger.inFlight.waiting key = none) :
    read (ledger.run terms steps) =
      match sentItem? key steps with
      | none => read ledger
      | some item =>
        match answerTo key steps with
        | none => sent item (read ledger)
        | some verdict => settle item.state.command verdict (sent item (read ledger)) := by
  induction steps generalizing ledger with
  | nil => rfl
  | cons taken rest ih =>
    rw [run_cons]
    cases taken with
    | hear verdict =>
      have still : (ledger.step terms (.hear verdict)).inFlight.waiting key = none := by
        rw [waiting_hear, idle, ite_self]
      have kept : read (ledger.step terms (.hear verdict)) = read ledger := by
        rw [observes.hear, idle]
      rw [ih distinct still, kept]
      rfl
    | send item =>
      obtain ⟨once, others⟩ : item.key ∉ sentKeys rest ∧ (sentKeys rest).Nodup := by
        simpa [sentKeys, sentItems] using distinct
      have moves := observes.send ledger item
      rw [answerTo, sentItem?_send]
      by_cases own : item.key = key
      · subst own
        have waits : (ledger.step terms (.send item)).inFlight.waiting item.key =
            some item.state.command := by
          rw [waiting_send, if_pos rfl]
        simp only [if_true] at moves ⊢
        rw [observes.run_waiting rest waits once, moves]
      · have still : (ledger.step terms (.send item)).inFlight.waiting key = none := by
          rw [waiting_send, if_neg (Ne.symm own), idle]
        rw [if_neg own] at moves
        rw [ih others still, moves, if_neg own, if_neg own]

end Observations

theorem command_eq_delete {state : Finding} : state.command = .delete ↔ state = .deleted := by
  cases state <;> simp [Finding.command]

theorem settled_eq {item : OutgoingItem} {verdict : Verdict} (own : verdict.id = item.key)
    (entry : Option Signature) :
    settled terms item.state.command verdict entry =
      if terms.rule.isSuccess verdict.code && (item.state == .deleted || (terms.sign item.key).isSome)
      then if item.state = .deleted then none else terms.sign item.key
      else entry := by
  rw [settled, own]
  cases terms.rule.isSuccess verdict.code with
  | false => rfl
  | true =>
    by_cases deletion : item.state = .deleted
    · simp [deletion, command_eq_delete]
    · cases terms.sign item.key <;> simp [deletion, command_eq_delete]

/-- Where no key is sent twice, the entry of a key changes exactly if the key is confirmed: it is
gone if the item was a deletion, and the present signature otherwise. -/
theorem lookup_run (steps : List UploadStep) (distinct : (sentKeys steps).Nodup)
    (idle : ledger.inFlight.waiting key = none) :
    (confirmed terms key steps = false →
      (ledger.run terms steps).entries.lookup key = ledger.entries.lookup key) ∧
    (confirmed terms key steps = true → ∃ item ∈ sentItems steps, item.key = key ∧
      (item.state ≠ .deleted → (terms.sign key).isSome) ∧
      (ledger.run terms steps).entries.lookup key =
        if item.state = .deleted then none else terms.sign key) := by
  rw [(observes_entry terms key).run steps distinct idle, confirmed_eq]
  cases sent : sentItem? key steps with
  | none => exact ⟨fun _ => rfl, fun sure => nomatch sure⟩
  | some item =>
    obtain ⟨member, rfl⟩ := of_sentItem? sent
    cases answer : answerTo item.key steps with
    | none => exact ⟨fun _ => rfl, fun sure => nomatch sure⟩
    | some verdict =>
      rw [Option.any_some, Option.any_some]
      dsimp only
      rw [settled_eq (id_answerTo answer).1]
      refine ⟨fun unsure => if_neg (Bool.not_eq_true _ ▸ unsure), fun sure => ?_⟩
      refine ⟨item, member, rfl, fun kept => ?_, if_pos sure⟩
      rw [Bool.and_eq_true, Bool.or_eq_true] at sure
      exact sure.2.resolve_left fun deletion => kept (eq_of_beq deletion)

/-! ### The entries of missing items -/

theorem missing_answered {present : List String} {command : Command} {verdict : Verdict}
    (listed : command ≠ .delete → verdict.id ∈ present) (entries : List (String × Signature)) :
    (ChangeScan.missing present
      (SourceM.answered terms.rule terms.sign command verdict entries)).Sublist
      (ChangeScan.missing present entries) := by
  rw [SourceM.answered]
  split
  · exact List.Sublist.refl _
  · split
    · exact List.filter_sublist.filter _
    · rename_i kept
      have dropped : (!present.contains verdict.id) = false := by simp [listed kept]
      split
      · rw [ChangeScan.missing,
          Entries.filter_place (fun key => !present.contains key) dropped]
        exact List.Sublist.refl _
      · exact List.Sublist.refl _

theorem missing_run {present : List String} (steps : List UploadStep)
    (waits : ∀ key command, ledger.inFlight.waiting key = some command → command ≠ .delete →
      key ∈ present)
    (sent : ∀ item ∈ sentItems steps, item.state ≠ .deleted → item.key ∈ present) :
    (ChangeScan.missing present (ledger.run terms steps).entries).Sublist
      (ChangeScan.missing present ledger.entries) := by
  induction steps generalizing ledger with
  | nil => exact List.Sublist.refl _
  | cons taken rest ih =>
    rw [run_cons]
    cases taken with
    | send item =>
      refine @ih (ledger.step terms (.send item)) ?_ fun other member =>
        sent other (List.mem_cons_of_mem _ member)
      intro key command flying kept
      rw [waiting_send] at flying
      split at flying
      · rename_i own
        have deletes := mt command_eq_delete.mpr (Option.some.inj flying ▸ kept)
        exact own ▸ sent item List.mem_cons_self deletes
      · exact waits key command flying kept
    | hear verdict =>
      have still : ∀ key command, (ledger.step terms (.hear verdict)).inFlight.waiting key =
          some command → command ≠ .delete → key ∈ present := by
        intro key command flying kept
        rw [waiting_hear] at flying
        split at flying
        · cases flying
        · exact waits key command flying kept
      refine (ih still sent).trans ?_
      rw [step]
      split
      · exact List.Sublist.refl _
      · rename_i command flying
        exact missing_answered (fun kept => waits _ command flying kept) _

/-! ### Uploads that are accepted -/

def Expects (terms : Terms) (inFlight : InFlight) (steps : List UploadStep) : Prop :=
  ∀ key, (inFlight.waiting key).isSome →
    (firstFinal key steps).any (fun verdict => terms.rule.isSuccess verdict.code) = true

theorem Expects.send {item : OutgoingItem} {rest : List UploadStep}
    (expects : Expects terms ledger.inFlight (.send item :: rest))
    (accepted : allAccepted terms.rule (.send item :: rest) = true) :
    Expects terms (ledger.step terms (.send item)).inFlight rest := by
  intro key waits
  rw [waiting_send] at waits
  split at waits
  · rename_i own
    rw [allAccepted, Bool.and_eq_true] at accepted
    exact own ▸ accepted.1
  · exact expects key waits

theorem Expects.hear {verdict : Verdict} {rest : List UploadStep}
    (expects : Expects terms ledger.inFlight (.hear verdict :: rest)) :
    Expects terms (ledger.step terms (.hear verdict)).inFlight rest := by
  intro key waits
  rw [waiting_hear] at waits
  split at waits
  · cases waits
  · rename_i later
    have first := expects key waits
    rwa [firstFinal, if_neg later] at first

theorem Expects.fills_eq_false {verdict : Verdict} {rest : List UploadStep} {command : Command}
    (expects : Expects terms ledger.inFlight (.hear verdict :: rest))
    (waits : ledger.inFlight.waiting verdict.id = some command) :
    SourceM.fills terms.rule verdict = false := by
  rw [SourceM.fills]
  cases final : verdict.code.isChunkAck with
  | true => rfl
  | false =>
    have success := expects verdict.id (by rw [waits]; rfl)
    rw [firstFinal, if_pos ⟨rfl, final⟩, Option.any_some] at success
    rw [success]
    rfl

theorem full_run (steps : List UploadStep) (expects : Expects terms ledger.inFlight steps)
    (accepted : allAccepted terms.rule steps = true) :
    (ledger.run terms steps).full = ledger.full := by
  induction steps generalizing ledger with
  | nil => rfl
  | cons taken rest ih =>
    rw [run_cons]
    cases taken with
    | send item => exact ih (expects.send accepted) (Bool.and_eq_true _ _ ▸ accepted).2
    | hear verdict =>
      rw [ih expects.hear accepted, step]
      split
      · rfl
      · rename_i command waits
        show (ledger.full || _) = _
        rw [expects.fills_eq_false waits, Bool.or_false]

def Lands (terms : Terms) (key : String) (target : Option Signature) (command : Command) : Prop :=
  ∀ verdict entry, verdict.id = key → terms.rule.isSuccess verdict.code = true →
    settled terms command verdict entry = target

theorem lands_delete (key : String) : Lands terms key none .delete := by
  intro verdict entry _ success
  rw [settled, success]
  rfl

theorem lands_sign {state : Finding} (kept : state ≠ .deleted) {signature : Signature}
    (signed : terms.sign key = some signature) : Lands terms key (some signature) state.command := by
  intro verdict entry own success
  rw [settled, success, if_pos rfl, if_neg (mt command_eq_delete.mp kept), own, signed]
  rfl

theorem lookup_run_accepted {target : Option Signature} (steps : List UploadStep)
    (expects : Expects terms ledger.inFlight steps) (accepted : allAccepted terms.rule steps = true)
    (flying : ∀ command, ledger.inFlight.waiting key = some command → Lands terms key target command)
    (sent : ∀ item ∈ sentItems steps, item.key = key → Lands terms key target item.state.command)
    (start : (ledger.inFlight.waiting key).isSome ∨ ledger.entries.lookup key = target ∨
      key ∈ sentKeys steps) :
    (ledger.run terms steps).entries.lookup key = target := by
  induction steps generalizing ledger with
  | nil =>
    rcases start with waits | there | later
    · cases expects key waits
    · exact there
    · cases later
  | cons taken rest ih =>
    rw [run_cons]
    cases taken with
    | send item =>
      refine ih (expects.send accepted) (Bool.and_eq_true _ _ ▸ accepted).2 ?_
        (fun other member => sent other (List.mem_cons_of_mem _ member)) ?_
      · intro command waits
        rw [waiting_send] at waits
        split at waits
        · rename_i own
          exact Option.some.inj waits ▸ sent item List.mem_cons_self own.symm
        · exact flying command waits
      · rw [waiting_send]
        split
        · exact .inl rfl
        · rename_i other
          refine start.imp_right (Or.imp_right fun member => ?_)
          exact (List.mem_cons.mp member).resolve_left other
    | hear verdict =>
      have entry := lookup_hear terms ledger verdict key
      refine ih expects.hear accepted ?_ sent ?_
      · intro command waits
        rw [waiting_hear] at waits
        split at waits
        · cases waits
        · exact flying command waits
      · rw [waiting_hear, entry]
        cases waits : ledger.inFlight.waiting key with
        | none =>
          rw [waits] at start
          rw [ite_self]
          exact start
        | some command =>
          by_cases first : verdict.id = key ∧ verdict.code.isChunkAck = false
          · have success := expects key (by rw [waits]; rfl)
            rw [firstFinal, if_pos first, Option.any_some] at success
            simp only [if_pos first]
            exact .inr (.inl (flying command waits verdict _ first.1 success))
          · rw [if_neg first]
            exact .inl rfl

end

end Ledger

end Reconcile
