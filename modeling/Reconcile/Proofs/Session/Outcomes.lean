import Mathlib.Data.List.Nodup
import Reconcile.Proofs.Report.Listed
import Reconcile.Proofs.Session.Account
import Reconcile.Proofs.Session.Delivery

/-!
The account that a report gives of an upload. It lists every item that was sent, and under the command
of an item the first final verdict that came while the item was in flight, as they came. No other
verdict leaves a trace.
-/

namespace Reconcile

/-! ### First answers -/

/-- A verdict that comes after the given steps is the first final one of an item that was sent with
the command. The item is in flight until then. -/
def Settles (command : Command) (before : List UploadStep) (verdict : Verdict) : Bool :=
  verdict.id != "" && !verdict.code.isChunkAck && (answerTo verdict.id before).isNone &&
    (sentItem? verdict.id before).any fun item => item.state.command == command

/-- The verdicts among some steps that settle an item which was sent with the command, in the order
in which they come. -/
def settling (command : Command) : List UploadStep → List UploadStep → List Verdict
  | _, [] => []
  | before, .send item :: rest => settling command (before ++ [.send item]) rest
  | before, .hear verdict :: rest =>
    (if Settles command before verdict then [verdict] else []) ++
      settling command (before ++ [.hear verdict]) rest

theorem firstFinal_append (key : String) (first second : List UploadStep) :
    firstFinal key (first ++ second) = (firstFinal key first).or (firstFinal key second) := by
  induction first with
  | nil => rfl
  | cons taken rest ih =>
    cases taken with
    | send item => exact ih
    | hear verdict =>
      rw [List.cons_append, firstFinal, firstFinal]
      split
      · rfl
      · exact ih

theorem answerTo_append {key : String} {first : List UploadStep} {verdict : Verdict}
    (answered : answerTo key first = some verdict) (second : List UploadStep) :
    answerTo key (first ++ second) = some verdict := by
  induction first with
  | nil => cases answered
  | cons taken rest ih =>
    cases taken with
    | hear other => exact ih answered
    | send item =>
      rw [List.cons_append, answerTo]
      rw [answerTo] at answered
      split
      · rename_i own
        rw [if_pos own] at answered
        rw [firstFinal_append, answered, Option.some_or]
      · rename_i other
        rw [if_neg other] at answered
        exact ih answered

theorem answerTo_hear {before : List UploadStep} {verdict : Verdict}
    (final : verdict.code.isChunkAck = false) (sent : (sentItem? verdict.id before).isSome) :
    (answerTo verdict.id (before ++ [.hear verdict])).isSome := by
  induction before with
  | nil => cases sent
  | cons taken rest ih =>
    cases taken with
    | hear other => exact ih sent
    | send item =>
      rw [List.cons_append, answerTo]
      rw [sentItem?_send] at sent
      split
      · rw [firstFinal_append, firstFinal, if_pos ⟨rfl, final⟩]
        simp
      · rename_i other
        rw [if_neg other] at sent
        exact ih sent

section

variable {command : Command} {before : List UploadStep} {verdict : Verdict}

theorem answered_of_settles (settles : Settles command before verdict = true) :
    answerTo verdict.id before = none ∧
      (answerTo verdict.id (before ++ [.hear verdict])).isSome := by
  simp only [Settles, Bool.and_eq_true, Bool.not_eq_true'] at settles
  obtain ⟨⟨⟨_, final⟩, unanswered⟩, sent⟩ := settles
  refine ⟨Option.isNone_iff_eq_none.mp unanswered, answerTo_hear final ?_⟩
  cases found : sentItem? verdict.id before with
  | none => rw [found] at sent; cases sent
  | some item => rfl

theorem unanswered_of_mem_settling (before steps : List UploadStep)
    (member : verdict ∈ settling command before steps) : answerTo verdict.id before = none := by
  induction steps generalizing before with
  | nil => cases member
  | cons taken rest ih =>
    have later : verdict ∈ settling command (before ++ [taken]) rest →
        answerTo verdict.id before = none := by
      -- An answer among fewer steps would still be one among more.
      intro member
      cases answered : answerTo verdict.id before with
      | none => rfl
      | some other =>
        have still := ih (before ++ [taken]) member
        rw [answerTo_append answered] at still
        cases still
    cases taken with
    | send item => exact later member
    | hear other =>
      rw [settling, List.mem_append] at member
      rcases member with now | member
      · split at now
        · rename_i settles
          obtain rfl := List.mem_singleton.mp now
          exact (answered_of_settles settles).1
        · cases now
      · exact later member

end

theorem nodup_settling (command : Command) (before steps : List UploadStep) :
    ((settling command before steps).map Verdict.id).Nodup := by
  induction steps generalizing before with
  | nil => exact List.nodup_nil
  | cons taken rest ih =>
    cases taken with
    | send item => exact ih _
    | hear verdict =>
      rw [settling]
      split
      · rename_i settles
        -- Once it is heard the item is answered, and whatever settles it later finds it unanswered.
        refine List.nodup_cons.mpr ⟨fun again => ?_, ih _⟩
        obtain ⟨other, member, own⟩ := List.mem_map.mp again
        have unanswered := unanswered_of_mem_settling _ _ member
        have answered := (answered_of_settles settles).2
        rw [own] at unanswered
        rw [unanswered] at answered
        cases answered
      · exact ih _

/-! ### The lists of a ledger -/

theorem Finding.command_ne_upload (state : Finding) : state.command ≠ .upload := by
  cases state <;> decide

theorem nodup_sentKeys_of_append {first second : List UploadStep}
    (distinct : (sentKeys (first ++ second)).Nodup) : (sentKeys first).Nodup := by
  rw [sentKeys, sentItems_append, List.map_append] at distinct
  exact (List.nodup_append.mp distinct).1

theorem sentItem?_of_mem {steps : List UploadStep} {item : OutgoingItem}
    (distinct : (sentKeys steps).Nodup) (sent : item ∈ sentItems steps) :
    sentItem? item.key steps = some item := by
  cases found : sentItem? item.key steps with
  | none =>
    rw [sentItem?, List.find?_eq_none] at found
    exact absurd (beq_self_eq_true item.key) (found item sent)
  | some other =>
    obtain ⟨member, own⟩ := of_sentItem? found
    rw [List.inj_on_of_nodup_map distinct member sent own]

namespace Ledger

variable (terms : Terms) {base : List (String × Signature)}

theorem observes_waiting (key : String) :
    Observes terms key (fun ledger => ledger.inFlight.waiting key)
      (fun item _ => some item.state.command) (fun _ _ _ => none) where
  send ledger item := by
    rw [waiting_send]
    simp only [eq_comm]
  hear ledger verdict := by
    rw [waiting_hear]
    cases ledger.inFlight.waiting key with
    | none => exact ite_self _
    | some command => rfl

theorem waiting_run (steps : List UploadStep) (distinct : (sentKeys steps).Nodup) (key : String) :
    (Ledger.run terms { entries := base } steps).inFlight.waiting key =
      if (answerTo key steps).isNone then (sentItem? key steps).map fun item => item.state.command
      else none := by
  rw [(observes_waiting terms key).run steps distinct rfl]
  cases sentItem? key steps with
  | none => simp [InFlight.waiting]
  | some item => cases answerTo key steps <;> rfl

def lane (command : Command) (ledger : Ledger) : List Verdict :=
  (ledger.filings.filter fun filing => (serverFiling filing).fits .server command).map Prod.snd

variable {terms} {command : Command} {ledger after : Ledger} {key : String}

theorem fits_serverFiling (filing : Command × Verdict) (command : Command) :
    (serverFiling filing).fits .server command = true ↔
      filing.1 = command ∧ Bucket.accepts filing.2 = true := by
  simp [Filing.fits, serverFiling]

theorem lane_add {filing : Command × Verdict} (files : after.filings = ledger.filings ++ [filing])
    (command : Command) : lane command after = lane command ledger ++
      if filing.1 = command ∧ Bucket.accepts filing.2 = true then [filing.2] else [] := by
  have fits := fits_serverFiling filing command
  rw [lane, files, List.filter_append, List.map_append, lane, List.filter_cons]
  congr 1
  by_cases kept : filing.1 = command ∧ Bucket.accepts filing.2 = true
  · rw [if_pos kept, if_pos (fits.mpr kept)]
    rfl
  · rw [if_neg kept, if_neg (mt fits.mp kept)]
    rfl

theorem accepts_transfer (terms : Terms) (key : String) :
    Bucket.accepts (transfer terms key).2 = true ↔ key ≠ "" := by
  have final : terms.rule.okCode.isChunkAck = false := by
    cases terms.rule <;> rfl
  simp [Bucket.accepts, transfer, final]

theorem lane_send (command : Command) (ledger : Ledger) (item : OutgoingItem) :
    lane command (ledger.step terms (.send item)) = lane command ledger ++
      if .upload = command ∧ item.key ≠ "" then [(transfer terms item.key).2] else [] := by
  have files : (ledger.step terms (.send item)).filings =
      ledger.filings ++ [transfer terms item.key] := rfl
  rw [lane_add files]
  simp only [accepts_transfer]
  rfl

theorem lane_hear (command : Command) (ledger : Ledger) (verdict : Verdict) :
    lane command (ledger.step terms (.hear verdict)) = lane command ledger ++
      if ledger.inFlight.waiting verdict.id = some command ∧ Bucket.accepts verdict = true then [verdict]
      else [] := by
  cases waits : ledger.inFlight.waiting verdict.id with
  | none =>
    have files : (ledger.step terms (.hear verdict)).filings = ledger.filings := by rw [step, waits]
    simp [lane, files]
  | some asked =>
    cases chunk : verdict.code.isChunkAck with
    | true =>
      have files : (ledger.step terms (.hear verdict)).filings = ledger.filings := by
        simp [step, waits, chunk]
      simp [lane, files, Bucket.accepts, chunk]
    | false =>
      have files : (ledger.step terms (.hear verdict)).filings = ledger.filings ++ [(asked, verdict)] := by
        simp [step, waits, chunk]
      rw [lane_add files]
      simp only [Option.some.injEq]

theorem settles_iff {before : List UploadStep} (distinct : (sentKeys before).Nodup)
    (command : Command) (verdict : Verdict) :
    (Ledger.run terms { entries := base } before).inFlight.waiting verdict.id = some command ∧
      Bucket.accepts verdict = true ↔ Settles command before verdict = true := by
  rw [waiting_run terms before distinct, Settles, Bucket.accepts]
  cases answerTo verdict.id before <;> cases sentItem? verdict.id before <;> simp [and_comm]

theorem lane_run (items : command ≠ .upload) (before steps : List UploadStep)
    (distinct : (sentKeys (before ++ steps)).Nodup) :
    lane command (Ledger.run terms { entries := base } (before ++ steps)) =
      lane command (Ledger.run terms { entries := base } before) ++ settling command before steps := by
  -- The steps to come are taken one after the other; which items wait follows from those before.
  induction steps generalizing before with
  | nil => rw [settling, List.append_nil, List.append_nil]
  | cons taken rest ih =>
    have shift : before ++ taken :: rest = (before ++ [taken]) ++ rest := by simp
    rw [shift] at distinct ⊢
    rw [ih _ distinct, run_concat]
    cases taken with
    | send item => rw [lane_send, if_neg fun sent => items sent.1.symm, List.append_nil, settling]
    | hear verdict =>
      have once := nodup_sentKeys_of_append (nodup_sentKeys_of_append distinct)
      rw [lane_hear, List.append_assoc, settling]
      simp only [settles_iff once command verdict]

theorem lane_upload (before steps : List UploadStep)
    (distinct : (sentKeys (before ++ steps)).Nodup) :
    lane .upload (Ledger.run terms { entries := base } (before ++ steps)) =
      lane .upload (Ledger.run terms { entries := base } before) ++
        ((sentKeys steps).filter (· ≠ "")).map fun key => (transfer terms key).2 := by
  induction steps generalizing before with
  | nil => exact (List.append_nil _).symm ▸ (List.append_nil _).symm
  | cons taken rest ih =>
    have shift : before ++ taken :: rest = (before ++ [taken]) ++ rest := by simp
    rw [shift] at distinct ⊢
    rw [ih _ distinct, run_concat]
    cases taken with
    | send item =>
      have keys : sentKeys (.send item :: rest) = item.key :: sentKeys rest := rfl
      rw [lane_send, List.append_assoc, keys]
      by_cases named : item.key = ""
      · simp [named]
      · simp [named]
    | hear verdict =>
      have once := nodup_sentKeys_of_append (nodup_sentKeys_of_append distinct)
      -- No item waits with the command under which transfers are filed.
      have elsewhere : (Ledger.run terms { entries := base } before).inFlight.waiting verdict.id ≠
          some .upload := by
        rw [waiting_run terms before once]
        cases answerTo verdict.id before with
        | some answer => simp
        | none => simp [Finding.command_ne_upload]
      rw [lane_hear, if_neg fun waits => elsewhere waits.1, List.append_nil]
      rfl

theorem filter_lane (command : Command) (ledger : Ledger) (key : String) :
    (lane command ledger).filter (fun verdict => verdict.id == key) =
      ((ledger.about key).filter fun filing => (serverFiling filing).fits .server command).map
        Prod.snd := by
  rw [lane, about, List.filter_map, List.filter_filter, List.filter_filter]
  congr 2
  funext filing
  exact Bool.and_comm _ _

theorem filter_lane_run {steps : List UploadStep} (distinct : (sentKeys steps).Nodup)
    {item : OutgoingItem} (sent : item ∈ sentItems steps) (named : item.key ≠ "")
    (items : command ≠ .upload) :
    (lane command (Ledger.run terms { entries := base } steps)).filter
        (fun verdict => verdict.id == item.key) =
      if item.state.command = command then (answerTo item.key steps).toList else [] := by
  have filed : (Ledger.run terms { entries := base } steps).about item.key =
      transfer terms item.key ::
        (answerTo item.key steps).toList.map fun verdict => (item.state.command, verdict) := by
    rw [(observes_filings terms item.key).run steps distinct rfl, sentItem?_of_mem distinct sent]
    cases answerTo item.key steps with
    | none => rfl
    | some verdict => rfl
  have passed : ¬ (serverFiling (transfer terms item.key)).fits .server command = true := by
    rw [fits_serverFiling]
    exact fun fits => items fits.1.symm
  rw [filter_lane, filed, List.filter_cons, if_neg passed]
  cases answer : answerTo item.key steps with
  | none => exact (ite_self _).symm
  | some verdict =>
    obtain ⟨own, final⟩ := id_answerTo answer
    have kept : Bucket.accepts verdict = true := by simp [Bucket.accepts, own, named, final]
    have fits := fits_serverFiling (item.state.command, verdict) command
    rw [Option.toList_some, List.map_singleton, List.filter_cons]
    by_cases asked : item.state.command = command
    · rw [if_pos (fits.mpr ⟨asked, kept⟩), if_pos asked]
      rfl
    · rw [if_neg fun filed => asked (fits.mp filed).1, if_neg asked]
      rfl

theorem listed_report (ledger : Ledger) (config : SourceSettings)
    (tracked : (SourceReport.lane? .server command).isSome)
    (distinct : ((lane command ledger).map Verdict.id).Nodup) :
    (ledger.report config).listed .server command = lane command ledger := by
  have filed : ((ledger.filings.map serverFiling).filter (·.fits .server command)).map
      Filing.verdict = lane command ledger := by
    rw [List.filter_map, List.map_map]
    rfl
  have blank : (Ledger.report { entries := [] } config).listed .server command = [] := by
    obtain ⟨place, asked⟩ := Option.isSome_iff_exists.mp tracked
    rw [SourceReport.listed, SourceReport.bucket?, asked, Option.map_some, Option.map_some,
      Option.getD_some]
    exact congrArg Bucket.verdicts (Vector.getElem_replicate place.isLt)
  have listed := SourceReport.listed_receive (indexed_report { entries := [] } config) .server
    (ledger.filings.map serverFiling) ledger.full tracked
  rw [blank, List.nil_append, filed] at listed
  exact listed distinct

end Ledger

/-! ### Reports -/

/-- A report that accounts for the steps of an upload: what it lists is what was sent, and the first
answers to that. -/
structure SourceReport.Accounts (report : SourceReport) (rule : SuccessRule)
    (steps : List UploadStep) : Prop where
  transfers : report.listed .server .upload =
    ((sentKeys steps).filter (· ≠ "")).map fun key => { id := key, code := rule.okCode }
  outcomes : ∀ command ∈ [Command.add, .replace, .delete],
    report.listed .server command = settling command [] steps
  /-- An item is listed once under its command and not under another one, or was not answered. -/
  placed : ∀ item ∈ sentItems steps, item.key ≠ "" → ∀ command ∈ [Command.add, .replace, .delete],
    (report.listed .server command).filter (fun verdict => verdict.id == item.key) =
      if item.state.command = command then (answerTo item.key steps).toList else []

namespace Ledger

variable {terms : Terms}

theorem accounts_report (base : List (String × Signature)) {steps : List UploadStep}
    (distinct : (sentKeys steps).Nodup) (config : SourceSettings) :
    ((Ledger.run terms { entries := base } steps).report config).Accounts terms.rule steps := by
  have uploads : (lane .upload (Ledger.run terms { entries := base } steps)) =
      ((sentKeys steps).filter (· ≠ "")).map fun key => (transfer terms key).2 :=
    lane_upload [] steps distinct
  have settles : ∀ command : Command, command ≠ .upload →
      lane command (Ledger.run terms { entries := base } steps) = settling command [] steps :=
    fun command items => lane_run items [] steps distinct
  have listed : ∀ command ∈ [Command.add, .replace, .delete],
      command ≠ .upload ∧ ((Ledger.run terms { entries := base } steps).report config).listed .server
        command = lane command (Ledger.run terms { entries := base } steps) := by
    intro command member
    obtain ⟨items, tracked⟩ : command ≠ .upload ∧ (SourceReport.lane? .server command).isSome := by
      revert command
      decide
    refine ⟨items, listed_report _ _ tracked ?_⟩
    rw [settles command items]
    exact nodup_settling command [] steps
  refine ⟨?_, fun command member => ?_, fun item sent named command member => ?_⟩
  · rw [listed_report _ _ rfl, uploads]
    · rfl
    · rw [uploads, List.map_map]
      exact (List.map_id _).symm ▸ distinct.filter _
  · obtain ⟨items, same⟩ := listed command member
    rw [same, settles command items]
  · obtain ⟨items, same⟩ := listed command member
    rw [same, filter_lane_run distinct sent named items]

end Ledger

/-! ### Verdicts that are passed over -/

variable {P L : Type} [Provider P]

theorem SourceReport.answered_chunk {verdict : Verdict} (chunk : verdict.code.isChunkAck = true)
    (report : SourceReport) (rule : SuccessRule) (command : Command) :
    report.answered rule command verdict = report := by
  rw [answered, SourceM.fills, chunk, record_chunk chunk]
  rfl

theorem SourceM.report_takeVerdict_chunk {verdict : Verdict} (chunk : verdict.code.isChunkAck = true)
    (command : Command) (station : Station P) :
    (leaves (takeVerdict command verdict) station).source.report = station.source.report := by
  by_cases refused : ¬ station.Calm ∨ station.source.report.standing = .resting
  · obtain ⟨error, failed⟩ : ∃ error, takeVerdict command verdict station = .error error station :=
      guards_error refused _ _
    rw [leaves_of_error failed]
  · obtain ⟨calm, begun⟩ : station.Calm ∧ station.source.report.standing ≠ .resting := by
      simpa [not_or] using refused
    cases cached : station.source.cache with
    | ok cache =>
      obtain ⟨left, next, ran, -, -, reported, -⟩ :=
        takeVerdict_ok ⟨calm, begun, cached⟩ command verdict
      rw [leaves_of_ok ran, reported, SourceReport.answered_chunk chunk]
    | error cause =>
      -- Without a cache the verdict is refused before it is recorded.
      have missing : SourceM.cache station =
          .error (Source.missingCache station.source.config cause) station := by
        rw [SourceM.cache, bind_of_ok (source_eq _), cached]
        rfl
      rw [takeVerdict, leaves_bind_of_ok (poll_of_calm calm),
        leaves_bind_of_ok (requireRunning_ok begun _),
        leaves_of_error (bind_of_error (discard_of_error missing) _)]

/-- A verdict of an item that is not in flight and an acknowledgment of a chunk leave no trace in the
report. -/
theorem ExchangeM.report_route {inFlight : InFlight} {verdict : Verdict}
    (passed : inFlight.waiting verdict.id = none ∨ verdict.code.isChunkAck = true)
    (exchange : Exchange P L) :
    (leaves (route [verdict] inFlight) exchange).station.source.report =
      exchange.station.source.report := by
  have routed : (leaves (routeOne verdict (inFlight.answer verdict).1) exchange).station.source.report =
      exchange.station.source.report := by
    cases waits : inFlight.waiting verdict.id with
    | none =>
      have unknown : (inFlight.answer verdict).1 = none := waits
      rw [unknown, routeOne, leaves_of_ok (note_eq .unknownItem exchange)]
      rfl
    | some command =>
      have known : (inFlight.answer verdict).1 = some command := waits
      have chunk := passed.resolve_left (by rw [waits]; simp)
      rw [known, routeOne, leaves_onStation]
      exact SourceM.report_takeVerdict_chunk chunk command exchange.station
  rw [route_cons, ← routed]
  cases ran : routeOne verdict (inFlight.answer verdict).1 exchange with
  | ok value left =>
    rw [leaves_bind_of_ok ran, leaves_of_ok ran]
    rfl
  | error error left => rw [leaves_of_error (bind_of_error ran _), leaves_of_error ran]

/-! ### Uploads -/

theorem Streamed.whole {before after : Exchange P (Recorded L)} {origin : Station P}
    {base : List (String × Signature)} {items : List OutgoingItem}
    {outcome : Except SyncFailure (Option InFlight)}
    (streamed : Streamed before after origin base items outcome) (unbroken : ¬ after.Broken)
    (uncut : outcome.map (fun _ => ()) = .ok () ∨ after.Calm) :
    after.station.Posted origin base (uploadSteps after.link.events) := by
  cases streamed with
  | all underway => exact underway.posts.posted
  | full posts => exact posts.posted
  | cut posts short =>
    -- Where no call failed it was a stop that cut the upload, which shows in the flag.
    have stopped := short.cause.resolve_left unbroken
    rcases uncut with ended | calm
    · cases ended
    · exact absurd calm stopped

namespace Session

variable [ServerLink L] {session : Session} {mode : Option SyncMode} {exchange : Exchange P L}
  {opened : Station P}

def uploaded (mode : SyncMode) (exchange : Exchange P L) (opened : Station P) :
    Exchange P (Recorded L) :=
  leaves (ExchangeM.upload mode) (beginning exchange opened)

/-- An upload sends no item twice, and its source has taken every step on the record of the link. -/
theorem Opens.uploads (opens : Opens session mode exchange opened)
    (unbroken : ¬ (uploaded (exchange.station.source.modeFor mode) exchange opened).Broken)
    (uncut : yields (ExchangeM.upload (exchange.station.source.modeFor mode))
        (beginning exchange opened) = .ok () ∨
      (uploaded (exchange.station.source.modeFor mode) exchange opened).Calm)
    (distinct : (exchange.station.source.modeFor mode).sendsAll = true → ∀ replies,
      (Provider.keys opened.source.provider).value = .ok replies →
        (replies.map Reply.value).Nodup) :
    let left := uploaded (exchange.station.source.modeFor mode) exchange opened
    (sentKeys (uploadSteps left.link.events)).Nodup ∧
      ∃ base, left.station.Posted opened base (uploadSteps left.link.events) := by
  intro left
  obtain ⟨cache, cached⟩ := opens.cached
  cases listed : (Provider.keys opened.source.provider).value with
  | error refusal =>
    -- No keys, no items: the report is the blank one.
    have begun : (beginning exchange opened).station.source.report.standing ≠ .resting := opens.begun
    obtain ⟨station, failed, within⟩ := ExchangeM.upload_unlisted
      (exchange.station.source.modeFor mode) begun opens.idle cached listed
    have same : left = { beginning exchange opened with station } := leaves_of_error failed
    rw [same]
    exact ⟨List.nodup_nil, cache.snapshot, (opens.underway cached).posts.posted.streamed within⟩
  | ok replies =>
    obtain ⟨items, base, single, streams⟩ := opens.streams cached listed
    obtain ⟨result, same, streamed⟩ := ExchangeM.posts_upload streams
    obtain ⟨first, sent, part⟩ := streamed.sent_first
    have sent_first : left.sent = first := sent
    rw [← same] at uncut
    refine ⟨?_, base, streamed.whole unbroken uncut⟩
    show (left.sent.map OutgoingItem.key).Nodup
    rw [sent_first]
    exact (single fun everything => distinct everything replies listed).sublist (part.sublist.map _)

/-- An upload whose calls succeed, and that no stop cuts short, is accounted for: the report lists the
items that were sent as they were sent, and under the command of an item its first final answer, as the
answers came. A verdict of an item that is not in flight and an acknowledgment of a chunk change nothing
of a report. -/
theorem upload_accounts (opens : Opens session mode exchange opened)
    (succeeded : ∀ event ∈
      (uploaded (exchange.station.source.modeFor mode) exchange opened).link.events,
        event.succeeded = true)
    (unaborted : yields (ExchangeM.upload (exchange.station.source.modeFor mode))
        (beginning exchange opened) = .ok () ∨
      (uploaded (exchange.station.source.modeFor mode) exchange opened).Calm)
    (distinct : (exchange.station.source.modeFor mode).sendsAll = true → ∀ replies,
      (Provider.keys opened.source.provider).value = .ok replies →
        (replies.map Reply.value).Nodup) :
    let left := uploaded (exchange.station.source.modeFor mode) exchange opened
    left.station.source.report.Accounts exchange.station.source.config.success
        (uploadSteps left.link.events) ∧
      ∀ (M : Type) (exchange : Exchange P M) (inFlight : InFlight) (verdict : Verdict),
        inFlight.waiting verdict.id = none ∨ verdict.code.isChunkAck = true →
          (leaves (ExchangeM.route [verdict] inFlight) exchange).station.source.report =
            exchange.station.source.report := by
  intro left
  refine ⟨?_, fun M exchange inFlight verdict passed => ExchangeM.report_route passed exchange⟩
  have unbroken : ¬ left.Broken := by
    rintro ⟨event, member, failed⟩
    rw [succeeded event member] at failed
    cases failed
  obtain ⟨once, base, posted⟩ := opens.uploads unbroken unaborted distinct
  rw [posted.report, ← opens.config]
  exact Ledger.accounts_report base once _

def scatteredExchange : Exchange MemoryProvider AnswerQueue :=
  { station := sendingStation, link := scattered }

def scatteredBegun : Station MemoryProvider :=
  (scatteredExchange.station.sharing sending.flag).begun (scatteredExchange.station.source.modeFor none)

def scatteredLeft : Exchange MemoryProvider (Recorded AnswerQueue) :=
  uploaded (scatteredExchange.station.source.modeFor none) scatteredExchange scatteredBegun

theorem scatteredBegun_opens : Opens sending none scatteredExchange scatteredBegun :=
  opens_keeping rfl (by decide +kernel) rfl (by decide +kernel) (by decide +kernel)

/-- Of two verdicts of one item the first one is listed, and none of an item that was not sent. -/
theorem scattered_answers_listed :
    (scatteredLeft.station.source.report.Accounts scatteredExchange.station.source.config.success
        (uploadSteps scatteredLeft.link.events) ∧
      (leaves (ExchangeM.route [{ id := "x", code := StatusCode.deviceFull }] {})
        scatteredExchange).station.source.report = scatteredExchange.station.source.report) ∧
    (scatteredLeft.station.source.report.listed .server .upload).map Verdict.id = ["a", "b", "c"] ∧
    scatteredLeft.station.source.report.listed .server .add = [finalAnswer "b", finalAnswer "a"] ∧
    scatteredLeft.station.source.report.listed .server .replace = [] ∧
    scatteredLeft.station.source.report.listed .server .delete = [finalAnswer "c"] := by
  have partly : (scatteredExchange.station.source.modeFor none).sendsAll ≠ true := by decide
  unfold scatteredLeft
  obtain ⟨accounts, passes⟩ := upload_accounts scatteredBegun_opens (by decide +kernel)
    (.inl (by decide +kernel)) fun everything => absurd everything partly
  refine ⟨⟨accounts, ?_⟩, ?_, ?_, ?_, ?_⟩
  · exact passes _ scatteredExchange {} { id := "x", code := StatusCode.deviceFull } (.inl rfl)
  · decide +kernel
  · decide +kernel
  · decide +kernel
  · decide +kernel

end Session

end Reconcile
