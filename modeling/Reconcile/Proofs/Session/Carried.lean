import Reconcile.Proofs.Session.Transcript
import Reconcile.Proofs.Source.Events

/-!
What exchanges carry on. An exchange does to its station what an open sync does, and hears the
replies of the link; a relation that holds across every elementary step holds across the exchange,
wherever it stops and whatever the link replies.
-/

namespace Reconcile

variable {P L α β : Type}

namespace ExchangeM

def Carries (relation : Station P → Station P → Prop) (operation : ExchangeM P L α) : Prop :=
  Keeps (fun before after => relation before.station after.station) operation

theorem leaves_onStation (operation : SourceM P α) (exchange : Exchange P L) :
    leaves (onStation operation) exchange =
      { exchange with station := leaves operation exchange.station } := by
  unfold leaves onStation
  cases operation exchange.station <;> rfl

theorem leaves_call (action : L → String → Reply (Except SyncFailure α) × L)
    (exchange : Exchange P L) :
    leaves (call action) exchange =
      let called := action exchange.link exchange.station.source.config.name
      { station := exchange.station.heard called.1.cancels, link := called.2 } := by
  rw [leaves, call_eq]
  dsimp only
  cases (action exchange.link exchange.station.source.config.name).1.value <;> rfl

/-! ### The parts of an exchange -/

section Parts

variable [Provider P]

def routeOne (verdict : Verdict) : Option Command → ExchangeM P L Unit
  | none => onStation (SourceM.note .unknownItem)
  | some command => onStation (SourceM.takeVerdict command verdict)

theorem route_cons (verdict : Verdict) (rest : List Verdict) (inFlight : InFlight) :
    (route (verdict :: rest) inFlight : ExchangeM P L InFlight) =
      routeOne verdict (inFlight.answer verdict).1 >>= fun _ =>
        route rest (inFlight.answer verdict).2 := by
  rw [route]
  dsimp only
  cases (inFlight.answer verdict).1 <;> rfl

variable [ServerLink L]

def sendOne (item : OutgoingItem) (inFlight : InFlight) : ExchangeM P L InFlight := do
  let verdicts ← call fun link source => ServerLink.send link source item
  onStation (SourceM.recordTransfer .server .upload item.key)
  route verdicts (inFlight.send item)

/-- Goes on after an item: the upload stops when the server is full, and else sends the next item
of the stream. -/
def sendNext (stream : ItemStream) (bound : Nat) (inFlight : InFlight) :
    ExchangeM P L (Option InFlight) := do
  if ← isServerFull then
    onStation (SourceM.note .uploadStopped)
    return none
  let following ← onStation (SourceM.next stream)
  sendFrom stream bound following inFlight

theorem sendFrom_succ (stream : ItemStream) (bound : Nat) (item : OutgoingItem)
    (inFlight : InFlight) :
    (sendFrom stream (bound + 1) (some item) inFlight : ExchangeM P L (Option InFlight)) =
    sendOne item inFlight >>= sendNext stream bound := by
  rw [sendFrom, sendOne]
  simp only [bind_assoc]
  rfl

theorem sendStream_eq (stream : ItemStream) (inFlight : InFlight) :
    (sendStream stream inFlight : ExchangeM P L (Option InFlight)) =
      onStation (SourceM.first stream) >>= fun item exchange =>
        sendFrom stream (exchange.station.source.remaining stream + 1) item inFlight exchange := rfl

def sendMore (streams : List ItemStream) : Option InFlight → ExchangeM P L (Option InFlight)
  | none => return none
  | some inFlight => sendStreams streams inFlight

theorem sendStreams_cons (stream : ItemStream) (rest : List ItemStream) (inFlight : InFlight) :
    (sendStreams (stream :: rest) inFlight : ExchangeM P L (Option InFlight)) =
      sendStream stream inFlight >>= sendMore rest := rfl

def closeUpload (inFlight : InFlight) : ExchangeM P L Unit := do
  if ← isServerFull then onStation (SourceM.note .serverFull)
  unless inFlight.commands.isEmpty do onStation (SourceM.note .unanswered)

def concludeUpload : Option InFlight → ExchangeM P L Unit
  | none => return
  | some inFlight => do
    let verdicts ← call ServerLink.conclude
    let inFlight ← route verdicts inFlight
    closeUpload inFlight

theorem upload_eq (mode : SyncMode) :
    (upload mode : ExchangeM P L Unit) =
      sendStreams (streamsOf mode) {} >>= concludeUpload := rfl

theorem exchange_eq {mode : SyncMode} (sends : mode.sends = true) :
    (ExchangeM.exchange mode : ExchangeM P L Unit) =
      upload mode >>= fun _ => if mode.receives then download else pure () := by
  cases mode <;> first | rfl | cases sends

theorem exchange_of_silent {mode : SyncMode} (silent : mode.sends = false) :
    (ExchangeM.exchange mode : ExchangeM P L Unit) =
      if mode.receives then download else pure () := by
  cases mode <;> first | rfl | cases silent

end Parts

end ExchangeM

/-! ### Relations that are carried on -/

namespace Operative

open ExchangeM

variable [Provider P] {relation : Station P → Station P → Prop} (operative : Operative relation)

include operative

theorem onward_station :
    Onward fun before after : Exchange P L => relation before.station after.station :=
  ⟨fun _ => operative.refl _, operative.trans⟩

theorem carries_bind {operation : ExchangeM P L α} {next : α → ExchangeM P L β}
    (first : Carries relation operation) (second : ∀ value, Carries relation (next value)) :
    Carries relation (operation >>= next) :=
  operative.onward_station.keeps_bind first second

theorem carries_pure (value : α) : Carries relation (pure value : ExchangeM P L α) :=
  operative.onward_station.keeps_pure value

omit [Provider P] operative in
theorem carries_onStation {operation : SourceM P α} (keeps : Keeps relation operation) :
    Carries relation (onStation operation : ExchangeM P L α) := by
  intro exchange
  rw [leaves_onStation]
  exact keeps exchange.station

theorem carries_note (notice : Notice) :
    Carries relation (onStation (SourceM.note notice) : ExchangeM P L Unit) :=
  carries_onStation (operative.noted notice)

theorem carries_isServerFull : Carries relation (isServerFull : ExchangeM P L Bool) :=
  fun exchange => operative.refl exchange.station

theorem carries_call (action : L → String → Reply (Except SyncFailure α) × L) :
    Carries relation (call action : ExchangeM P L α) := by
  intro exchange
  rw [leaves_call]
  exact operative.heard exchange.station _

theorem carries_closeUpload (inFlight : InFlight) :
    Carries relation (closeUpload inFlight : ExchangeM P L Unit) := by
  refine operative.carries_bind operative.carries_isServerFull fun full => ?_
  have closes : ∀ _ : PUnit, Carries relation (do
      unless inFlight.commands.isEmpty do onStation (SourceM.note .unanswered) :
        ExchangeM P L Unit) := by
    intro _
    split
    · exact operative.carries_pure _
    · exact operative.carries_note _
  cases full with
  | true => exact operative.carries_bind (operative.carries_note _) closes
  | false => exact closes ⟨⟩

theorem carries_route (verdicts : List Verdict) (inFlight : InFlight) :
    Carries relation (route verdicts inFlight : ExchangeM P L InFlight) := by
  induction verdicts generalizing inFlight with
  | nil => exact operative.carries_pure _
  | cons verdict rest ih =>
    rw [route_cons]
    refine operative.carries_bind ?_ fun _ => ih _
    cases (inFlight.answer verdict).1 with
    | none => exact operative.carries_note _
    | some command =>
      exact carries_onStation (operative.keeps_takeVerdict command verdict)

theorem carries_applyChange (change : ServerChange) :
    Keeps relation (applyChange change : SourceM P (Option StatusCode)) := by
  unfold applyChange
  dsimp only
  split
  · exact operative.keeps_bind (operative.keeps_applyAdd _ _) fun _ => operative.keeps_pure _
  · exact operative.keeps_bind (operative.keeps_applyReplace _ _) fun _ => operative.keeps_pure _
  · exact operative.keeps_bind (operative.keeps_applyDelete _) fun _ => operative.keeps_pure _
  · exact operative.keeps_bind (operative.noted _) fun _ => operative.keeps_pure _
  · exact operative.keeps_bind (operative.noted _) fun _ => operative.keeps_pure _

theorem carries_applyChanges (changes : List ServerChange) :
    Keeps relation (applyChanges changes : SourceM P (List Verdict)) := by
  induction changes with
  | nil => exact operative.keeps_pure _
  | cons change rest ih =>
    exact operative.keeps_bind operative.keeps_poll fun _ =>
      operative.keeps_bind (operative.transferred _ _ _) fun _ =>
      operative.keeps_bind (operative.carries_applyChange change) fun _ =>
      operative.keeps_bind ih fun _ => operative.keeps_pure _

variable [ServerLink L]

theorem carries_sendOne (item : OutgoingItem) (inFlight : InFlight) :
    Carries relation (sendOne item inFlight : ExchangeM P L InFlight) :=
  operative.carries_bind (operative.carries_call _) fun _ =>
    operative.carries_bind (carries_onStation (operative.transferred _ _ _))
      fun _ => operative.carries_route _ _

theorem carries_sendNext (stream : ItemStream) {bound : Nat} (inFlight : InFlight)
    (sends : ∀ item inFlight,
      Carries relation (sendFrom stream bound item inFlight : ExchangeM P L (Option InFlight))) :
    Carries relation (sendNext stream bound inFlight : ExchangeM P L (Option InFlight)) := by
  refine operative.carries_bind operative.carries_isServerFull fun full => ?_
  cases full with
  | true => exact operative.carries_bind (operative.carries_note _) fun _ => operative.carries_pure _
  | false =>
    exact operative.carries_bind (carries_onStation (operative.keeps_next stream))
      fun following => sends following inFlight

theorem carries_sendFrom (stream : ItemStream) (bound : Nat) (item : Option OutgoingItem)
    (inFlight : InFlight) :
    Carries relation (sendFrom stream bound item inFlight : ExchangeM P L (Option InFlight)) := by
  induction bound generalizing item inFlight with
  | zero =>
    cases item
    · exact operative.carries_pure _
    · exact operative.carries_pure _
  | succ bound ih =>
    cases item with
    | none => exact operative.carries_pure _
    | some item =>
      rw [sendFrom_succ]
      exact operative.carries_bind (operative.carries_sendOne item inFlight)
        fun inFlight => operative.carries_sendNext stream inFlight ih

theorem carries_sendStream (stream : ItemStream) (inFlight : InFlight) :
    Carries relation (sendStream stream inFlight : ExchangeM P L (Option InFlight)) := by
  rw [sendStream_eq]
  refine operative.carries_bind (carries_onStation (operative.keeps_first stream))
    fun item exchange => ?_
  exact operative.carries_sendFrom stream (exchange.station.source.remaining stream + 1) item
    inFlight exchange

theorem carries_sendStreams (streams : List ItemStream) (inFlight : InFlight) :
    Carries relation (sendStreams streams inFlight : ExchangeM P L (Option InFlight)) := by
  induction streams generalizing inFlight with
  | nil => exact operative.carries_pure _
  | cons stream rest ih =>
    rw [sendStreams_cons]
    refine operative.carries_bind (operative.carries_sendStream stream inFlight) fun left => ?_
    cases left with
    | none => exact operative.carries_pure _
    | some inFlight => exact ih inFlight

theorem carries_sendMore (streams : List ItemStream) (result : Option InFlight) :
    Carries relation (sendMore streams result : ExchangeM P L (Option InFlight)) := by
  cases result with
  | none => exact operative.carries_pure _
  | some inFlight => exact operative.carries_sendStreams streams inFlight

theorem carries_concludeUpload (result : Option InFlight) :
    Carries relation (concludeUpload result : ExchangeM P L Unit) := by
  cases result with
  | none => exact operative.carries_pure _
  | some inFlight =>
    exact operative.carries_bind (operative.carries_call _) fun _ =>
      operative.carries_bind (operative.carries_route _ _) fun _ =>
      operative.carries_closeUpload _

theorem carries_upload (mode : SyncMode) :
    Carries relation (upload mode : ExchangeM P L Unit) := by
  rw [upload_eq]
  exact operative.carries_bind (operative.carries_sendStreams _ _) operative.carries_concludeUpload

theorem carries_download : Carries relation (download : ExchangeM P L Unit) :=
  operative.carries_bind (operative.carries_call _) fun changes =>
    operative.carries_bind (carries_onStation (operative.carries_applyChanges changes))
      fun _ => operative.carries_call _

theorem carries_afterUpload (mode : SyncMode) :
    Carries relation (if mode.receives then download else pure () : ExchangeM P L Unit) := by
  split
  · exact operative.carries_download
  · exact operative.carries_pure _

theorem carries_exchange (mode : SyncMode) :
    Carries relation (ExchangeM.exchange mode : ExchangeM P L Unit) := by
  cases sends : mode.sends with
  | true =>
    rw [exchange_eq sends]
    exact operative.carries_bind (operative.carries_upload mode) fun _ =>
      operative.carries_afterUpload mode
  | false =>
    rw [exchange_of_silent sends]
    exact operative.carries_afterUpload mode

end Operative

end Reconcile
