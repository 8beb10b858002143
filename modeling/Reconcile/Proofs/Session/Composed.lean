import Reconcile.Proofs.Session.Carried

/-!
What exchanges are made of: operations on the source and calls of the link, one after the other. A
property that these have and that sequences keep is one of every exchange.
-/

namespace Reconcile.ExchangeM

variable {P L : Type} [Provider P] [ServerLink L]

/-- The operations on a source that exchanges are made of. -/
inductive StationStep : ∀ {α : Type}, SourceM P α → Prop
  | note (notice : Notice) : StationStep (SourceM.note notice)
  | transfer (key : String) : StationStep (SourceM.recordTransfer .server .upload key)
  | verdict (command : Command) (verdict : Verdict) : StationStep (SourceM.takeVerdict command verdict)
  | first (stream : ItemStream) : StationStep (SourceM.first stream)
  | next (stream : ItemStream) : StationStep (SourceM.next stream)
  | changes (changes : List ServerChange) : StationStep (applyChanges changes)

/-- A property of these operations and of all calls of the link, which sequences keep. -/
structure Compositional (holds : ∀ {α : Type}, ExchangeM P L α → Prop) : Prop where
  pure : ∀ {α : Type} (value : α), holds (pure value)
  bind : ∀ {α β : Type} {operation : ExchangeM P L α} {next : α → ExchangeM P L β},
    holds operation → (∀ value, holds (next value)) → holds (operation >>= next)
  /-- What an operation goes on with may depend on the state that it finds. -/
  reads : ∀ {α : Type} {operation : Exchange P L → ExchangeM P L α},
    (∀ present, holds (operation present)) → holds fun exchange => operation exchange exchange
  onStation : ∀ {α : Type} {operation : SourceM P α}, StationStep operation →
    holds (onStation operation)
  send : ∀ item, holds (call fun link source => ServerLink.send link source item)
  conclude : holds (call ServerLink.conclude)
  fetch : holds (call ServerLink.fetch)
  answer : ∀ verdicts, holds (call fun link source => ServerLink.answer link source verdicts)

namespace Compositional

variable {holds : ∀ {α : Type}, ExchangeM P L α → Prop} (compositional : Compositional holds)

include compositional

theorem isServerFull : holds (isServerFull : ExchangeM P L Bool) := by
  have looks : (ExchangeM.isServerFull : ExchangeM P L Bool) = fun exchange =>
    (Pure.pure (exchange.station.source.report.isFull .server) : ExchangeM P L Bool) exchange := rfl
  rw [looks]
  exact compositional.reads fun present => compositional.pure _

theorem route (verdicts : List Verdict) (inFlight : InFlight) :
    holds (route verdicts inFlight : ExchangeM P L InFlight) := by
  induction verdicts generalizing inFlight with
  | nil => exact compositional.pure _
  | cons verdict rest ih =>
    rw [route_cons]
    refine compositional.bind ?_ fun _ => ih _
    cases (inFlight.answer verdict).1 with
    | none =>
      rw [routeOne]
      exact compositional.onStation (.note _)
    | some command =>
      rw [routeOne]
      exact compositional.onStation (.verdict command verdict)

theorem sendOne (item : OutgoingItem) (inFlight : InFlight) :
    holds (sendOne item inFlight : ExchangeM P L InFlight) :=
  compositional.bind (compositional.send item) fun _ =>
    compositional.bind (compositional.onStation (.transfer item.key)) fun _ =>
      compositional.route _ _

theorem sendFrom (stream : ItemStream) (bound : Nat) (item : Option OutgoingItem)
    (inFlight : InFlight) :
    holds (sendFrom stream bound item inFlight : ExchangeM P L (Option InFlight)) := by
  induction bound generalizing item inFlight with
  | zero =>
    cases item
    · exact compositional.pure _
    · exact compositional.pure _
  | succ bound ih =>
    cases item with
    | none => exact compositional.pure _
    | some item =>
      rw [sendFrom_succ]
      refine compositional.bind (compositional.sendOne item inFlight) fun inFlight =>
        compositional.bind compositional.isServerFull fun full => ?_
      cases full with
      | true =>
        exact compositional.bind (compositional.onStation (.note _)) fun _ => compositional.pure _
      | false =>
        exact compositional.bind (compositional.onStation (.next stream)) fun following =>
          ih following inFlight

theorem sendStream (stream : ItemStream) (inFlight : InFlight) :
    holds (sendStream stream inFlight : ExchangeM P L (Option InFlight)) := by
  rw [sendStream_eq]
  exact compositional.bind (compositional.onStation (.first stream)) fun item =>
    compositional.reads fun present =>
      compositional.sendFrom stream (present.station.source.remaining stream + 1) item inFlight

theorem sendStreams (streams : List ItemStream) (inFlight : InFlight) :
    holds (sendStreams streams inFlight : ExchangeM P L (Option InFlight)) := by
  induction streams generalizing inFlight with
  | nil => exact compositional.pure _
  | cons stream rest ih =>
    rw [sendStreams_cons]
    refine compositional.bind (compositional.sendStream stream inFlight) fun left => ?_
    cases left with
    | none => exact compositional.pure _
    | some inFlight => exact ih inFlight

theorem closeUpload (inFlight : InFlight) :
    holds (closeUpload inFlight : ExchangeM P L Unit) := by
  refine compositional.bind compositional.isServerFull fun full => ?_
  have closes : ∀ _ : PUnit, holds (do
      unless inFlight.commands.isEmpty do ExchangeM.onStation (SourceM.note .unanswered) :
        ExchangeM P L Unit) := by
    intro _
    split
    · exact compositional.pure _
    · exact compositional.onStation (.note _)
  cases full with
  | true => exact compositional.bind (compositional.onStation (.note _)) closes
  | false => exact closes ⟨⟩

theorem upload (mode : SyncMode) : holds (upload mode : ExchangeM P L Unit) := by
  rw [upload_eq]
  refine compositional.bind (compositional.sendStreams _ _) fun left => ?_
  cases left with
  | none => exact compositional.pure _
  | some inFlight =>
    exact compositional.bind compositional.conclude fun _ =>
      compositional.bind (compositional.route _ _) fun _ => compositional.closeUpload _

theorem download : holds (download : ExchangeM P L Unit) :=
  compositional.bind compositional.fetch fun changes =>
    compositional.bind (compositional.onStation (.changes changes)) fun _ => compositional.answer _

theorem exchange (mode : SyncMode) : holds (exchange mode : ExchangeM P L Unit) := by
  have downloads : holds (if mode.receives then ExchangeM.download else Pure.pure () :
      ExchangeM P L Unit) := by
    split
    · exact compositional.download
    · exact compositional.pure _
  cases sends : mode.sends with
  | true =>
    rw [exchange_eq sends]
    exact compositional.bind (compositional.upload mode) fun _ => downloads
  | false =>
    rw [exchange_of_silent sends]
    exact downloads

end Compositional

end Reconcile.ExchangeM
