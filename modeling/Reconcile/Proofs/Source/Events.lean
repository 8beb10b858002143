import Reconcile.Proofs.Source.Cursors
import Reconcile.Proofs.Source.Elementary

/-!
What happens to a source in the course of its syncs: its operations, the transfers and notices that a
session records, and what its owner does to its items and its flag in between.
-/

namespace Reconcile

variable {P : Type}

inductive Event (P : Type) where
  | act (operation : Operation)
  | transfer (side : Side) (command : Command) (key : String)
  | note (notice : Notice)
  /-- The items are changed by someone else. -/
  | edit (change : P → P)
  /-- Flags are raised or lowered. -/
  | signal (change : FlagBoard → FlagBoard)
  | share (flag : StopFlag)

namespace Operation

def goesOn : Operation → Bool
  | start _ | finish => false
  | _ => true

/-- The parts that an operation between the two ends of a sync may write. -/
def parts : Operation → List Part
  | start _ | finish => [.provider, .cache, .report, .streaming, .disk]
  | first .full => [.cache, .streaming]
  | first (.bucket _) | next _ => [.streaming]
  | verdict .. => [.cache, .report]
  | add .. | replace .. | delete _ => [.provider, .cache, .report]
  | probe => []

theorem stays_discard {α : Type} {parts : List Part} {operation : SourceM P α}
    (stays : Stays parts operation) : Stays parts (discard operation : SourceM P Unit) := by
  intro station
  rw [leaves_discard]
  exact stays station

theorem stays_act [Provider P] {operation : Operation} (goesOn : operation.goesOn = true) :
    Stays operation.parts (operation.act : SourceM P Unit) := by
  cases operation with
  | start mode => cases goesOn
  | finish => cases goesOn
  | first stream =>
    cases stream with
    | full => exact stays_discard (SourceM.stays_startEnumeration (by simp [parts]) (by simp [parts]))
    | bucket bucket => exact stays_discard (SourceM.stays_firstChange (by simp [parts]) bucket)
  | next stream => exact stays_discard (SourceM.stays_next (by simp [parts]) stream)
  | verdict command answer =>
    exact SourceM.stays_takeVerdict (by simp [parts]) (by simp [parts]) command answer
  | add serverId content =>
    exact stays_discard
      (SourceM.stays_applyAdd (by simp [parts]) (by simp [parts]) (by simp [parts]) serverId content)
  | replace key content =>
    exact stays_discard
      (SourceM.stays_changeItem (by simp [parts]) (by simp [parts]) (by simp [parts]) _ _ _ _ _)
  | delete key =>
    exact stays_discard
      (SourceM.stays_changeItem (by simp [parts]) (by simp [parts]) (by simp [parts]) _ _ _ _ _)
  | probe => exact stays_discard SourceM.stays_isModified

end Operation

namespace Event

def goesOn : Event P → Bool
  | act operation => operation.goesOn
  | _ => true

def isFlagless : Event P → Bool
  | signal _ | share _ => false
  | _ => true

def stream? : Event P → Option (ItemStream × Bool)
  | act (.first stream) => some (stream, true)
  | act (.next stream) => some (stream, false)
  | _ => none

variable [Provider P]

def after : Event P → Station P → Station P
  | act operation, station => leaves operation.act station
  | transfer side command key, station => leaves (SourceM.recordTransfer side command key) station
  | note notice, station => station.noted notice
  | edit change, station =>
    { station with source := { station.source with provider := change station.source.provider } }
  | signal change, station =>
    { station with host := { station.host with flags := change station.host.flags } }
  | share flag, station => { station with source := station.source.shareFlag flag }

def runAll (events : List (Event P)) (station : Station P) : Station P :=
  events.foldl (fun station event => event.after station) station

theorem runAll_append (early later : List (Event P)) (station : Station P) :
    runAll (early ++ later) station = runAll later (runAll early station) := List.foldl_append

theorem keeps_runAll {relation : Station P → Station P → Prop} (onward : Onward relation)
    {events : List (Event P)}
    (step : ∀ event ∈ events, ∀ station, relation station (event.after station))
    (station : Station P) : relation station (runAll events station) := by
  induction events generalizing station with
  | nil => exact onward.refl station
  | cons event rest ih =>
    exact onward.trans (step event List.mem_cons_self station)
      (ih (fun later member => step later (List.mem_cons_of_mem _ member)) (event.after station))

theorem after_of_stream {event : Event P} {stream : ItemStream} {restarts : Bool}
    (calls : event.stream? = some (stream, restarts)) (station : Station P) :
    event.after station = leaves (SourceM.ask stream restarts) station := by
  cases event with
  | act operation =>
    cases operation with
    | first other => cases calls; exact Operation.leaves_discard _ _
    | next other => cases calls; exact Operation.leaves_discard _ _
    | _ => cases calls
  | _ => cases calls

theorem streaming_after {event : Event P} (goesOn : event.goesOn = true)
    (still : event.stream? = none) (station : Station P) :
    (event.after station).source.streaming = station.source.streaming := by
  cases event with
  | act operation =>
    have stays : Stays (P := P) operation.parts operation.act := Operation.stays_act goesOn
    refine (stays station).streaming ?_
    cases operation with
    | start mode => cases goesOn
    | finish => cases goesOn
    | first stream => cases still
    | next stream => cases still
    | _ => simp [Operation.parts]
  | transfer side command key =>
    have stays : Stays (P := P) [.report] (SourceM.recordTransfer side command key) :=
      SourceM.stays_recordTransfer (by simp) side command key
    exact (stays station).streaming (by simp)
  | note notice => rfl
  | edit change => rfl
  | signal change => rfl
  | share flag => rfl

theorem keeps_after {relation : Station P → Station P → Prop} (elementary : Elementary relation)
    {event : Event P} (goesOn : event.goesOn = true) (flagless : event.isFlagless = true)
    (station : Station P) : relation station (event.after station) := by
  cases event with
  | act operation =>
    refine elementary.keeps_act (fun mode same => ?_) (fun same => ?_) station
    · rw [same] at goesOn
      cases goesOn
    · rw [same] at goesOn
      cases goesOn
  | transfer side command key => exact elementary.keeps_recordTransfer side command key station
  | note notice => exact elementary.keeps_note notice station
  | edit change =>
    exact elementary.aside { Within.refl station with provider := fun kept => absurd (by simp) kept }
  | signal change => cases flagless
  | share flag => cases flagless

end Event

/-! ### In the course of a sync -/

/-- A relation that holds across whatever a session does with a source in an open sync. -/
structure Operative [Provider P] (relation : Station P → Station P → Prop) : Prop
    extends Onward relation where
  acted : ∀ {operation : Operation}, operation.goesOn = true → Keeps relation operation.act
  transferred : ∀ side command key, Keeps relation (SourceM.recordTransfer side command key)
  noted : ∀ notice, Keeps relation (SourceM.note notice)
  heard : ∀ station cancels, relation station (station.heard cancels)

theorem Elementary.operative [Provider P] {relation : Station P → Station P → Prop}
    (elementary : Elementary relation) : Operative relation where
  toOnward := elementary.toOnward
  acted {operation} goesOn station :=
    @Event.keeps_after P _ _ elementary (.act operation) goesOn rfl station
  transferred := elementary.keeps_recordTransfer
  noted := elementary.keeps_note
  heard station cancels := elementary.aside ((station.within_heard cancels).mono (by simp))

theorem Operation.keeps_of_discard {α : Type} {relation : Station P → Station P → Prop}
    {operation : SourceM P α} (keeps : Keeps relation (discard operation : SourceM P Unit)) :
    Keeps relation operation := by
  intro station
  have kept := keeps station
  rwa [Operation.leaves_discard] at kept

namespace Operative

variable [Provider P] {relation : Station P → Station P → Prop} (operative : Operative relation)

include operative

theorem keeps_poll : Keeps relation (SourceM.poll : SourceM P Unit) := by
  intro station
  by_cases calm : station.Calm
  · rw [leaves_of_ok (SourceM.poll_of_calm calm)]
    exact operative.refl station
  · rw [leaves_of_error (SourceM.poll_of_stopped calm)]
    exact operative.refl station

theorem keeps_takeVerdict (command : Command) (verdict : Verdict) :
    Keeps relation (SourceM.takeVerdict command verdict : SourceM P Unit) :=
  @Operative.acted P _ _ operative (.verdict command verdict) rfl

theorem keeps_first (stream : ItemStream) : Keeps relation (SourceM.first stream : SourceM P _) :=
  Operation.keeps_of_discard (@Operative.acted P _ _ operative (.first stream) rfl)

theorem keeps_next (stream : ItemStream) : Keeps relation (SourceM.next stream : SourceM P _) :=
  Operation.keeps_of_discard (@Operative.acted P _ _ operative (.next stream) rfl)

theorem keeps_applyAdd (serverId : String) (content : Bytes) :
    Keeps relation (SourceM.applyAdd serverId content : SourceM P StatusCode) :=
  Operation.keeps_of_discard (@Operative.acted P _ _ operative (.add serverId content) rfl)

theorem keeps_applyReplace (key : String) (content : Bytes) :
    Keeps relation (SourceM.applyReplace key content : SourceM P StatusCode) :=
  Operation.keeps_of_discard (@Operative.acted P _ _ operative (.replace key content) rfl)

theorem keeps_applyDelete (key : String) :
    Keeps relation (SourceM.applyDelete key : SourceM P StatusCode) :=
  Operation.keeps_of_discard (@Operative.acted P _ _ operative (.delete key) rfl)

end Operative

end Reconcile
