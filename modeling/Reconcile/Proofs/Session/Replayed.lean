import Reconcile.Proofs.Session.Opened
import Reconcile.Proofs.Source.Events

/-!
Syncs as runs of events. Whatever a session does with a source, and whatever its link replies, the
source goes through operations, records, and raised flags, one after the other, so that what holds over
every run of events holds over every sync, however many of them there are.
-/

namespace Reconcile

variable {P L : Type} [Provider P]

def Replays (before after : Station P) : Prop := ∃ events, after = Event.runAll events before

namespace Replays

theorem of_event (event : Event P) {before after : Station P} (same : event.after before = after) :
    Replays before after := ⟨[event], same.symm⟩

theorem refl (station : Station P) : Replays station station := ⟨[], rfl⟩

theorem trans {before between after : Station P} (first : Replays before between)
    (second : Replays between after) : Replays before after := by
  obtain ⟨early, rfl⟩ := first
  obtain ⟨late, rfl⟩ := second
  exact ⟨early ++ late, (Event.runAll_append early late before).symm⟩

theorem operative : Operative (Replays (P := P)) where
  refl := refl
  trans := trans
  acted {operation} _ station := .of_event (.act operation) rfl
  transferred side command key station := .of_event (.transfer side command key) rfl
  noted notice station := .of_event (.note notice) rfl
  heard station cancels :=
    .of_event (.signal fun flags => if cancels then flags.raise station.source.flag else flags) (by
      cases cancels <;> rfl)

end Replays

namespace Session

theorem replays_noteFailure (session : Session) (error : SyncFailure) (station : Station P) :
    Replays station (session.noteFailure error station).2 := by
  cases error with
  | protocol reason => exact .of_event (.signal fun flags => flags.raise session.flag) rfl
  | cancelled => exact .refl station
  | _ => exact .refl station

variable [ServerLink L] (session : Session)

theorem replays_continueRun (mode : SyncMode) (exchange : Exchange P L) :
    Replays exchange.station (session.continueRun mode exchange).exchange.station := by
  have carried := Replays.operative.carries_exchange mode exchange
  cases ran : ExchangeM.exchange mode exchange with
  | ok value left =>
    rw [leaves_of_ok ran] at carried
    rw [continueRun, ran, (session.finish_eq (.ok ()) left).1]
    exact carried.trans (.of_event (.act .finish) rfl)
  | error error left =>
    rw [leaves_of_error ran] at carried
    have noted := session.replays_noteFailure error left.station
    rw [continueRun, ran]
    dsimp only
    generalize session.noteFailure error left.station = failed at noted
    obtain ⟨after, station⟩ := failed
    show Replays _ (after.finish (.error error) { left with station }).exchange.station
    rw [(after.finish_eq (.error error) { left with station }).1]
    exact (carried.trans noted).trans (.of_event (.act .finish) rfl)

theorem replays_sync (mode : Option SyncMode) (exchange : Exchange P L) :
    Replays exchange.station (session.sync mode exchange).exchange.station := by
  unfold sync
  dsimp only
  split
  · exact .refl _
  · split
    · exact .refl _
    · have starts : ∀ mode, Replays exchange.station (leaves (SourceM.start mode)
          { exchange.station with source := exchange.station.source.shareFlag session.flag }) :=
        fun mode => ⟨[.share session.flag, .act (.start mode)], rfl⟩
      split
      · rename_i station refused
        rw [← leaves_of_error refused]
        exact starts _
      · rename_i station begins
        have began := starts (mode.getD exchange.station.source.config.preferredMode)
        rw [leaves_of_ok begins] at began
        exact began.trans (session.replays_continueRun _ { exchange with station })

end Session

end Reconcile
