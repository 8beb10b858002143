import Reconcile.Proofs.Session.Calls
import Reconcile.Proofs.Session.Ledger

/-!
The books of an upload. The ledger that follows from the calls of the link is what the source has
in its cache and its report.
-/

namespace Reconcile

variable {P L : Type} [Provider P] {base : List (String × Signature)}

/-- A source in an open sync that stands as a ledger says. Keys that are not among the `base`
entries were signed quietly. -/
structure Station.Books (station : Station P) (base : List (String × Signature)) (ledger : Ledger) :
    Prop where
  report : station.source.report = ledger.report station.source.config
  cached : ∃ cache, station.source.cache = .ok cache ∧ cache.snapshot = ledger.entries
  quiet : SourceM.SignsQuietly station.source.provider base ledger.entries

section Steps

variable {parts : List Part} {station left : Station P} {ledger : Ledger}

theorem Station.Books.begun (books : station.Books base ledger) :
    station.source.report.standing ≠ .resting := by
  rw [books.report]
  exact ledger.standing_report _

theorem Station.Books.full (books : station.Books base ledger) :
    station.source.report.isFull .server = ledger.full := by
  rw [books.report]
  exact ledger.isFull_report _

theorem Station.Books.caches (books : station.Books base ledger) : station.Caches ledger.entries :=
  ⟨books.begun, books.cached⟩

theorem Within.terms (within : Within parts station left) (provider : .provider ∉ parts) :
    left.terms = station.terms := by
  rw [Station.terms, Station.terms, within.config, within.provider provider]

end Steps

namespace Exchange

variable {exchange left : Exchange P (Recorded L)} {origin : Station P}

omit [Provider P] in
/-- The ledger that follows from the record of the link, if the cache began with the given
entries. -/
def ledger (exchange : Exchange P (Recorded L)) (terms : Terms) (base : List (String × Signature)) :
    Ledger :=
  Ledger.run terms { entries := base } (uploadSteps exchange.link.events)

def sent (exchange : Exchange P (Recorded L)) : List OutgoingItem :=
  sentItems (uploadSteps exchange.link.events)

omit [Provider P] in
def fetched (exchange : Exchange P (Recorded L)) : List ServerChange :=
  fetchedChanges exchange.link.events

/-- The source of an upload that began on `origin` is as the record of the link says. -/
structure Tracks (exchange : Exchange P (Recorded L)) (origin : Station P)
    (base : List (String × Signature)) : Prop where
  within : Within [.cache, .report, .streaming] origin exchange.station
  books : exchange.station.Books base (exchange.ledger origin.terms base)
  unfetched : exchange.fetched = []

/-- An upload that began on `origin` was cut short by a call that failed, with the cache as the
record of the link says. -/
structure Breaks (exchange : Exchange P (Recorded L)) (origin : Station P)
    (base : List (String × Signature)) : Prop where
  within : Within [.cache, .report, .streaming] origin exchange.station
  caches : exchange.station.Caches (exchange.ledger origin.terms base).entries
  broken : exchange.Broken
  unfetched : exchange.fetched = []

omit [Provider P] in
theorem sent_add {event : LinkEvent} (events : left.link.events = exchange.link.events ++ [event]) :
    left.sent = exchange.sent ++ sentItems event.steps := by
  rw [sent, events, uploadSteps, List.flatMap_append, sentItems_append]
  simp [sent, uploadSteps]

omit [Provider P] in
theorem fetched_add {event : LinkEvent}
    (events : left.link.events = exchange.link.events ++ [event]) :
    left.fetched = exchange.fetched ++ event.changes := by
  rw [fetched, events, fetchedChanges, List.flatMap_append]
  simp [fetched, fetchedChanges]

end Exchange

end Reconcile
