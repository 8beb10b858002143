import Reconcile.Report
import Reconcile.Session.Exchange
import Reconcile.Source.Bracket

/-!
Sessions: one sync over any number of sources, with one stop flag for all of them and one report.
-/

namespace Reconcile

structure Session where
  flag : StopFlag
  report : SessionReport := {}
  deriving DecidableEq, Inhabited

structure SessionRun (P L : Type) where
  outcome : Except SyncFailure Unit
  session : Session
  exchange : Exchange P L

namespace Session

def make (host : Host) : Session × Host :=
  let (flag, host) := host.freshFlag
  ({ flag }, host)

def publish {P : Type} (session : Session) (source : Source P) : Session :=
  { session with report := session.report.push source.report }

/-- Takes notice of how an exchange failed: a failure of the protocol raises the flag, and
whatever is no cancellation becomes the last error. -/
def noteFailure {P : Type} (session : Session) (error : SyncFailure) (station : Station P) :
    Session × Station P :=
  let station :=
    match error with
    | .protocol _ => { station with host := station.host.raise session.flag }
    | _ => station
  if error = .cancelled then (session, station)
  else
    ({ session with report := session.report.recordFault StatusCode.failed error.message },
      station)

variable {P L : Type} [Provider P] [ServerLink L]

/-- Ends the sync of a source and stores its report. The failure of the exchange, if there was
one, counts before that of the end. -/
def finish (session : Session) (exchanged : Except SyncFailure Unit) (exchange : Exchange P L) :
    SessionRun P L :=
  let close (ended : Except SyncFailure Unit) (station : Station P) : SessionRun P L :=
    { outcome := exchanged.bind fun _ => ended
      session := session.publish station.source
      exchange := { exchange with station } }
  match SourceM.finish exchange.station with
  | .ok () station => close (.ok ()) station
  | .error error station => close (.error error) station

def continueRun (session : Session) (mode : SyncMode) (exchange : Exchange P L) :
    SessionRun P L :=
  match ExchangeM.exchange mode exchange with
  | .ok () exchange => session.finish (.ok ()) exchange
  | .error error exchange =>
    let (session, station) := session.noteFailure error exchange.station
    session.finish (.error error) { exchange with station }

/-- Syncs one source, in the given mode or the one it prefers. Its report is stored whatever the
outcome. A failure of the protocol stops the session, so that nothing is made durable for this
source and no other one runs. -/
def sync (session : Session) (mode : Option SyncMode) (exchange : Exchange P L) :
    SessionRun P L :=
  let station := exchange.station
  if !station.source.config.enabled then { outcome := .ok (), session, exchange }
  else if station.host.isRaised session.flag then
    { outcome := .error .cancelled, session, exchange }
  else
    let mode := mode.getD station.source.config.preferredMode
    match SourceM.start mode
        { station with source := station.source.shareFlag session.flag } with
    | .error error station =>
      { outcome := .error error
        session := session.publish station.source
        exchange := { exchange with station } }
    | .ok () station => session.continueRun mode { exchange with station }

end Session

end Reconcile
