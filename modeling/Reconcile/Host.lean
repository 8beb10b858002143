import Reconcile.Disk.Basic

/-!
The host: what sources and sessions share beyond themselves. Whoever holds the name of a stop flag
can raise it; every loop over items polls one between its steps. Notices are what a sync writes to
the log at the levels of warnings and errors.
-/

namespace Reconcile

/-- The name of a stop flag. Copies of a name stand for one flag. -/
structure StopFlag where
  number : Nat
  deriving DecidableEq, Inhabited

structure FlagBoard where
  raised : List Nat := []
  next : Nat := 0
  deriving DecidableEq, Inhabited

namespace FlagBoard

def isRaised (board : FlagBoard) (flag : StopFlag) : Bool := board.raised.contains flag.number

def raise (board : FlagBoard) (flag : StopFlag) : FlagBoard :=
  if board.isRaised flag then board else { board with raised := flag.number :: board.raised }

def lower (board : FlagBoard) (flag : StopFlag) : FlagBoard :=
  { board with raised := board.raised.filter fun number => number != flag.number }

def fresh (board : FlagBoard) : StopFlag × FlagBoard :=
  (⟨board.next⟩, { board.lower ⟨board.next⟩ with next := board.next + 1 })

theorem number_eq_iff {flag other : StopFlag} : flag.number = other.number ↔ flag = other := by
  cases flag
  cases other
  simp

@[simp] theorem isRaised_raise (board : FlagBoard) (flag other : StopFlag) :
    (board.raise flag).isRaised other = (board.isRaised other || decide (other = flag)) := by
  rw [raise]
  by_cases same : other = flag
  · subst same
    split
    · rename_i raised
      rw [raised, Bool.true_or]
    · simp [isRaised]
  · split
    · simp [same]
    · simp [isRaised, number_eq_iff, same]

@[simp] theorem isRaised_lower (board : FlagBoard) (flag other : StopFlag) :
    (board.lower flag).isRaised other = (board.isRaised other && decide (other ≠ flag)) := by
  rw [Bool.eq_iff_iff]
  simp [isRaised, lower, number_eq_iff]

theorem isRaised_fresh (board : FlagBoard) : board.fresh.2.isRaised board.fresh.1 = false := by
  show (board.lower ⟨board.next⟩).isRaised ⟨board.next⟩ = false
  simp

end FlagBoard

inductive Notice where
  | cannotOpenCache
  | cannotStart
  | malformedLine
  | longKey
  | unreadableSignature
  | repeatedKey
  | skippedItem
  | chunkAccepted
  | vanishedItem
  | localFailure
  | fault
  | untracked
  | unknownItem
  | uploadStopped
  | serverFull
  | unanswered
  | unsupportedCommand
  deriving DecidableEq, Inhabited

namespace Notice

def level : Notice → String
  | cannotOpenCache | cannotStart => "ERROR"
  | _ => "WARN"

def message : Notice → String
  | cannotOpenCache => "cannot open item cache"
  | cannotStart => "cannot start sync"
  | malformedLine => "skipping malformed property line"
  | longKey => "item key exceeds length limit"
  | unreadableSignature => "cannot read item, treating as changed"
  | repeatedKey => "provider enumerated a key twice, ignoring repeat"
  | skippedItem => "skipping unreadable item"
  | chunkAccepted => "chunk accepted, waiting for final status"
  | vanishedItem => "item vanished before caching, cache untouched"
  | localFailure => "cannot apply server change"
  | fault => "source error"
  | untracked => "no report bucket, item ignored"
  | unknownItem => "status for unknown item"
  | uploadStopped => "server quota exceeded, upload stopped"
  | serverFull => "server quota exceeded"
  | unanswered => "no final status for some items"
  | unsupportedCommand => "unsupported server command"

def line (notice : Notice) : String := notice.level ++ " " ++ notice.message

end Notice

/-- The disk, the stop flags and the log, latest notice first. -/
structure Host where
  disk : Disk := {}
  flags : FlagBoard := {}
  log : List Notice := []
  deriving Inhabited

namespace Host

def note (host : Host) (notice : Notice) : Host := { host with log := notice :: host.log }

def lines (host : Host) : List String := (host.log.map Notice.line).reverse

def raise (host : Host) (flag : StopFlag) : Host := { host with flags := host.flags.raise flag }

def lower (host : Host) (flag : StopFlag) : Host := { host with flags := host.flags.lower flag }

def isRaised (host : Host) (flag : StopFlag) : Bool := host.flags.isRaised flag

def freshFlag (host : Host) : StopFlag × Host :=
  let (flag, flags) := host.flags.fresh
  (flag, { host with flags })

end Host

end Reconcile
