import Reconcile.Disk.Path
import Reconcile.Item.Code
import Reconcile.Text.Quoted

/-!
Failures of the disk, of stores, of providers and of syncs, and the wording of each.
-/

namespace Reconcile

inductive DiskError where
  | noEntry
  | alreadyExists
  | notDirectory
  | isDirectory
  | nameTooLong
  /-- A path that holds the character zero is never handed to the system. -/
  | zeroInPath
  | notText
  | system (number : Nat)
  deriving DecidableEq, Inhabited

def DiskError.number? : DiskError → Option Nat
  | noEntry => some 2
  | alreadyExists => some 17
  | notDirectory => some 20
  | isDirectory => some 21
  | nameTooLong => some 36
  | zeroInPath => none
  | notText => none
  | system number => some number

def DiskError.message (error : DiskError) : String :=
  match error.number? with
  | some number => "os error " ++ number.repr
  | none =>
    match error with
    | notText => "invalid utf-8"
    | _ => "file name contained an unexpected NUL byte"

inductive StoreError where
  /-- The name would not stay a single file name inside a path. -/
  | invalidName (name : String)
  | cannotOpen (path : Path) (cause : DiskError)
  | cannotFlush (path : Path) (cause : DiskError)
  | rejected (reason : String)
  deriving DecidableEq, Inhabited

def StoreError.message : StoreError → String
  | invalidName name => "invalid store name " ++ Text.quoted name
  | cannotOpen path cause => "cannot open store at " ++ path.text ++ ": " ++ cause.message
  | cannotFlush path cause => "cannot flush store to " ++ path.text ++ ": " ++ cause.message
  | rejected reason => "flush rejected: " ++ reason

inductive Refusal where
  /-- The item vanished between its enumeration and the call. -/
  | notFound (key : String)
  | deviceFull
  | failed (reason : String)
  deriving DecidableEq, Inhabited

def Refusal.message : Refusal → String
  | notFound key => "item not found: " ++ key
  | deviceFull => "device full"
  | failed reason => reason

inductive SyncFailure where
  | storage (cause : StoreError)
  | noCache (source reason : String)
  | cancelled
  | invalidTransition (present attempted : String)
  | provider (cause : Refusal)
  | commitFailed (source : String) (cause : StoreError)
  | sourceFailed (source : String) (code : StatusCode) (reason : String)
  | protocol (reason : String)
  | config (reason : String)
  deriving DecidableEq, Inhabited

namespace SyncFailure

def message : SyncFailure → String
  | storage cause => "storage error: " ++ cause.message
  | noCache source reason => "source " ++ source ++ " is not initialized: " ++ reason
  | cancelled => "sync cancelled"
  | invalidTransition present attempted =>
    "invalid state transition from " ++ present ++ " to " ++ attempted
  | provider cause => "item provider error: " ++ cause.message
  | commitFailed source cause =>
    "failed to commit item cache of " ++ source ++ ": " ++ cause.message
  | sourceFailed source code reason =>
    "source " ++ source ++ " ended with error " ++ code.repr ++ ": " ++ reason
  | protocol reason => "protocol error: " ++ reason
  | config reason => "configuration error: " ++ reason

def causeMessage? : SyncFailure → Option String
  | storage cause => some cause.message
  | provider cause => some cause.message
  | commitFailed _ cause => some cause.message
  | _ => none

end SyncFailure

end Reconcile
