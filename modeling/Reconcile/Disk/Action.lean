import Reconcile.Disk.Basic

/-!
Sequences of disk actions, run until one fails. An action can fail by the state of the disk or by
a mishap, which strikes at a chosen point and lets part of a write through.
-/

namespace Reconcile

inductive DiskAction where
  | create (path : Path)
  | append (path : Path) (content : Bytes)
  /-- Waits until the content of a file is on the disk. -/
  | syncFile (path : Path)
  | rename (source target : Path)
  /-- Waits until the names in a directory are on the disk. -/
  | syncDirectory (path : Path)
  deriving DecidableEq, Inhabited

namespace DiskAction

def run (action : DiskAction) (disk : Disk) : Except DiskError Disk :=
  match action with
  | create path => disk.createFile path
  | append path content => disk.append path content
  | syncFile path => (disk.fileContent path).map fun _ => disk
  | rename source target => disk.renameFile source target
  | syncDirectory path => if disk.isDirectory path then .ok disk else .error .noEntry

/-- What an action leaves behind when it fails after some of its bytes. -/
def interrupted (action : DiskAction) (written : Nat) (disk : Disk) : Disk :=
  match action with
  | append path content => ((disk.append path (content.take written)).toOption).getD disk
  | _ => disk

/-- Carries out the actions in order, up to the first that fails. -/
def runAll (mishap : Option Mishap) : Nat → List DiskAction → Disk → Except DiskError Unit × Disk
  | _, [], disk => (.ok (), disk)
  | position, action :: rest, disk =>
    match mishap.filter fun strike => strike.position == position with
    | some strike => (.error strike.error, action.interrupted strike.written disk)
    | none =>
      match action.run disk with
      | .error error => (.error error, disk)
      | .ok disk => runAll mishap (position + 1) rest disk

end DiskAction

end Reconcile
