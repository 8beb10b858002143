import Reconcile.Failure
import Reconcile.Store.PropertyFile

/-!
Configuration of a client and of its sources.
-/

namespace Reconcile

inductive SyncMode where
  | twoWay
  /-- Every local item is sent; changes in both directions. -/
  | slow
  | oneWayFromClient
  | oneWayFromServer
  | refreshFromClient
  | refreshFromServer
  deriving DecidableEq, Inhabited

namespace SyncMode

def all : List SyncMode :=
  [twoWay, slow, oneWayFromClient, oneWayFromServer, refreshFromClient, refreshFromServer]

def name : SyncMode → String
  | twoWay => "TwoWay"
  | slow => "Slow"
  | oneWayFromClient => "OneWayFromClient"
  | oneWayFromServer => "OneWayFromServer"
  | refreshFromClient => "RefreshFromClient"
  | refreshFromServer => "RefreshFromServer"

def sends : SyncMode → Bool
  | twoWay | slow | oneWayFromClient | refreshFromClient => true
  | oneWayFromServer | refreshFromServer => false

def receives : SyncMode → Bool
  | twoWay | slow | oneWayFromServer | refreshFromServer => true
  | oneWayFromClient | refreshFromClient => false

def sendsAll : SyncMode → Bool
  | slow | refreshFromClient => true
  | _ => false

end SyncMode

structure SourceSettings where
  name : String
  remoteUri : String := name
  mimeType : String := "application/octet-stream"
  preferredMode : SyncMode := .twoWay
  success : SuccessRule := .ofSourceName name
  maxKeyLength : Nat := 64
  enabled : Bool := true
  deriving DecidableEq, Inhabited

def SourceSettings.describe (config : SourceSettings) : String :=
  "SourceConfig \x7b name: " ++ Text.quoted config.name ++
    ", remote_uri: " ++ Text.quoted config.remoteUri ++
    ", mime_type: " ++ Text.quoted config.mimeType ++
    ", preferred_mode: " ++ config.preferredMode.name ++
    ", success: " ++ config.success.name ++
    ", max_key_len: " ++ config.maxKeyLength.repr ++
    ", enabled: " ++ (if config.enabled then "true" else "false") ++ " \x7d"

structure ClientSettings where
  directory : Path
  deriving DecidableEq, Inhabited

structure ClientVariables where
  directory : Option String := none
  configHome : Option String := none
  home : Option String := none

namespace ClientSettings

def applicationDirectory : String := "cachesync"

/-- The user's directory for configurations: as it is set, if absolute, or below the user's own
directory. -/
def platformDirectory (given : ClientVariables) : Option Path :=
  match (given.configHome.map Path.ofText).filter Path.isAbsolute with
  | some path => some path
  | none =>
    (given.home.filter fun home => home != "").map fun home => Path.ofText home / ".config"

def ofVariables (given : ClientVariables) : Except SyncFailure ClientSettings :=
  match given.directory.filter fun directory => directory != "" with
  | some directory => .ok ⟨.ofText directory⟩
  | none =>
    match platformDirectory given with
    | some base => .ok ⟨base / applicationDirectory⟩
    | none => .error (.config "cannot determine platform configuration directory")

def cacheFile (config : ClientSettings) (source : String) : Path :=
  PropertyFile.cacheFile config.directory source

end ClientSettings

end Reconcile
