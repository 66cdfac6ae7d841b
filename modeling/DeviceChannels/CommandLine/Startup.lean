import DeviceChannels.CommandLine.Arguments
import DeviceChannels.Session

/-!
The start of the program up to the point where it takes over the terminal: the directory of the
configuration, the log, the configuration, the catalog, in this order. What the program asks of its
surroundings is a record of operations, so that the start runs on a real machine and on a model of
one.
-/

namespace DeviceChannels.CommandLine

structure Host (m : Type → Type) where
  home : m (Option String)
  present (path : String) : m Bool
  createDirectory (path : String) : m Bool
  /-- Leaves a path to its owner alone, if that can be done. -/
  restrict (path : String) : m Unit
  openLog (path : String) : m Bool
  look (path : String) : m FileState
  say (line : String) : m Unit

inductive StartFault
  | homeUnset
  | configDirectory
  | logFile (path : String)
  | config (path : String)
  | catalog (path : String)
  deriving DecidableEq, Repr

def StartFault.message : StartFault → String
  | .homeUnset => "HOME environment variable not set"
  | .configDirectory => "Failed to create config directory"
  | .logFile path => "Failed to open log file '" ++ path ++ "'"
  | .config path => "Failed to load config '" ++ path ++ "'"
  | .catalog path => "Failed to open channel catalog '" ++ path ++ "'"

inductive Started
  | help
  | refused
  | failed (fault : StartFault)
  /-- All is set up; the catalog stands at the path. -/
  | ready (session : Session) (catalogPath : String)

def configDirectory (home : String) : String := joinPath (joinPath home ".config") "chanman"

def openSession [Monad m] (host : Host m) (options : Options) (dir : String) : m Started := do
  let configPath := options.config.getD (joinPath dir "config.toml")
  match Config.load configPath (← host.look configPath) with
  | .error _ => pure (.failed (.config configPath))
  | .ok config =>
    let catalogPath := options.catalog.getD (config.catalogPathIn dir)
    let file ← host.look catalogPath
    match Store.open file with
    | .error _ => pure (.failed (.catalog catalogPath))
    | .ok store =>
      let session := Session.start config file store
      pure (.ready (if config.refreshOnStart then session.spawnRefresh else session) catalogPath)

def startIn [Monad m] (host : Host m) (options : Options) (dir : String) : m Started := do
  host.restrict dir
  let log := joinPath dir "chanman.log"
  if ← host.openLog log then openSession host options dir
  else pure (.failed (.logFile log))

def start [Monad m] (host : Host m) (args : List String) : m Started := do
  match Request.ofArguments args with
  | .help => pure .help
  | .refused => pure .refused
  | .run options =>
    match ← host.home with
    | none => pure (.failed .homeUnset)
    | some home =>
      let dir := configDirectory home
      if ← host.present dir then startIn host options dir
      else if ← host.createDirectory dir then
        host.say ("Created config directory: " ++ dir)
        startIn host options dir
      else pure (.failed .configDirectory)

def Started.exitCode : Started → Nat
  | .help => 0
  | .refused => 2
  | .failed _ => 1
  | .ready _ _ => 1

end DeviceChannels.CommandLine
