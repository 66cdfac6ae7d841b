import DeviceChannels.FileState
import DeviceChannels.Text.Characters
import DeviceChannels.Toml.Document

/-!
Settings from a configuration in TOML. Every setting may be left out, unknown ones are ignored. A
date or time passes for a text.
-/

namespace DeviceChannels

structure Config where
  catalogPath : Option String := none
  refreshOnStart : Bool := true
  /-- How long a message stays in the status bar. -/
  statusTimeoutSecs : Nat := 3
  /-- Names of actions with texts of keys. -/
  keybindings : List (String × String) := []
  deriving Repr

inductive ConfigFault
  | unreadable (fault : ReadFault)
  /-- No TOML, or a setting of the wrong kind. -/
  | invalid
  | tooLarge (path : String) (size : Nat)
  deriving DecidableEq, Repr

def joinPath (dir name : String) : String :=
  if name.startsWith "/" then name
  else if dir.isEmpty || dir.endsWith "/" then dir ++ name
  else dir ++ "/" ++ name

namespace Config

def maxBytes : Nat := 1024 * 1024

def asText : Toml.Value → Option String
  | .string s => some s
  | .moment s => some s
  | _ => none

def asFlag : Toml.Value → Option Bool
  | .boolean b => some b
  | _ => none

def asCount : Toml.Value → Option Nat
  | .integer n => if 0 ≤ n then some n.toNat else none
  | _ => none

def asTexts : Toml.Value → Option (List (String × String))
  | .table _ entries => entries.mapM fun e => (asText e.2).map (e.1, ·)
  | _ => none

def setting (entries : Toml.Entries) (key : String) (read : Toml.Value → Option α) (default : α) :
    Option α :=
  match entries.lookup key with
  | none => some default
  | some value => read value

def ofEntries (entries : Toml.Entries) : Option Config := do
  let catalogPath ← setting entries "catalog_path" (fun v => (asText v).map some) none
  let refreshOnStart ← setting entries "refresh_on_start" asFlag true
  let statusTimeoutSecs ← setting entries "status_timeout_secs" asCount 3
  let keybindings ← setting entries "keybindings" asTexts []
  some { catalogPath, refreshOnStart, statusTimeoutSecs, keybindings }

def read (text : String) : Option Config :=
  if Text.allBlank text then some {} else (Toml.ofText? text).bind ofEntries

/-- The settings of the file at `path`; a missing file leaves all at their defaults. -/
def load (path : String) (file : FileState) : Except ConfigFault Config :=
  match file.load maxBytes with
  | .error (.tooLarge size) => .error (.tooLarge path size)
  | .error (.unreadable fault) => .error (.unreadable fault)
  | .ok none => .ok {}
  | .ok (some text) =>
    match read text with
    | some config => .ok config
    | none => .error .invalid

/-- The catalog that is named, or the usual one in the directory of the configuration. -/
def catalogPathIn (config : Config) (dir : String) : String :=
  config.catalogPath.getD (joinPath dir "channels.json")

end Config

def ConfigFault.message : ConfigFault → String
  | .unreadable fault => "cannot read config: " ++ fault.message
  | .invalid => "Invalid TOML in config"
  | .tooLarge path size =>
    "config too large: " ++ path ++ " is " ++ toString size ++ " bytes, limit is " ++
      toString Config.maxBytes

end DeviceChannels
