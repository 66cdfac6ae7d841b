import DeviceChannels.CommandLine.Startup

/-!
A model of a machine's files for the start of the program: files and directories by their place
below the root, and which of them were left to their owner alone.
-/

namespace DeviceChannels.CommandLine

inductive Entry
  | file (content : ByteArray)
  | directory

/-- The steps from the root to a file or a directory. -/
abbrev Place := List String

structure Disk where
  entries : List (Place × Entry) := []
  restricted : List Place := []
  workingDirectory : Place := []
  home : Option String := none
  said : List String := []

namespace Disk

def entry? (d : Disk) (place : Place) : Option Entry :=
  if place = [] then some .directory else d.entries.lookup place

def add (d : Disk) (place : Place) (entry : Entry) : Disk :=
  { d with entries := (place, entry) :: d.entries.filter fun e => e.1 != place }

def isDirectory (d : Disk) (place : Place) : Bool :=
  match d.entry? place with
  | some .directory => true
  | _ => false

def prefixes (place : Place) : List Place :=
  (List.range (place.length + 1)).map place.take

def addDirectories (d : Disk) (place : Place) : Option Disk :=
  (prefixes place).foldlM
    (fun d p =>
      match d.entry? p with
      | some .directory => some d
      | some (.file _) => none
      | none => some (d.add p .directory))
    d

def addWithParents (d : Disk) (place : Place) (entry : Entry) : Disk :=
  match d.addDirectories place.dropLast with
  | some d => d.add place entry
  | none => d

inductive Target
  | missing
  | underFile
  | found (place : Place) (entry : Entry)

/-- Walks on from a place. Every step starts from a directory. -/
def walk (d : Disk) (place : Place) : List String → Target
  | [] =>
    match d.entry? place with
    | some entry => .found place entry
    | none => .missing
  | step :: steps =>
    match d.entry? place with
    | none => .missing
    | some (.file _) => .underFile
    | some .directory =>
      if step = "" ∨ step = "." then walk d place steps
      else if step = ".." then walk d place.dropLast steps
      else walk d (place ++ [step]) steps

def steps (path : String) : List String := (path.splitOn "/")

def target (d : Disk) (path : String) : Target :=
  if path = "" then .missing
  else d.walk (if path.startsWith "/" then [] else d.workingDirectory) (steps path)

/-- Where a new file or directory of that path would stand. -/
def place (d : Disk) (path : String) : Place :=
  (if path.startsWith "/" then [] else d.workingDirectory) ++
    (steps path).filter fun s => s != "" && s != "."

def look (d : Disk) (path : String) : FileState :=
  match d.target path with
  | .missing => .missing
  | .underFile => .underFile
  | .found _ .directory => .directory
  | .found _ (.file content) => .file content

def present (d : Disk) (path : String) : Bool :=
  match d.target path with
  | .found _ _ => true
  | _ => false

def restrict (d : Disk) (path : String) : Disk :=
  match d.target path with
  | .found place _ => { d with restricted := place :: d.restricted }
  | _ => d

/-- Opens a log; a new one needs its directory. -/
def openLog (d : Disk) (path : String) : Option Disk :=
  match d.target path with
  | .found _ (.file _) => some d
  | .found _ .directory => none
  | .underFile => none
  | .missing =>
    let place := d.place path
    if d.isDirectory place.dropLast then some (d.add place (.file ByteArray.empty)) else none

def permissions? (d : Disk) (path : String) : Option String :=
  match d.target path with
  | .found place entry =>
    if d.restricted.contains place then some "700"
    else
      match entry with
      | .directory => some "755"
      | .file _ => some "644"
  | _ => none

end Disk

def Host.onDisk : Host (StateM Disk) where
  home := do pure (← get).home
  present path := do pure ((← get).present path)
  createDirectory path := do
    let d ← get
    match d.addDirectories (d.place path) with
    | some d => set d; pure true
    | none => pure false
  restrict path := modify fun d => d.restrict path
  openLog path := do
    match (← get).openLog path with
    | some d => set d; pure true
    | none => pure false
  look path := do pure ((← get).look path)
  say line := modify fun d => { d with said := d.said ++ [line] }

end DeviceChannels.CommandLine
