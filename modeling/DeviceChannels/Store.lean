import DeviceChannels.Catalog

/-!
The collection of channels on a device. A refresh reads the catalog anew and takes the content off
every channel removed in this session; a removal takes it off at once. The catalog itself is never
written. Reading and publishing are separate steps, since removals may come between them.
-/

namespace DeviceChannels

inductive StoreFault
  | unreadable (detail : String)
  | invalid (refusal : Catalog.Refusal)
  | tooLarge (detail : String)
  | unknownChannel (id : String)
  deriving DecidableEq, Repr

def StoreFault.message : StoreFault → String
  | .unreadable detail => "Failed to read channel catalog: " ++ detail
  | .invalid refusal => "Invalid channel catalog: " ++ refusal.message
  | .tooLarge detail => "Channel catalog too large: " ++ detail
  | .unknownChannel id => "Unknown channel: " ++ id

def Catalog.sizeDetail (size : Nat) : String :=
  "Catalog is " ++ toString size ++ " bytes (max " ++ toString Catalog.maxBytes ++ " bytes)"

/-- The channels of a catalog file; a missing one has none. -/
def Catalog.load (file : FileState) : Except StoreFault (List Channel) :=
  match file.load Catalog.maxBytes with
  | .error (.tooLarge size) => .error (.tooLarge (Catalog.sizeDetail size))
  | .error (.unreadable fault) => .error (.unreadable fault.message)
  | .ok none => .ok []
  | .ok (some text) =>
    match Catalog.read text with
    | .ok channels => .ok channels
    | .error refusal => .error (.invalid refusal)

structure Store where
  /-- A catalog file stands behind the collection. -/
  backed : Bool
  channels : List Channel
  /-- Ids whose content was removed in this session. -/
  removed : List String := []
  /-- How many collections were published since the store was opened. -/
  versions : Nat := 0
  deriving Repr

/-- The collection with the content of the given ids taken off. -/
def applyRemovals (removed : List String) (channels : List Channel) : List Channel :=
  channels.map fun c => if removed.contains c.id then c.withoutContent else c

/-- The collection with the content of the first channel of that id taken off. -/
def takeContentOff (id : String) : List Channel → List Channel
  | [] => []
  | c :: cs => if c.id = id then c.withoutContent :: cs else c :: takeContentOff id cs

namespace Store

def inMemory (channels : List Channel) : Store := { backed := false, channels }

def «open» (file : FileState) : Except StoreFault Store :=
  match Catalog.load file with
  | .ok channels => .ok { backed := true, channels }
  | .error fault => .error fault

/-- The first half of a refresh: what will be published, removals not yet applied. -/
def readAnew (s : Store) (file : FileState) : Except StoreFault (List Channel) :=
  if s.backed then Catalog.load file else .ok s.channels

def publish (s : Store) (read : List Channel) : Store :=
  { s with channels := applyRemovals s.removed read, versions := s.versions + 1 }

def refresh (s : Store) (file : FileState) : Except StoreFault (List Channel) × Store :=
  match s.readAnew file with
  | .error fault => (.error fault, s)
  | .ok read =>
    let s := s.publish read
    (.ok s.channels, s)

def find? (s : Store) (id : String) : Option Channel := s.channels.find? fun c => c.id == id

def removeContent (s : Store) (id : String) : Except StoreFault Channel × Store :=
  match s.find? id with
  | none => (.error (.unknownChannel id), s)
  | some c =>
    (.ok c.withoutContent,
      { s with
        channels := takeContentOff id s.channels
        removed := s.removed.insert id
        versions := s.versions + 1 })

end Store

end DeviceChannels
