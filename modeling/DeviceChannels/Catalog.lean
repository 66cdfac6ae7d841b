import DeviceChannels.Channel
import DeviceChannels.FileState
import DeviceChannels.Json.Reader
import DeviceChannels.Text.Characters

/-!
Catalogs of channels in JSON: an array of channels, or an object that has one under `channels`. A
channel is an object, or an array of its fields in order. A blank text is an empty catalog.
-/

namespace DeviceChannels.Catalog

/-- The kinds of fault in a catalog. -/
inductive Fault
  /-- The text stops within a value. -/
  | ended
  | malformed
  /-- Well-formed JSON that is no catalog. -/
  | wrongShape
  deriving DecidableEq, Repr

/-- Why a catalog is refused. -/
inductive Refusal
  | notJson (reason : Json.Reason) (line column : Nat)
  | wrongShape
  deriving DecidableEq, Repr

def Refusal.fault : Refusal → Fault
  | .notJson reason _ _ => if reason.isEnd then .ended else .malformed
  | .wrongShape => .wrongShape

instance : Coe Refusal Fault := ⟨Refusal.fault⟩

def Refusal.message : Refusal → String
  | .notJson reason line column =>
    reason.message ++ " at line " ++ toString line ++ " column " ++ toString column
  | .wrongShape => "data did not match any variant of untagged enum CatalogFile"

def Refusal.ofJson (text : String) (fault : Json.Fault) : Refusal :=
  let place := fault.place text
  .notJson fault.reason place.1 place.2

def asString : Json → Option String
  | .string s => some s
  | _ => none

def asBool : Json → Option Bool
  | .bool b => some b
  | _ => none

def asUInt64 : Json → Option UInt64
  | .natural n => some n
  | _ => none

def asUInt32 : Json → Option UInt32
  | .natural n => if n.toNat < UInt32.size then some n.toUInt32 else none
  | _ => none

def fieldNames : List String :=
  ["id", "name", "available", "on_device_resources", "total_resources", "description", "version",
   "on_device_file_size"]

/-- The value of a field, or the default where the field is missing. -/
def optional (read : Json → Option α) (default : α) : Option Json → Option α
  | none => some default
  | some value => read value

/-- A channel from the values of its fields. -/
def channelOf (get : String → Option Json) : Option Channel := do
  let id ← (← get "id") |> asString
  let name ← (← get "name") |> asString
  let available ← optional asBool false (get "available")
  let onDeviceResources ← optional asUInt64 0 (get "on_device_resources")
  let totalResources ← optional asUInt64 0 (get "total_resources")
  let description ← optional asString "" (get "description")
  let version ← optional asUInt32 0 (get "version")
  let onDeviceFileSize ← optional asUInt64 0 (get "on_device_file_size")
  some { id, name, available, onDeviceResources, totalResources, description, version,
         onDeviceFileSize }

/-- A key that is known stands at most once. -/
def knownOnce (known : List String) (fields : List (String × Json)) : Bool :=
  known.all fun key => (fields.filter fun f => f.1 == key).length ≤ 1

def channel : Json → Option Channel
  | .object fields =>
    if knownOnce fieldNames fields then channelOf fun key => fields.lookup key else none
  | .array values =>
    if values.length ≤ fieldNames.length then
      channelOf fun key => (fieldNames.zip values).lookup key
    else none
  | _ => none

def channelList : Json → Option (List Channel)
  | .array items => items.mapM channel
  | _ => none

def ofJson : Json → Option (List Channel)
  | .object fields =>
    if knownOnce ["channels"] fields then fields.lookup "channels" >>= channelList else none
  | json => channelList json

/-- Reads a catalog. The shape of the value is judged before what follows it. -/
def read (text : String) : Except Refusal (List Channel) :=
  if Text.allBlank text then .ok []
  else
    match Json.value Json.maxDepth text.toList with
    | .error fault => .error (.ofJson text fault)
    | .ok (json, rest) =>
      match ofJson json with
      | none => .error .wrongShape
      | some channels =>
        let rest := Json.skipSpace rest
        if rest = [] then .ok channels else .error (.ofJson text (.within .textAfterEnd rest))

def maxBytes : Nat := 4 * 1024 * 1024

end DeviceChannels.Catalog
