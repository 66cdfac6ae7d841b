import DeviceChannels.ByteSize

/-!
Content channels of a device. A channel is on the device when at least one of its resources is.
The display list holds the channels on the device ordered by name, channels of one name in the
order of the collection.
-/

namespace DeviceChannels

structure Channel where
  id : String
  name : String
  available : Bool := false
  onDeviceResources : UInt64 := 0
  totalResources : UInt64 := 0
  description : String := ""
  version : UInt32 := 0
  onDeviceFileSize : UInt64 := 0
  deriving DecidableEq, Repr, Inhabited

namespace Channel

def ofCounts (id name : String) (onDevice total : UInt64) : Channel :=
  { id, name, available := true, onDeviceResources := onDevice, totalResources := total }

def isOnDevice (c : Channel) : Bool := 0 < c.onDeviceResources

/-- The share of the channel's resources that is on the device, between 0 and 1. -/
def usageRatio (c : Channel) : Float :=
  if c.totalResources = 0 then 0.0
  else
    let ratio := c.onDeviceResources.toFloat / c.totalResources.toFloat
    if ratio < 0.0 then 0.0 else if 1.0 < ratio then 1.0 else ratio

def usageLabel (c : Channel) : String :=
  let counts :=
    toString c.onDeviceResources.toNat ++ "/" ++ toString c.totalResources.toNat ++ " resources"
  if 0 < c.onDeviceFileSize then counts ++ ", " ++ ByteSize.render c.onDeviceFileSize.toNat
  else counts

/-- The channel with its content taken off the device. -/
def withoutContent (c : Channel) : Channel :=
  { c with onDeviceResources := 0, onDeviceFileSize := 0 }

end Channel

/-- The channels on the device in the order of their names. -/
def displayList (channels : List Channel) : List Channel :=
  (channels.filter Channel.isOnDevice).mergeSort fun a b => a.name ≤ b.name

end DeviceChannels
