import DeviceChannels.App

/-! Reports of background tasks and what they change in the application. A report of a finished
refresh or deletion shows the collection as it now is in the store. -/

namespace DeviceChannels

inductive TaskName
  | refresh
  | deleteChannel
  | other
  deriving DecidableEq, Repr

def TaskName.text : TaskName → String
  | .refresh => "refresh"
  | .deleteChannel => "delete_channel"
  | .other => "other"

inductive Event
  | channelsRefreshed (count : Nat)
  | refreshFailed (error : String)
  | channelDeleted (id name : String)
  | channelDeleteFailed (id : String) (fault : DeletionFault)
  | taskPanicked (task : TaskName) (error : String)
  deriving DecidableEq, Repr

namespace App

def refreshSettled (a : App) : App :=
  { a with grid := a.grid.setLoading false, refreshHeld := false }

/-- Handles a report, `snapshot` being the collection in the store. -/
def handle (a : App) (now : Nat) (snapshot : List Channel) (event : Event) : App :=
  let a := match event with
    | .channelsRefreshed count =>
      (a.refreshSettled.syncChannels snapshot).setStatus now
        ("Refreshed " ++ toString count ++ " channels")
    | .refreshFailed error => a.refreshSettled.setStatus now ("Refresh failed: " ++ error)
    | .channelDeleted _ name =>
      (a.syncChannels snapshot).setStatus now ("Deleted \"" ++ name ++ "\"")
    | .channelDeleteFailed _ fault => a.setStatus now ("Delete failed: " ++ fault.message)
    | .taskPanicked task _ =>
      (if task = TaskName.refresh then a.refreshSettled else a).setStatus now
        ("Internal error in " ++ task.text ++ " task")
  { a with needsRedraw := true }

end App

end DeviceChannels
