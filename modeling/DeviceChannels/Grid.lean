import DeviceChannels.Deletion.Workflow

/-!
What a view of the channels shows: that it is loading, that there is nothing on the device, or the
rows of the display list; and on top of it the confirmation of a deletion, if one is staged. The
display list is made anew whenever the collection changes.
-/

namespace DeviceChannels

inductive PrimaryState
  | loading
  | empty
  | rows
  deriving DecidableEq, Repr

inductive GridAction
  | requestDelete (id : String)
  | confirmDelete
  | cancelDelete
  deriving DecidableEq, Repr

structure ChannelRow where
  channel : Channel
  usageRatio : Float
  usageLabel : String

def ChannelRow.deleteAction (row : ChannelRow) : GridAction := .requestDelete row.channel.id

structure ConfirmSurface where
  channelId : String
  /-- The staged channel, while the collection has it. -/
  channel : Option Channel

def ConfirmSurface.label (surface : ConfirmSurface) : String :=
  match surface.channel with
  | some c => c.name
  | none => surface.channelId

inductive PrimaryView
  | loading
  | empty
  | rows (rows : List ChannelRow)

structure GridView where
  primary : PrimaryView
  confirm : Option ConfirmSurface

structure Grid where
  channels : List Channel := []
  display : List Channel := []
  loading : Bool := false
  workflow : Workflow := .idle
  deriving Repr

namespace Grid

def setChannels (g : Grid) (channels : List Channel) : Grid :=
  { g with channels, display := displayList channels }

def ofChannels (channels : List Channel) : Grid := ({} : Grid).setChannels channels

def setLoading (g : Grid) (loading : Bool) : Grid := { g with loading }

def pending (g : Grid) : Option String := g.workflow.pending

def primaryState (g : Grid) : PrimaryState :=
  if g.loading then .loading else if g.display.isEmpty then .empty else .rows

def rows (g : Grid) : List ChannelRow :=
  g.display.map fun c => ⟨c, c.usageRatio, c.usageLabel⟩

def confirmSurface (g : Grid) : Option ConfirmSurface :=
  g.pending.map fun id => ⟨id, g.channels.find? fun c => c.id == id⟩

def view (g : Grid) : GridView :=
  { primary :=
      match g.primaryState with
      | .loading => .loading
      | .empty => .empty
      | .rows => .rows g.rows
    confirm := g.confirmSurface }

def requestDelete (g : Grid) (id : String) : Grid :=
  { g with workflow := g.workflow.request id }

def cancelDelete (g : Grid) : Grid := { g with workflow := g.workflow.cancel.2 }

def confirmDelete (g : Grid) (r : Runner) :
    Except DeletionFault (Option Completion) × Grid × Runner :=
  let (answer, workflow, r) := g.workflow.confirm r
  (answer, { g with workflow }, r)

/-- Only a confirmation can have a completion or a fault for an answer. -/
def dispatch (g : Grid) (action : GridAction) (r : Runner) :
    Except DeletionFault (Option Completion) × Grid × Runner :=
  match action with
  | .requestDelete id => (.ok none, g.requestDelete id, r)
  | .confirmDelete => g.confirmDelete r
  | .cancelDelete => (.ok none, g.cancelDelete, r)

/-- The state of the workflow goes with the view. -/
def unmount (g : Grid) : Grid := { g with workflow := g.workflow.reset, loading := false }

end Grid

end DeviceChannels
