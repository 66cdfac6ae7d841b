import DeviceChannels.Config
import DeviceChannels.Grid
import DeviceChannels.Keymap

/-!
The state of the application between two events: what the grid shows, which row is selected, the
overlays, the message in the status bar. Times are milliseconds of a clock that the caller reads.
-/

namespace DeviceChannels

structure StatusMessage where
  text : String
  since : Nat
  deriving DecidableEq, Repr

structure App where
  grid : Grid
  keymap : Keymap
  /-- A position in the display list. -/
  selected : Nat := 0
  helpOpen : Bool := false
  helpScroll : Nat := 0
  status : Option StatusMessage := none
  statusTimeoutSecs : Nat
  needsRedraw : Bool := true
  spinnerFrame : Nat := 0
  /-- The task of the refresh in flight is held. -/
  refreshHeld : Bool := false
  deriving Repr

def spinnerFrames : List Char := ['⠋', '⠙', '⠹', '⠸', '⠼', '⠴', '⠦', '⠧', '⠇', '⠏']

namespace App

/-- The application over a collection, with the overrides of a configuration that can be
applied. -/
def start (config : Config) (channels : List Channel) : App :=
  { grid := .ofChannels channels
    keymap := (Keymap.default.applyOverrides config.keybindings).1
    statusTimeoutSecs := config.statusTimeoutSecs }

def listLength (a : App) : Nat := a.grid.display.length

def selectedChannel (a : App) : Option Channel := a.grid.display[a.selected]?

def clampSelection (a : App) : App := { a with selected := min a.selected (a.listLength - 1) }

def syncChannels (a : App) (channels : List Channel) : App :=
  let a := ({ a with grid := a.grid.setChannels channels }).clampSelection
  { a with needsRedraw := true }

def navUp (a : App) : App := { a with selected := a.selected - 1 }

def navDown (a : App) : App :=
  if 0 < a.listLength then { a with selected := min (a.selected + 1) (a.listLength - 1) } else a

def navTop (a : App) : App := { a with selected := 0 }

def navBottom (a : App) : App := { a with selected := a.listLength - 1 }

def setStatus (a : App) (now : Nat) (text : String) : App := { a with status := some ⟨text, now⟩ }

/-- Takes a message away that has been shown long enough, and tells whether it did. -/
def clearExpiredStatus (a : App) (now : Nat) : App × Bool :=
  match a.status with
  | none => (a, false)
  | some message =>
    if a.statusTimeoutSecs * 1000 ≤ now - message.since then ({ a with status := none }, true)
    else (a, false)

def requestDeleteSelected (a : App) : App :=
  if a.grid.primaryState = .rows then
    match a.selectedChannel with
    | some c => { a with grid := a.grid.requestDelete c.id }
    | none => a
  else a

/-- Hands the staged deletion over. The status bar tells that it has begun or why it has not. -/
def confirmDelete (a : App) (now : Nat) (r : Runner) : Option Completion × App × Runner :=
  let label := a.grid.confirmSurface.map ConfirmSurface.label
  let (answer, grid, r) := a.grid.confirmDelete r
  let a := { a with grid }
  match answer with
  | .ok none => (none, a, r)
  | .ok (some completion) =>
    let a := match label with
      | some label => a.setStatus now ("Deleting " ++ label ++ "...")
      | none => a
    (some completion, a, r)
  | .error fault => (none, a.setStatus now ("Delete failed: " ++ fault.message), r)

def cancelDelete (a : App) (now : Nat) : App :=
  if a.grid.pending.isSome then
    ({ a with grid := a.grid.cancelDelete }).setStatus now "Cancelled"
  else a

def tick (a : App) : App :=
  if a.grid.loading then
    { a with
      spinnerFrame := (a.spinnerFrame + 1) % spinnerFrames.length
      needsRedraw := true }
  else a

end App

end DeviceChannels
