import DeviceChannels.App
import DeviceChannels.Screen.Draw

/-! The status bar: the message, if there is one, otherwise hints at the keys that matter now. -/

namespace DeviceChannels.StatusBar

structure Hint where
  key : String
  label : String
  deriving DecidableEq, Repr

def Hint.text (h : Hint) : String := "[" ++ h.key ++ "] " ++ h.label

/-- The first key of each action in a context; an action without a key gives no hint. -/
def hints (m : Keymap) (context : Context) (actions : List (Action × String)) : List Hint :=
  actions.filterMap fun a => (m.keysFor context a.1).head?.map (⟨·, a.2⟩)

def hintText (hints : List Hint) : String := " ".intercalate (hints.map Hint.text)

def confirmActions : List (Action × String) :=
  [(.confirmDelete, "delete"), (.cancelDelete, "cancel")]

def listActions : List (Action × String) := [(.deleteChannel, "delete")]

def globalActions : List (Action × String) :=
  [(.refresh, "refresh"), (.showHelp, "help"), (.quit, "quit")]

def text (app : App) : String :=
  match app.status with
  | some message => message.text
  | none =>
    if app.grid.pending.isSome then hintText (hints app.keymap .confirm confirmActions)
    else if app.grid.loading then "Refreshing..."
    else
      hintText (hints app.keymap .channelList listActions) ++ " " ++
        hintText (hints app.keymap .global globalActions)

def draw (s : Screen) (a : Area) (app : App) : Screen :=
  let s := s.paint a { foreground := some .white, background := some .darkGray }
  s.drawParagraph a .left ((textLines (text app).toList).map fun line => [{ text := line }])

end DeviceChannels.StatusBar
