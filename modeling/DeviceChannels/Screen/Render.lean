import DeviceChannels.Screen.ChannelPanel
import DeviceChannels.Screen.ConfirmOverlay
import DeviceChannels.Screen.HelpOverlay
import DeviceChannels.Screen.StatusBar

/-!
The whole screen: a header, the panel of the channels and the status bar, and the overlays on top.
On a screen that is too small only a notice is drawn.
-/

namespace DeviceChannels.Screen

def minWidth : Nat := 40

def minHeight : Nat := 8

def drawTooSmall (s : Screen) : Screen :=
  if s.height < 3 ∨ s.width < 20 then
    s.drawParagraph s.area .left [[.ofString "Too small"]]
  else
    let size (width height : Nat) : String := toString width ++ "x" ++ toString height
    s.drawParagraph s.area .center
      (["Terminal too small", "", "Minimum: " ++ size minWidth minHeight,
        "Current: " ++ size s.width s.height].map fun line => [Span.ofString line])

def drawHeader (s : Screen) (a : Area) (app : App) : Screen :=
  let counts :=
    toString app.grid.display.length ++ " of " ++ toString app.grid.channels.length ++
      " channels on device"
  s.drawParagraph a .left
    [[{ text := " chanman ".toList, paint := { bold := true } }, .ofString counts]]

def drawMain (s : Screen) (app : App) : Screen :=
  let s := s.drawHeader (s.area.row 0) app
  let s := ChannelPanel.draw s ⟨0, 1, s.width, s.height - 2⟩ app
  let s := StatusBar.draw s (s.area.row (s.height - 1)) app
  let s := match app.grid.confirmSurface with
    | some surface => ConfirmOverlay.draw s app surface
    | none => s
  if app.helpOpen then HelpOverlay.draw s app else s

def render (app : App) (width height : Nat) : Screen :=
  let s := blank width height
  if width < minWidth ∨ height < minHeight then s.drawTooSmall else s.drawMain app

end DeviceChannels.Screen
