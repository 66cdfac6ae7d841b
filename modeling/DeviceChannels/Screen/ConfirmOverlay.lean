import DeviceChannels.App
import DeviceChannels.Screen.Draw

/-! The overlay that asks whether a channel is to be deleted. -/

namespace DeviceChannels.ConfirmOverlay

/-- Two keys whose texts differ in ASCII case only read as one. -/
def sameKey (a b : String) : Bool := a.map Char.toLower == b.map Char.toLower

def distinctKeys (keys : List String) : List String :=
  keys.foldl (fun kept key => if kept.any (sameKey · key) then kept else kept ++ [key]) []

def confirmKey (m : Keymap) : String := (m.keysFor .confirm .confirmDelete).head?.getD "y"

def cancelKeys (m : Keymap) : List String := distinctKeys (m.keysFor .confirm .cancelDelete)

def prompt (m : Keymap) : String :=
  "(" ++ confirmKey m ++ ") Delete  (" ++ "/".intercalate (cancelKeys m) ++ ") Cancel"

def width (screen : Area) : Nat := min 50 (screen.width - 4)

def versionText (c : Channel) : String :=
  if 0 < c.version then "  v" ++ toString c.version.toNat else ""

def details (innerWidth : Nat) (c : Channel) : List String :=
  (if c.description.isEmpty then []
    else [Text.cut innerWidth (Text.sanitize c.description)]) ++ [c.usageLabel]

def lines (m : Keymap) (innerWidth : Nat) (surface : ConfirmSurface) : List String :=
  let version := match surface.channel with
    | some c => versionText c
    | none => ""
  let known := match surface.channel with
    | some c => details innerWidth c
    | none => []
  ["Delete \"" ++ Text.sanitize surface.label ++ "\"?", "",
    "id: " ++ Text.sanitize surface.channelId ++ version] ++ known ++ ["", prompt m]

/-- The overlay for that many lines: one row more above and below, unless the screen is low. -/
def area (screen : Area) (lineCount : Nat) : Area :=
  screen.centered (width screen) (min (lineCount + 2) (screen.height - 2))

def draw (s : Screen) (app : App) (surface : ConfirmSurface) : Screen :=
  let lines := lines app.keymap (width s.area - 2) surface
  let a := area s.area lines.length
  if a.width < 10 ∨ a.height < 5 then s
  else
    let s := (s.clear a).drawBorder a " Confirm " { foreground := some .red }
    s.drawParagraph a.inner .center (lines.map fun line => [.ofString line])

end DeviceChannels.ConfirmOverlay
