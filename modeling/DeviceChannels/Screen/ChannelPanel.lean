import DeviceChannels.App
import DeviceChannels.Screen.Draw

/-!
The panel of the channels: a spinner while they are loading, a notice where there are none, or a
table of them that is scrolled no further than the selected row needs. A bar in each row shows how
much of the channel is on the device.
-/

namespace DeviceChannels

namespace UsageBar

/-- The cells that show a share, rounded to whole cells, a half upwards. A share outside 0 to 1
counts as the nearer end, an undefined one as 0. -/
def filledCells (ratio : Float) (cells : Nat) : Nat :=
  let ratio := if ratio < 0.0 then 0.0 else if 1.0 < ratio then 1.0 else ratio
  min (ratio * (UInt64.ofNat cells).toFloat).round.toUInt64.toNat cells

def render (ratio : Float) (cells : Nat) : String :=
  let filled := filledCells ratio cells
  String.ofList (List.replicate filled '█' ++ List.replicate (cells - filled) '░')

end UsageBar

namespace ChannelPanel

def emptyText : String := "No channels on this device"

def loadingText : String := "Refreshing channels..."

def barCells : Nat := 10

/-- The columns of the table within `width`, one cell between them. -/
structure Columns where
  name : Nat
  usage : Nat
  available : Nat

def Columns.within (width : Nat) : Columns :=
  { name := max 8 (width - 47)
    usage := if 55 ≤ width then 36 else width - 19
    available := 9 }

def drawRow (s : Screen) (a : Area) (name usage available : String) : Screen :=
  let c := Columns.within a.width
  let s := s.drawCell ⟨a.x, a.y, c.name, 1⟩ name
  let s := s.drawCell ⟨a.x + c.name + 1, a.y, c.usage, 1⟩ usage
  s.drawCell ⟨a.x + c.name + c.usage + 2, a.y, c.available, 1⟩ available

def nameText (panelWidth : Nat) (c : Channel) : String :=
  Text.cut (max 8 (panelWidth - 49)) (Text.sanitize c.name)

def usageText (row : ChannelRow) : String :=
  UsageBar.render row.usageRatio barCells ++ " " ++ row.usageLabel

/-- The first row shown, for the selected one to be in sight. A selection past the end counts as
the last row. -/
def firstShown (selected count visible : Nat) : Nat := min selected (count - 1) + 1 - visible

def drawTable (s : Screen) (panel : Area) (selected : Nat) (rows : List ChannelRow) : Screen :=
  let a := panel.inner
  let head := a.row 0
  let s := s.paint head { bold := true }
  let s := drawRow s head "Name" "Usage" "Available"
  let visible := a.height - 1
  let first := firstShown selected rows.length visible
  let marked := min selected (rows.length - 1)
  ((rows.drop first).take visible).zipIdx.foldl
    (fun s (row, n) =>
      let line := a.row (n + 1)
      let s := drawRow s line (nameText panel.width row.channel) (usageText row)
        (if row.channel.available then "yes" else "no")
      if first + n = marked then s.paint line { reversed := true } else s)
    s

def draw (s : Screen) (a : Area) (app : App) : Screen :=
  match app.grid.view.primary with
  | .loading =>
    let s := s.drawBorder a " Channels " {}
    let frame := spinnerFrames[app.spinnerFrame % spinnerFrames.length]?.getD ' '
    s.drawParagraph a.inner .center [[.ofString (frame.toString ++ " " ++ loadingText)]]
  | .empty =>
    let s := s.paint a { foreground := some .darkGray }
    let s := s.drawBorder a " Channels " {}
    s.drawParagraph a.inner .center [[.ofString emptyText]]
  | .rows rows =>
    let s := s.drawBorder a (" Channels (" ++ toString rows.length ++ ") ") {}
    drawTable s a app.selected rows

end ChannelPanel

end DeviceChannels
