import DeviceChannels.App
import DeviceChannels.Screen.Draw

/-! The overlay that lists the bindings in effect, under a heading for each context. It scrolls, and
its title then tells how far. -/

namespace DeviceChannels.HelpOverlay

inductive HelpRow
  | blank
  | heading (title : String)
  | binding (key description : String)
  deriving DecidableEq, Repr

/-- The contexts with their headings, in the order they are listed. -/
def sections : List (Context × String) :=
  [(.global, "General"), (.channelList, "Channel List"), (.confirm, "Delete Confirmation"),
   (.help, "Help")]

def bindingRows (m : Keymap) (context : Context) : List HelpRow :=
  (m.bindings.filter fun b => b.context = context).map fun b =>
    .binding b.key.text b.action.describe

/-- A context's bindings under its heading, apart from what stands before it. -/
def addSection (m : Keymap) (rows : List HelpRow) (s : Context × String) : List HelpRow :=
  let bindings := bindingRows m s.1
  if bindings.isEmpty then rows
  else rows ++ (if rows.isEmpty then [] else [.blank]) ++ .heading s.2 :: bindings

def rows (m : Keymap) : List HelpRow := sections.foldl (addSection m) []

/-- Four fifths of the screen in both directions. -/
def area (screen : Area) : Area :=
  screen.centered (screen.width * 80 / 100) (screen.height * 80 / 100)

/-- The overlay is drawn only where it has room. -/
def hasRoom (a : Area) : Bool := 20 ≤ a.width && 6 ≤ a.height

/-- Rows that scrolling reckons with: the overlay without its border and the head of the table. -/
def page (a : Area) : Nat := a.height - 3

def lastOffset (a : Area) (rowCount : Nat) : Nat := rowCount - page a

def offset (a : Area) (rowCount scroll : Nat) : Nat := min scroll (lastOffset a rowCount)

def title (offset lastOffset : Nat) : String :=
  if lastOffset = 0 then " Help (? to close) "
  else " Help (" ++ toString (offset + 1) ++ "/" ++ toString (lastOffset + 1) ++ ") "

/-- Rows that are drawn: the head of the table takes two of the rows within the border. -/
def shownRows (a : Area) (rows : List HelpRow) (scroll : Nat) : List HelpRow :=
  ((rows.drop (offset a rows.length scroll)).take (page a)).take (a.inner.height - 2)

def keyColumn (width : Nat) : Nat := min 16 (width - 21)

def drawPair (s : Screen) (a : Area) (key action : String) : Screen :=
  let k := keyColumn a.width
  (s.drawCell ⟨a.x, a.y, k, 1⟩ key).drawCell ⟨a.x + k + 1, a.y, a.width - k - 1, 1⟩ action

def drawRow (s : Screen) (a : Area) : HelpRow → Screen
  | .blank => s
  | .heading title =>
    let s := s.paint a { foreground := some .cyan, bold := true }
    drawPair s a ("-- " ++ title ++ " --") ""
  | .binding key description => drawPair s a ("  " ++ key) description

def scrollHint : String := " j/k to scroll, ? or Esc to close "

def draw (s : Screen) (app : App) : Screen :=
  let a := area s.area
  if hasRoom a then
    let rows := rows app.keymap
    let last := lastOffset a rows.length
    let offset := offset a rows.length app.helpScroll
    let s := (s.clear a).drawBorder a (title offset last) {}
    let head := a.inner.row 0
    let s := s.paint head { bold := true, underlined := true }
    let s := drawPair s head "Key" "Action"
    let s := (shownRows a rows app.helpScroll).zipIdx.foldl
      (fun s (row, n) => drawRow s (a.inner.row (n + 2)) row) s
    if offset < last then
      let hint : Area := ⟨a.x + 1, a.bottom - 1, a.width - 2, 1⟩
      let s := s.paint hint { foreground := some .darkGray }
      s.drawParagraph hint .left [[.ofString scrollHint]]
    else s
  else s

end DeviceChannels.HelpOverlay
