import DeviceChannels.Screen.Canvas

/-!
Texts and borders drawn on a screen. A paragraph drops what takes no column and ends a line at the
last symbol that fits; a cell of a table keeps such marks with the symbol before them.
-/

namespace DeviceChannels

structure Span where
  text : List Char
  paint : Paint := {}
  deriving Repr

def Span.ofString (s : String) : Span := { text := s.toList }

inductive Alignment
  | left
  | center
  deriving DecidableEq, Repr

/-- The lines of a text. A line end at the very end begins no further line. -/
def textLines (cs : List Char) : List (List Char) :=
  let rec go (line : List Char) : List Char → List (List Char)
    | [] => if line.isEmpty then [] else [line.reverse]
    | '\n' :: cs =>
      (match line with
        | '\r' :: line => line.reverse
        | line => line.reverse) :: go [] cs
    | c :: cs => go (c :: line) cs
  go [] cs

structure Glyph where
  symbol : List Char
  width : Nat
  paint : Paint
  deriving Repr

def Span.glyphs (s : Span) : List Glyph :=
  (Text.clusters s.text).map fun g => ⟨g, Text.widthChars g, s.paint⟩

/-- The glyphs of a line that fit. One that could never fit is passed over. -/
def fittingGlyphs (width room : Nat) : List Glyph → List Glyph
  | [] => []
  | g :: gs =>
    if width < g.width then fittingGlyphs width room gs
    else if room < g.width then []
    else g :: fittingGlyphs width (room - g.width) gs

namespace Screen

/-- Draws a line of a paragraph into an area of one row. -/
def drawLine (s : Screen) (a : Area) (alignment : Alignment) (line : List Span) : Screen :=
  let glyphs := fittingGlyphs a.width a.width (line.flatMap Span.glyphs)
  let offset :=
    match alignment with
    | .left => 0
    | .center => a.width / 2 - glyphs.foldl (fun n g => n + g.width) 0 / 2
  (glyphs.foldl
    (fun (s, x) g =>
      if g.width = 0 then (s, x) else (s.put x a.y g.symbol g.paint, x + g.width))
    (s, a.x + offset)).1

/-- Draws as many lines as the area is high. -/
def drawParagraph (s : Screen) (a : Area) (alignment : Alignment) (lines : List (List Span)) :
    Screen :=
  ((lines.take a.height).zipIdx).foldl
    (fun s (line, n) => s.drawLine (a.row n) alignment line) s

/-- Where the drawing of a table cell stands. -/
structure CellPen where
  screen : Screen
  x : Nat
  started : Bool := false
  full : Bool := false

/-- Draws one glyph of a table cell. Marks without a column join the symbol before them. -/
def CellPen.draw (a : Area) (pen : CellPen) (g : Glyph) : CellPen :=
  let next := pen.x + g.width
  if pen.full || a.right < next then { pen with full := true }
  else
    let append (x : Nat) : Screen :=
      pen.screen.change x a.y fun c =>
        { symbol := c.symbol ++ g.symbol, style := c.style.painted g.paint }
    let screen :=
      if !pen.started then pen.screen.put pen.x a.y g.symbol g.paint
      else if pen.x = a.x then append pen.x
      else if g.width = 0 then append (pen.x - 1)
      else pen.screen.put pen.x a.y g.symbol g.paint
    let screen := screen.clear ⟨pen.x + 1, a.y, g.width - 1, 1⟩
    { screen, x := next, started := true, full := false }

/-- Draws the text of a table cell or a title into an area of one row. -/
def drawCell (s : Screen) (a : Area) (text : String) : Screen :=
  if a.width = 0 ∨ Text.width text = 0 then s
  else ((Span.ofString text).glyphs.foldl (CellPen.draw a) { screen := s, x := a.x }).screen

/-- Draws a border with a title in its upper edge. -/
def drawBorder (s : Screen) (a : Area) (title : String) (p : Paint) : Screen :=
  if a.width = 0 ∨ a.height = 0 then s
  else
    let top := a.y
    let bottom := a.bottom - 1
    let left := a.x
    let right := a.right - 1
    let rows := (List.range a.height).map (a.y + ·)
    let columns := (List.range a.width).map (a.x + ·)
    let s := rows.foldl (fun s y => (s.put left y ['│'] p).put right y ['│'] p) s
    let s := columns.foldl (fun s x => (s.put x top ['─'] p).put x bottom ['─'] p) s
    let s := s.put left top ['┌'] p
    let s := s.put right top ['┐'] p
    let s := s.put left bottom ['└'] p
    let s := s.put right bottom ['┘'] p
    s.drawCell ⟨left + 1, top, a.width - 2, 1⟩ title

end Screen

end DeviceChannels
