import DeviceChannels.Text.Cluster
import DeviceChannels.Text.Width

/-!
A screen as a grid of cells that is drawn over from left to right, later drawings on top. A symbol
of two columns stands in the first of two cells and hides the second.
-/

namespace DeviceChannels

inductive Color
  | default
  | darkGray
  | white
  | red
  | cyan
  deriving DecidableEq, Repr

structure Style where
  foreground : Color := .default
  background : Color := .default
  bold : Bool := false
  underlined : Bool := false
  reversed : Bool := false
  deriving DecidableEq, Repr

/-- What a drawing changes of a style; attributes are only ever added. -/
structure Paint where
  foreground : Option Color := none
  background : Option Color := none
  bold : Bool := false
  underlined : Bool := false
  reversed : Bool := false
  deriving DecidableEq, Repr

def Style.painted (s : Style) (p : Paint) : Style :=
  { foreground := p.foreground.getD s.foreground
    background := p.background.getD s.background
    bold := s.bold || p.bold
    underlined := s.underlined || p.underlined
    reversed := s.reversed || p.reversed }

structure Cell where
  symbol : List Char := [' ']
  style : Style := {}
  deriving DecidableEq, Repr, Inhabited

structure Area where
  x : Nat
  y : Nat
  width : Nat
  height : Nat
  deriving DecidableEq, Repr

namespace Area

def right (a : Area) : Nat := a.x + a.width

def bottom (a : Area) : Nat := a.y + a.height

/-- What is left within a border of one cell. -/
def inner (a : Area) : Area := ⟨a.x + 1, a.y + 1, a.width - 2, a.height - 2⟩

def row (a : Area) (n : Nat) : Area := ⟨a.x, a.y + n, a.width, 1⟩

def centered (a : Area) (width height : Nat) : Area :=
  ⟨a.x + (a.width - width) / 2, a.y + (a.height - height) / 2, width, height⟩

def positions (a : Area) : List (Nat × Nat) :=
  (List.range a.height).flatMap fun dy =>
    (List.range a.width).map fun dx => (a.x + dx, a.y + dy)

end Area

structure Screen where
  width : Nat
  height : Nat
  cells : Array Cell

namespace Screen

def blank (width height : Nat) : Screen := ⟨width, height, Array.replicate (width * height) {}⟩

def area (s : Screen) : Area := ⟨0, 0, s.width, s.height⟩

/-- Changes the cell at a position; positions off the screen are left alone. -/
def change (s : Screen) (x y : Nat) (f : Cell → Cell) : Screen :=
  if x < s.width then { s with cells := s.cells.modify (y * s.width + x) f } else s

def changeAll (s : Screen) (positions : List (Nat × Nat)) (f : Cell → Cell) : Screen :=
  positions.foldl (fun s p => s.change p.1 p.2 f) s

def paint (s : Screen) (a : Area) (p : Paint) : Screen :=
  s.changeAll a.positions fun c => { c with style := c.style.painted p }

def clear (s : Screen) (a : Area) : Screen := s.changeAll a.positions fun _ => {}

def put (s : Screen) (x y : Nat) (symbol : List Char) (p : Paint) : Screen :=
  s.change x y fun c => { symbol, style := c.style.painted p }

def row (s : Screen) (y : Nat) : List Cell :=
  (s.cells.extract (y * s.width) ((y + 1) * s.width)).toList

/-- The cells of a row with their columns, hidden ones left out. -/
def shownCells (column hidden : Nat) : List Cell → List (Nat × Cell)
  | [] => []
  | c :: cs =>
    match hidden with
    | n + 1 => shownCells (column + 1) n cs
    | 0 => (column, c) :: shownCells (column + 1) (Text.widthChars c.symbol - 1) cs

def rowText (s : Screen) (y : Nat) : String :=
  let text := (shownCells 0 0 (s.row y)).flatMap fun c => c.2.symbol
  String.ofList (text.reverse.dropWhile (· == ' ')).reverse

def lines (s : Screen) : List String := (List.range s.height).map s.rowText

/-- Neighbouring cells of one style: their first and last column. -/
structure StyleRun where
  row : Nat
  first : Nat
  last : Nat
  style : Style
  deriving Repr

/-- The runs of a row up to its right end, found from left to right. -/
def runsFrom (row : Nat) (stop : Nat) : List (Nat × Cell) → List StyleRun
  | [] => []
  | (x, c) :: cs =>
    match runsFrom row stop cs with
    | [] => [⟨row, x, stop - 1, c.style⟩]
    | next :: runs =>
      if next.style = c.style then { next with first := x } :: runs
      else ⟨row, x, next.first - 1, c.style⟩ :: next :: runs

/-- The runs of cells that are not in the default style, from the top. -/
def styleRuns (s : Screen) : List StyleRun :=
  (List.range s.height).flatMap fun y =>
    (runsFrom y s.width (shownCells 0 0 (s.row y))).filter fun r => r.style != {}

end Screen

end DeviceChannels
