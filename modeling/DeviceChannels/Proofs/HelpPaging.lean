import DeviceChannels.Proofs.OverlayLayer

/-! Scrolling through the help. The body of the table has a line less than the page that scrolling
reckons with, so the last row of a listing that fills the page stays out of sight. -/

namespace DeviceChannels.HelpOverlay

open Screen

/-- Row `i` stands in one of the lines of the body. -/
def InSight (a : Area) (count scroll i : Nat) : Prop :=
  ∃ line, line + 4 < a.height ∧ i = offset a count scroll + line

theorem inSight_iff {a : Area} {count scroll i : Nat} :
    InSight a count scroll i ↔
      offset a count scroll ≤ i ∧ i + 4 < offset a count scroll + a.height := by
  constructor
  · rintro ⟨line, hline, rfl⟩
    omega
  · rintro ⟨hle, hlt⟩
    exact ⟨i - offset a count scroll, by omega, by omega⟩

theorem exists_inSight_iff {a : Area} (ha : 6 ≤ a.height) {count i : Nat} (hi : i < count) :
    (∃ scroll, InSight a count scroll i) ↔ i + 1 < count ∨ count < page a := by
  simp only [inSight_iff, offset, lastOffset, page]
  constructor
  · rintro ⟨scroll, hle, hlt⟩
    omega
  · intro h
    exact ⟨i, by omega, by omega⟩

theorem forall_inSight_iff {a : Area} (ha : 6 ≤ a.height) {count : Nat}
    (hall : lastOffset a count = 0) (scroll : Nat) :
    (∀ i < count, InSight a count scroll i) ↔ count < page a := by
  simp only [inSight_iff, offset, hall]
  simp only [lastOffset, page] at hall ⊢
  constructor
  · intro h
    by_cases hcount : count = 0
    · omega
    · have hlast := h (count - 1) (by omega)
      omega
  · intro h i hi
    omega

theorem shownRows_getElem? {a : Area} {rows : List HelpRow} {scroll line : Nat}
    (hline : line + 4 < a.height) :
    (shownRows a rows scroll)[line]? = rows[offset a rows.length scroll + line]? := by
  have hbody : line < a.inner.height - 2 := by
    simp only [Area.inner]
    omega
  have hpage : line < page a := by
    simp only [page]
    omega
  simp [shownRows, hbody, hpage]

theorem title_eq_iff (o last : Nat) : title o last = " Help (? to close) " ↔ last = 0 := by
  constructor
  · intro h
    by_contra hlast
    have hslash : '/' ∈ (title o last).toList := by simp [title, hlast]
    rw [h] at hslash
    exact absurd hslash (by decide)
  · rintro rfl
    rfl

theorem hasRoom_area {w h : Nat} (hw : minWidth ≤ w) (hh : minHeight ≤ h) :
    hasRoom (area ⟨0, 0, w, h⟩) = true := by
  simp only [minWidth, minHeight] at hw hh
  have hwidth : 20 ≤ w * 80 / 100 := by omega
  have hheight : 6 ≤ h * 80 / 100 := by omega
  simp [hasRoom, area, Area.centered, hwidth, hheight]

theorem drawing_drawPair (a : Area) (key action : String) :
    Drawing (InRow a.y) fun s => drawPair s a key action :=
  (Drawing.drawCell ⟨_, a.y, _, 1⟩ action).comp (Drawing.drawCell ⟨a.x, a.y, _, 1⟩ key)

theorem drawing_paintRow (a : Area) (n : Nat) (p : Paint) :
    Drawing (InRow (a.row n).y) fun s => s.paint (a.row n) p :=
  Drawing.paint (fun x y h => by
    simp only [Area.Has, Area.bottom, Area.row] at h
    simp only [InRow, Area.row]
    omega) p

theorem drawing_drawRow (a : Area) (n : Nat) (row : HelpRow) :
    Drawing (InRow (a.row n).y) fun s => drawRow s (a.row n) row := by
  cases row with
  | blank => exact .nothing
  | heading title => exact (drawing_drawPair _ _ _).comp (drawing_paintRow a n _)
  | binding key description => exact drawing_drawPair _ _ _

/-- The overlay with the head of its table, before the rows. -/
def head (s : Screen) (a : Area) (title : String) : Screen :=
  drawPair (((s.clear a).drawBorder a title {}).paint (a.inner.row 0)
    { bold := true, underlined := true }) (a.inner.row 0) "Key" "Action"

def body (s : Screen) (a : Area) (rows : List HelpRow) : Screen :=
  rows.zipIdx.foldl (fun s (row, n) => drawRow s (a.inner.row (n + 2)) row) s

theorem draw_eq {s : Screen} {w h : Nat} (hs : Full w h s) (app : App)
    (hroom : hasRoom (area ⟨0, 0, w, h⟩) = true) :
    let a := area ⟨0, 0, w, h⟩
    let rows := rows app.keymap
    let title := title (offset a rows.length app.helpScroll) (lastOffset a rows.length)
    ∃ D, Drawing (InRow (a.bottom - 1)) D ∧
      draw s app = D (body (head s a title) a (shownRows a rows app.helpScroll)) := by
  intro a rows title
  by_cases hmore : offset a rows.length app.helpScroll < lastOffset a rows.length
  · let hint : Area := ⟨a.x + 1, a.bottom - 1, a.width - 2, 1⟩
    have hpaint : Drawing (InRow (a.bottom - 1)) fun s =>
        s.paint hint { foreground := some .darkGray } :=
      drawing_paintRow ⟨a.x + 1, a.bottom - 1, a.width - 2, 1⟩ 0 _
    have htext : Drawing (InRow (a.bottom - 1)) fun s =>
        s.drawParagraph hint .left [[.ofString scrollHint]] :=
      (Drawing.drawParagraph _ _ _).mono fun _ y h => by
        simp only [hint, Area.bottom] at h
        simp only [InRow, Area.bottom]
        omega
    refine ⟨_, htext.comp hpaint, ?_⟩
    simp only [draw, hs.area, hroom, if_true]
    exact if_pos hmore
  · refine ⟨_, .nothing, ?_⟩
    simp only [draw, hs.area, hroom, if_true]
    exact if_neg hmore

theorem cellAt_head {s : Screen} {a : Area} {x y : Nat} (hs : (s.cellAt x y).isSome)
    (hx : a.x < x) (hx' : x + 1 < a.right) (hy : a.y + 1 < y) (hy' : y + 1 < a.bottom)
    (title : String) : (head s a title).cellAt x y = some {} := by
  have hrow : ¬ InRow (a.inner.row 0).y x y := by
    simp only [InRow, Area.inner, Area.row]
    omega
  have hedge : ¬ a.OnEdge x y := by
    simp only [Area.OnEdge]
    omega
  have hin : a.Has x y := by
    simp only [Area.Has]
    omega
  rw [head, (drawing_drawPair _ _ _).outside hrow, (drawing_paintRow _ _ _).outside hrow,
    (Drawing.drawBorder _ _ _).outside hedge, cellAt_clear hin hs]

theorem cellAt_body (s : Screen) (a : Area) (rows : List HelpRow) (line x : Nat) :
    (body s a rows).cellAt x (a.y + 3 + line) =
      (rows[line]?.elim s fun row => drawRow s (a.inner.row (line + 2)) row).cellAt x
        (a.y + 3 + line) := by
  refine cellAt_foldl_zipIdx (P := fun n => InRow (a.inner.row (n + 2)).y)
    (fun row n => drawing_drawRow a.inner (n + 2) row) ?_ rows s
  intro n hn
  simp only [InRow, Area.inner, Area.row] at hn
  omega

/-- Each line of the body looks as the row that stands in it looks alone; a line without a row is
blank. -/
theorem cellAt_draw {s : Screen} {app : App} {w h line x : Nat} (hs : Full w h s)
    (hroom : hasRoom (area ⟨0, 0, w, h⟩) = true) (hline : line + 4 < (area ⟨0, 0, w, h⟩).height)
    (hx : (area ⟨0, 0, w, h⟩).x < x) (hx' : x + 1 < (area ⟨0, 0, w, h⟩).right) :
    let a := area ⟨0, 0, w, h⟩
    let rows := rows app.keymap
    (draw s app).cellAt x (a.y + 3 + line) =
      (rows[offset a rows.length app.helpScroll + line]?.elim (blank w h) fun row =>
        drawRow (blank w h) (a.inner.row (line + 2)) row).cellAt x (a.y + 3 + line) := by
  intro a rows
  obtain ⟨D, hD, hdraw⟩ := draw_eq hs app hroom
  have hxw : x < w := by
    simp only [area, Area.centered, Area.right] at hx'
    omega
  have hyh : a.y + 3 + line < h := by
    simp only [a, area, Area.centered] at hline ⊢
    omega
  change line + 4 < a.height at hline
  have hbottom : ¬ InRow (a.bottom - 1) x (a.y + 3 + line) := by
    simp only [InRow, Area.bottom]
    omega
  have hblank : (blank w h).cellAt x (a.y + 3 + line) = some {} := cellAt_blank hxw hyh
  rw [hdraw, hD.outside hbottom, cellAt_body, shownRows_getElem? hline]
  have hhead (title : String) :
      (head s a title).cellAt x (a.y + 3 + line) = (blank w h).cellAt x (a.y + 3 + line) := by
    rw [hblank]
    have hlow : a.y + 3 + line + 1 < a.bottom := by
      simp only [Area.bottom]
      omega
    exact cellAt_head (a := a) (hs.cells x hxw _ hyh) hx hx' (by omega) hlow title
  cases rows[offset a rows.length app.helpScroll + line]? with
  | none => exact hhead _
  | some row => exact (drawing_drawRow a.inner (line + 2) row).congr (hhead _)

/-- Scrolling brings each row of the help into sight, but not the last one where the listing fills
the page. Without a counter in the title all rows are in sight, unless they just fill the page. -/
theorem last_row_in_sight_iff (app : App) (w h : Nat) (hw : minWidth ≤ w) (hh : minHeight ≤ h)
    (hopen : app.helpOpen = true) :
    let a := area ⟨0, 0, w, h⟩
    let rows := rows app.keymap
    (∀ scroll line x, line + 4 < a.height → a.x < x → x + 1 < a.right →
      (render { app with helpScroll := scroll } w h).cellAt x (a.y + 3 + line) =
        (rows[offset a rows.length scroll + line]?.elim (blank w h) fun row =>
          drawRow (blank w h) (a.inner.row (line + 2)) row).cellAt x (a.y + 3 + line)) ∧
      (∀ i < rows.length, (∃ scroll, InSight a rows.length scroll i) ↔
        i + 1 < rows.length ∨ rows.length < page a) ∧
      ∀ scroll, title (offset a rows.length scroll) (lastOffset a rows.length) =
          " Help (? to close) " →
        ((∀ i < rows.length, InSight a rows.length scroll i) ↔ rows.length < page a) := by
  intro a rows
  have hroom : hasRoom a = true := hasRoom_area hw hh
  have hheight : 6 ≤ a.height := by
    simp only [hasRoom, Bool.and_eq_true, decide_eq_true_eq] at hroom
    exact hroom.2
  refine ⟨?_, fun i hi => exists_inSight_iff hheight hi, ?_⟩
  · intro scroll line x hline hx hx'
    have hscrolled : { app with helpScroll := scroll }.helpOpen = true := hopen
    obtain ⟨s, hs, hrender⟩ := exists_under_helpOverlay hw hh hscrolled
    rw [hrender]
    exact cellAt_draw hs hroom hline hx hx'
  · intro scroll htitle
    exact forall_inSight_iff hheight ((title_eq_iff _ _).mp htitle) scroll

/-- The listing of the default keys fills the page of 34 rows and its last row is not drawn, though
no counter says that there is more. -/
theorem last_row_out_of_sight :
    let app := { App.start {} [] with helpOpen := true }
    let a := area ⟨0, 0, 80, 47⟩
    minWidth ≤ 80 ∧ minHeight ≤ 47 ∧ app.helpOpen = true ∧ (rows app.keymap).length = 34 ∧
      page a = 34 ∧ title (offset a 34 0) (lastOffset a 34) = " Help (? to close) " ∧
      ¬ (∀ i < 34, InSight a 34 0 i) ∧ ¬ ∃ scroll, InSight a 34 scroll 33 := by
  intro app a
  have hcount : (rows app.keymap).length = 34 := by decide +kernel
  have hpage : page a = 34 := by decide
  have htitle : title (offset a 34 0) (lastOffset a 34) = " Help (? to close) " := by decide
  obtain ⟨_, hreach, hall⟩ := last_row_in_sight_iff app 80 47 (by decide) (by decide) rfl
  rw [hcount] at hreach hall
  change page (area ⟨0, 0, 80, 47⟩) = 34 at hpage
  rw [hpage] at hreach hall
  refine ⟨by decide, by decide, rfl, hcount, hpage, htitle, fun h => ?_, fun h => ?_⟩
  · have hless := (hall 0 htitle).mp h
    omega
  · have hless := (hreach 33 (by decide)).mp h
    omega

end DeviceChannels.HelpOverlay
