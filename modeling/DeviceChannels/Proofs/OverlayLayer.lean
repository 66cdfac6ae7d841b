import DeviceChannels.Proofs.Drawing
import DeviceChannels.Screen.Render

/-! The layers of the screen. The overlay that is open is drawn last, over a screen that has all its
cells. -/

namespace DeviceChannels

open Screen

/-- A screen of that size with a cell at each position. -/
structure Screen.Full (w h : Nat) (s : Screen) : Prop where
  width : s.width = w
  height : s.height = h
  cells : ∀ x < w, ∀ y < h, (s.cellAt x y).isSome

namespace Screen.Full

variable {w h : Nat} {s : Screen} {P : Nat → Nat → Prop} {D : Screen → Screen}

theorem blank (w h : Nat) : Full w h (blank w h) where
  width := rfl
  height := rfl
  cells x hx y hy := by rw [cellAt_blank hx hy, Option.isSome_some]

theorem drawn (hs : Full w h s) (hD : Drawing P D) : Full w h (D s) where
  width := (hD.width s).trans hs.width
  height := (hD.height s).trans hs.height
  cells x hx y hy := by rw [hD.isSome]; exact hs.cells x hx y hy

theorem area (hs : Full w h s) : s.area = ⟨0, 0, w, h⟩ := by
  rw [Screen.area, hs.width, hs.height]

end Screen.Full

def Anywhere (_ _ : Nat) : Prop := True

theorem Screen.Drawing.anywhere {P : Nat → Nat → Prop} {D : Screen → Screen} (h : Drawing P D) :
    Drawing Anywhere D :=
  h.mono fun _ _ _ => trivial

namespace ChannelPanel

theorem drawing_drawRow (a : Area) (name usage available : String) :
    Drawing Anywhere fun s => drawRow s a name usage available :=
  (Drawing.drawCell _ _).anywhere.comp <| (Drawing.drawCell _ _).anywhere.comp
    (Drawing.drawCell _ _).anywhere

theorem drawing_drawTable (panel : Area) (selected : Nat) (rows : List ChannelRow) :
    Drawing Anywhere fun s => drawTable s panel selected rows := by
  have hhead : Drawing Anywhere fun s =>
      drawRow (s.paint (panel.inner.row 0) { bold := true }) (panel.inner.row 0) "Name" "Usage"
        "Available" :=
    (drawing_drawRow _ _ _ _).comp (Drawing.paint (fun _ _ _ => trivial) _)
  refine Drawing.comp (Drawing.foldl ?_) hhead
  rintro ⟨row, n⟩ _
  dsimp only
  split
  · exact (Drawing.paint (fun _ _ _ => trivial) _).comp (drawing_drawRow _ _ _ _)
  · exact drawing_drawRow _ _ _ _

theorem drawing_draw (a : Area) (app : App) : Drawing Anywhere fun s => draw s a app := by
  unfold draw
  cases app.grid.view.primary with
  | loading =>
    exact (Drawing.drawParagraph _ _ _).anywhere.comp (Drawing.drawBorder _ _ _).anywhere
  | empty =>
    exact (Drawing.drawParagraph _ _ _).anywhere.comp <|
      (Drawing.drawBorder _ _ _).anywhere.comp (Drawing.paint (fun _ _ _ => trivial) _)
  | rows rows =>
    exact (drawing_drawTable _ _ _).comp (Drawing.drawBorder _ _ _).anywhere

end ChannelPanel

theorem StatusBar.drawing_draw (a : Area) (app : App) :
    Drawing Anywhere fun s => draw s a app :=
  (Drawing.drawParagraph _ _ _).anywhere.comp (Drawing.paint (fun _ _ _ => trivial) _)

namespace Screen

variable {w h : Nat} {app : App}

theorem Full.confirmOverlay {s : Screen} (hs : Full w h s) (app : App) (surface : ConfirmSurface) :
    Full w h (ConfirmOverlay.draw s app surface) := by
  simp only [ConfirmOverlay.draw]
  split
  · exact hs
  · exact ((hs.drawn (Drawing.clear (P := Anywhere) fun _ _ _ => trivial)).drawn
      (Drawing.drawBorder _ _ _)).drawn (Drawing.drawParagraph _ _ _)

/-- What stands on the screen before the overlays are drawn. -/
def lowest (app : App) (w h : Nat) : Screen :=
  let s := (blank w h).drawHeader ((blank w h).area.row 0) app
  let s := ChannelPanel.draw s ⟨0, 1, s.width, s.height - 2⟩ app
  StatusBar.draw s (s.area.row (s.height - 1)) app

theorem full_lowest (app : App) (w h : Nat) : Full w h (lowest app w h) :=
  (((Full.blank w h).drawn (Drawing.drawParagraph _ _ _)).drawn
    (ChannelPanel.drawing_draw _ app)).drawn (StatusBar.drawing_draw _ app)

theorem render_eq_drawMain (app : App) (hw : minWidth ≤ w) (hh : minHeight ≤ h) :
    render app w h = (blank w h).drawMain app := by
  have hroom : ¬ (w < minWidth ∨ h < minHeight) := by omega
  rw [render, if_neg hroom]

theorem exists_under_confirmOverlay {surface : ConfirmSurface} (hw : minWidth ≤ w)
    (hh : minHeight ≤ h) (hs : app.grid.confirmSurface = some surface)
    (hclosed : app.helpOpen = false) :
    ∃ s, Full w h s ∧ render app w h = ConfirmOverlay.draw s app surface := by
  refine ⟨lowest app w h, full_lowest app w h, ?_⟩
  rw [render_eq_drawMain app hw hh]
  simp only [drawMain, hs, hclosed]
  rfl

theorem exists_under_helpOverlay (hw : minWidth ≤ w) (hh : minHeight ≤ h)
    (hopen : app.helpOpen = true) :
    ∃ s, Full w h s ∧ render app w h = HelpOverlay.draw s app := by
  rw [render_eq_drawMain app hw hh]
  simp only [drawMain, hopen, if_true]
  refine ⟨_, ?_, rfl⟩
  split
  · exact (full_lowest app w h).confirmOverlay app _
  · exact full_lowest app w h

end Screen

end DeviceChannels
