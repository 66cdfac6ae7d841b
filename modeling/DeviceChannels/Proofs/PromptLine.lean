import DeviceChannels.Proofs.OverlayLayer

/-! The prompt of a confirmation, which names the keys that confirm and that call off. It is the
last line of the overlay, and the overlay of a low screen ends before it. -/

namespace DeviceChannels

/-- A text of symbols that are one character and one column each. -/
def Text.Plain (cs : List Char) : Prop :=
  clusters cs = cs.map ([·]) ∧ ∀ c ∈ cs, widthChars [c] = 1

-- Left to itself, the search for an instance may come to one that runs through all characters.
instance (cs : List Char) : Decidable (Text.Plain cs) :=
  @instDecidableAnd _ _ _ (List.decidableBAll _ cs)

theorem fittingGlyphs_eq_self {width room : Nat} {gs : List Glyph} (hw : ∀ g ∈ gs, g.width = 1)
    (hroom : gs.length ≤ room) (hwidth : room ≤ width) : fittingGlyphs width room gs = gs := by
  induction gs generalizing room with
  | nil => rfl
  | cons g gs ih =>
    obtain ⟨hg, hgs⟩ := List.forall_mem_cons.mp hw
    rw [List.length_cons] at hroom
    have hi := ih hgs (by omega : gs.length ≤ room - 1) (by omega)
    rw [fittingGlyphs, hg, if_neg (by omega), if_neg (by omega), hi]

theorem foldl_width {gs : List Glyph} (hw : ∀ g ∈ gs, g.width = 1) (n : Nat) :
    gs.foldl (fun n g => n + g.width) n = n + gs.length := by
  induction gs generalizing n with
  | nil => rfl
  | cons g gs ih =>
    obtain ⟨hg, hgs⟩ := List.forall_mem_cons.mp hw
    rw [List.foldl_cons, ih hgs, hg, List.length_cons]
    omega

namespace Screen

/-- The text stands in a row of the screen, each character in a cell. -/
def Reads (s : Screen) (x y : Nat) (text : List Char) : Prop :=
  ∀ i (h : i < text.length), ∃ style, s.cellAt (x + i) y = some ⟨[text[i]], style⟩

theorem cellAt_glyphs {gs : List Glyph} (hw : ∀ g ∈ gs, g.width = 1) (s : Screen) (x y : Nat)
    {i : Nat} (hi : i < gs.length) :
    (gs.foldl (fun (s, x) g =>
      if g.width = 0 then (s, x) else (s.put x y g.symbol g.paint, x + g.width)) (s, x)).1.cellAt
        (x + i) y =
      (s.cellAt (x + i) y).map fun c => ⟨gs[i].symbol, c.style.painted gs[i].paint⟩ := by
  induction gs generalizing s x i with
  | nil => exact absurd hi (Nat.not_lt_zero i)
  | cons g gs ih =>
    obtain ⟨hg, hgs⟩ := List.forall_mem_cons.mp hw
    have hfirst : (if g.width = 0 then (s, x) else (s.put x y g.symbol g.paint, x + g.width)) =
        (s.put x y g.symbol g.paint, x + 1) := by rw [if_neg (by omega), hg]
    change (gs.foldl _ (if g.width = 0 then (s, x) else
      (s.put x y g.symbol g.paint, x + g.width))).1.cellAt _ _ = _
    rw [hfirst]
    cases i with
    | zero =>
      have hleft : ¬ (x + 1 ≤ x + 0 ∧ y = y) := by omega
      rw [(Drawing.glyphs y gs (x + 1)).outside hleft, put, cellAt_change, if_pos ⟨rfl, rfl⟩]
      rfl
    | succ i =>
      have hother : ¬ (x + (i + 1) = x ∧ y = y) := by omega
      have hstep := ih hgs (s.put x y g.symbol g.paint) (x + 1) (Nat.lt_of_succ_lt_succ hi)
      rw [Nat.add_assoc, Nat.add_comm 1 i] at hstep
      rw [hstep, put, cellAt_change, if_neg hother]
      rfl

theorem glyphs_plain {cs : List Char} (hplain : Text.Plain cs) :
    [({ text := cs } : Span)].flatMap Span.glyphs = cs.map fun c => ⟨[c], 1, {}⟩ := by
  rw [List.flatMap_singleton, Span.glyphs, hplain.1, List.map_map]
  apply List.map_congr_left
  intro c hc
  rw [Function.comp_apply, hplain.2 c hc]

/-- A plain text that fits stands in the middle of its row. -/
theorem reads_drawLine {cs : List Char} (hplain : Text.Plain cs) {s : Screen} {a : Area}
    (hfits : cs.length ≤ a.width)
    (hs : ∀ x, a.x ≤ x → x < a.right → (s.cellAt x a.y).isSome) :
    (s.drawLine a .center [{ text := cs }]).Reads (a.x + (a.width / 2 - cs.length / 2)) a.y cs := by
  intro i hi
  let gs : List Glyph := cs.map fun c => ⟨[c], 1, {}⟩
  have hone : ∀ g ∈ gs, g.width = 1 := by simp [gs]
  have hlength : gs.length = cs.length := List.length_map _
  have hfit : fittingGlyphs a.width a.width gs = gs :=
    fittingGlyphs_eq_self hone (hlength ▸ hfits) (Nat.le_refl _)
  have hcell := cellAt_glyphs hone s (a.x + (a.width / 2 - cs.length / 2)) a.y
    (hlength.symm ▸ hi : i < gs.length)
  obtain ⟨c, hc⟩ := Option.isSome_iff_exists.mp
    (hs (a.x + (a.width / 2 - cs.length / 2) + i) (by omega) (by simp only [Area.right]; omega))
  refine ⟨c.style.painted {}, ?_⟩
  simp only [drawLine, glyphs_plain hplain]
  rw [hfit, foldl_width hone, Nat.zero_add, hlength, hcell, hc]
  simp [gs]

/-- A line of a paragraph in a cleared box looks as on any screen that is blank there. -/
theorem cellAt_boxed {s t : Screen} {a : Area} {n x : Nat} {lines : List (List Span)}
    {line : List Span} (hn : n < a.inner.height) (hline : lines[n]? = some line) (hx : a.x < x)
    (hx' : x + 1 < a.right) (hs : (s.cellAt x (a.y + 1 + n)).isSome)
    (ht : t.cellAt x (a.y + 1 + n) = some {}) (title : String) (p : Paint)
    (alignment : Alignment) :
    (((s.clear a).drawBorder a title p).drawParagraph a.inner alignment lines).cellAt x
        (a.y + 1 + n) =
      (t.drawLine (a.inner.row n) alignment line).cellAt x (a.y + 1 + n) := by
  have hin : a.Has x (a.y + 1 + n) := by
    simp only [Area.inner] at hn
    simp only [Area.Has, Area.bottom]
    omega
  have hedge : ¬ a.OnEdge x (a.y + 1 + n) := by
    simp only [Area.inner] at hn
    simp only [Area.OnEdge, Area.bottom]
    omega
  have hunder : ((s.clear a).drawBorder a title p).cellAt x (a.y + 1 + n) =
      t.cellAt x (a.y + 1 + n) := by
    rw [(Drawing.drawBorder _ _ _).outside hedge, cellAt_clear hin hs, ht]
  have hrow (k : Nat) (hk : InRow (a.inner.row k).y x (a.y + 1 + n)) : k = n := by
    simp only [InRow, Area.inner, Area.row] at hk
    omega
  have honly := cellAt_foldl_zipIdx
    (f := fun line k s => s.drawLine (a.inner.row k) alignment line)
    (fun line k => Drawing.drawLine (a.inner.row k) alignment line) hrow
    (lines.take a.inner.height) ((s.clear a).drawBorder a title p)
  rw [List.getElem?_take_of_lt hn, hline] at honly
  exact honly.trans ((Drawing.drawLine _ _ _).congr hunder)

end Screen

namespace ConfirmOverlay

open Screen

variable {w h : Nat} {app : App} {surface : ConfirmSurface}

theorem sameKey_eq (a b : String) :
    sameKey a b = (a.toList.map Char.toLower == b.toList.map Char.toLower) := by
  rw [sameKey, Bool.eq_iff_iff, beq_iff_eq, beq_iff_eq, ← String.toList_inj, String.toList_map,
    String.toList_map]

theorem prompt_default : prompt Keymap.default = "(y) Delete  (n/Esc) Cancel" := by
  have hconfirm : confirmKey Keymap.default = "y" := by decide +kernel
  have hkeys : Keymap.default.keysFor .confirm .cancelDelete = ["n", "N", "Esc"] := by
    decide +kernel
  have hcancel : cancelKeys Keymap.default = ["n", "Esc"] := by
    simp [cancelKeys, hkeys, distinctKeys, sameKey_eq]
  rw [prompt, hconfirm, hcancel]
  decide +kernel

theorem plain_prompt : Text.Plain "(y) Delete  (n/Esc) Cancel".toList := by decide +kernel

theorem getLast?_lines (m : Keymap) (innerWidth : Nat) (surface : ConfirmSurface) :
    (lines m innerWidth surface).getLast? = some (prompt m) := by
  rw [lines, List.getLast?_append]
  rfl

theorem length_lines (m : Keymap) (innerWidth : Nat) (surface : ConfirmSurface) :
    (lines m innerWidth surface).length =
      5 + surface.channel.elim 0 fun c => if c.description.isEmpty then 1 else 2 := by
  cases hc : surface.channel with
  | none => simp [lines, hc]
  | some c =>
    rw [Option.elim_some]
    by_cases hd : c.description.isEmpty <;> simp only [lines, hc, details, hd] <;> rfl

theorem height_inner_area (w h lineCount : Nat) :
    (area ⟨0, 0, w, h⟩ lineCount).inner.height = min lineCount (h - 4) := by
  simp only [area, Area.centered, Area.inner]
  omega

theorem draw_eq {s : Screen} (hs : Full w h s) (hw : minWidth ≤ w) (hh : minHeight ≤ h)
    (app : App) (surface : ConfirmSurface) :
    let lines := lines app.keymap (width ⟨0, 0, w, h⟩ - 2) surface
    let a := area ⟨0, 0, w, h⟩ lines.length
    draw s app surface =
      ((s.clear a).drawBorder a " Confirm " { foreground := some .red }).drawParagraph a.inner
        .center (lines.map fun line => [.ofString line]) := by
  intro lines a
  have hroom : ¬ (a.width < 10 ∨ a.height < 5) := by
    have hlines : lines.length = _ := length_lines app.keymap _ surface
    simp only [minWidth, minHeight] at hw hh
    simp only [a, area, Area.centered, width]
    omega
  simp only [draw, hs.area]
  exact if_neg hroom

/-- Each line of the overlay looks as its text looks alone. -/
theorem cellAt_render (hw : minWidth ≤ w) (hh : minHeight ≤ h)
    (hsurface : app.grid.confirmSurface = some surface) (hclosed : app.helpOpen = false)
    {n x : Nat} {line : String} :
    let lines := lines app.keymap (width ⟨0, 0, w, h⟩ - 2) surface
    let a := area ⟨0, 0, w, h⟩ lines.length
    n < a.inner.height → lines[n]? = some line → a.x < x → x + 1 < a.right →
      (render app w h).cellAt x (a.y + 1 + n) =
        ((blank w h).drawLine (a.inner.row n) .center [.ofString line]).cellAt x (a.y + 1 + n) := by
  intro lines a hn hline hx hx'
  obtain ⟨s, hs, hrender⟩ := exists_under_confirmOverlay hw hh hsurface hclosed
  have hxw : x < w := by
    simp only [a, area, Area.centered, Area.right, width] at hx'
    omega
  have hyh : a.y + 1 + n < h := by
    simp only [a, area, Area.centered, Area.inner] at hn ⊢
    omega
  rw [hrender, draw_eq hs hw hh]
  refine cellAt_boxed hn ?_ hx hx' (hs.cells x hxw _ hyh) (cellAt_blank hxw hyh) _ _ _
  rw [List.getElem?_map, hline]
  rfl

theorem on_screen {count x y : Nat} (hx : x < (area ⟨0, 0, w, h⟩ count).inner.right)
    (hy : y < (area ⟨0, 0, w, h⟩ count).inner.bottom) (hw : minWidth ≤ w) (hh : minHeight ≤ h) :
    x < w ∧ y < h := by
  simp only [minWidth, minHeight] at hw hh
  simp only [area, Area.centered, Area.inner, Area.right, Area.bottom, width] at hx hy
  omega

/-- A plain line that fits can be read in the overlay. -/
theorem reads_render (hw : minWidth ≤ w) (hh : minHeight ≤ h)
    (hsurface : app.grid.confirmSurface = some surface) (hclosed : app.helpOpen = false)
    {n : Nat} {line : String} (hplain : Text.Plain line.toList) :
    let lines := lines app.keymap (width ⟨0, 0, w, h⟩ - 2) surface
    let a := area ⟨0, 0, w, h⟩ lines.length
    n < a.inner.height → lines[n]? = some line → line.toList.length ≤ a.inner.width →
      (render app w h).Reads (a.inner.x + (a.inner.width / 2 - line.toList.length / 2))
        (a.y + 1 + n) line.toList := by
  intro lines a hn hline hfits i hi
  have hrow : a.y + 1 + n < a.inner.bottom := Nat.add_lt_add_left hn _
  have hcells : ∀ x, a.inner.x ≤ x → x < a.inner.right →
      ((blank w h).cellAt x (a.y + 1 + n)).isSome := by
    intro x _ hx
    obtain ⟨hxw, hyh⟩ := on_screen hx hrow hw hh
    rw [cellAt_blank hxw hyh, Option.isSome_some]
  have hleft : a.inner.x = a.x + 1 := rfl
  have hwidth : a.inner.width = a.width - 2 := rfl
  have hright : a.right = a.x + a.width := rfl
  have hx : a.x < a.inner.x + (a.inner.width / 2 - line.toList.length / 2) + i := by omega
  have hx' : a.inner.x + (a.inner.width / 2 - line.toList.length / 2) + i + 1 < a.right := by omega
  rw [cellAt_render hw hh hsurface hclosed hn hline hx hx']
  exact reads_drawLine hplain (a := a.inner.row n) hfits hcells i hi

/-- An overlay with room for all its lines ends with the prompt. It has the room if the screen is
four rows higher than there are lines; on a lower one it shows the first lines only. -/
theorem prompt_in_overlay_iff (app : App) (surface : ConfirmSurface) (w h : Nat)
    (hw : minWidth ≤ w) (hh : minHeight ≤ h) (hsurface : app.grid.confirmSurface = some surface)
    (hclosed : app.helpOpen = false) (hkeys : app.keymap = Keymap.default) :
    let lines := lines app.keymap (width ⟨0, 0, w, h⟩ - 2) surface
    let a := area ⟨0, 0, w, h⟩ lines.length
    let prompt := "(y) Delete  (n/Esc) Cancel"
    lines.getLast? = some prompt ∧
      (lines.length =
        5 + surface.channel.elim 0 fun c => if c.description.isEmpty then 1 else 2) ∧
      (∀ n x line, n < a.inner.height → lines[n]? = some line → a.x < x → x + 1 < a.right →
        (render app w h).cellAt x (a.y + 1 + n) =
          ((blank w h).drawLine (a.inner.row n) .center [.ofString line]).cellAt x (a.y + 1 + n)) ∧
      (lines.length ≤ a.inner.height ↔ lines.length + 4 ≤ h) ∧
      (lines.length ≤ a.inner.height →
        (render app w h).Reads (a.inner.x + (a.inner.width / 2 - 13))
          (a.y + 1 + (lines.length - 1)) prompt.toList) := by
  intro lines a prompt
  have hlast : lines.getLast? = some prompt := by
    rw [getLast?_lines, hkeys, prompt_default]
  have hlength : lines.length = _ := length_lines app.keymap _ surface
  have hinner : a.inner.height = min lines.length (h - 4) := height_inner_area w h lines.length
  refine ⟨hlast, hlength, ?_, by omega, ?_⟩
  · intro n x line hn hline hx hx'
    exact cellAt_render hw hh hsurface hclosed hn hline hx hx'
  · intro hfits
    have hline : lines[lines.length - 1]? = some prompt := by
      rw [← List.getLast?_eq_getElem?, hlast]
    have hlen : prompt.toList.length = 26 := by decide +kernel
    have hwidth : 34 ≤ a.inner.width := by
      simp only [minWidth] at hw
      simp only [a, area, Area.centered, Area.inner, width]
      omega
    have hroom : prompt.toList.length ≤ a.inner.width := by omega
    have hreads := reads_render hw hh hsurface hclosed plain_prompt
      (by omega : lines.length - 1 < a.inner.height) hline hroom
    rwa [hlen] at hreads

/-- The overlay of a channel without description shows its prompt on a screen of ten rows, not on
the least screen that the program asks for. -/
theorem prompt_missing_on_least_screen :
    let c : Channel := .ofCounts "a" "Alpha" 1 2
    let app := App.start {} [c]
    let app := { app with grid := app.grid.requestDelete "a" }
    let lines := lines app.keymap (width ⟨0, 0, minWidth, minHeight⟩ - 2) ⟨"a", some c⟩
    app.grid.confirmSurface = some ⟨"a", some c⟩ ∧ app.helpOpen = false ∧
      app.keymap = Keymap.default ∧
      ¬ lines.length ≤ (area ⟨0, 0, minWidth, minHeight⟩ lines.length).inner.height ∧
      (render app minWidth 10).Reads 7 7 "(y) Delete  (n/Esc) Cancel".toList := by
  intro c app app lines
  have hsurface : app.grid.confirmSurface = some ⟨"a", some c⟩ := rfl
  obtain ⟨_, hlength, _, hiff, _⟩ := prompt_in_overlay_iff app ⟨"a", some c⟩ minWidth minHeight
    (Nat.le_refl _) (Nat.le_refl _) hsurface rfl rfl
  obtain ⟨_, _, _, _, hreads⟩ := prompt_in_overlay_iff app ⟨"a", some c⟩ minWidth 10
    (Nat.le_refl _) (by decide) hsurface rfl rfl
  have hsix : lines.length = 6 := hlength
  refine ⟨hsurface, rfl, rfl, fun h => ?_, ?_⟩
  · have hlow : lines.length + 4 ≤ minHeight := hiff.mp h
    rw [hsix] at hlow
    exact absurd hlow (by decide)
  · change lines.length ≤ (area ⟨0, 0, minWidth, 10⟩ lines.length).inner.height → _ at hreads
    have hten := hreads (by rw [hsix]; decide)
    change Reads _ ((area ⟨0, 0, minWidth, 10⟩ lines.length).inner.x +
      ((area ⟨0, 0, minWidth, 10⟩ lines.length).inner.width / 2 - 13))
      ((area ⟨0, 0, minWidth, 10⟩ lines.length).y + 1 + (lines.length - 1)) _ at hten
    rw [hsix] at hten
    exact hten

end ConfirmOverlay

end DeviceChannels
