import DeviceChannels.Screen.Draw
import Mathlib.Data.List.Induction

/-! Drawing, cell by cell. A drawing changes each cell by itself, in the same way on every screen,
and leaves the cells outside its region alone. So what stands in a cell in the end is decided by
what was drawn over this cell. -/

namespace DeviceChannels

def Area.Has (a : Area) (x y : Nat) : Prop := a.x ≤ x ∧ x < a.right ∧ a.y ≤ y ∧ y < a.bottom

def Area.OnEdge (a : Area) (x y : Nat) : Prop :=
  x = a.x ∨ x = a.right - 1 ∨ y = a.y ∨ y = a.bottom - 1

theorem Area.mem_positions {a : Area} {x y : Nat} : (x, y) ∈ a.positions ↔ a.Has x y := by
  simp only [positions, List.mem_flatMap, List.mem_map, List.mem_range, Prod.mk.injEq, Has, right,
    bottom]
  constructor
  · rintro ⟨dy, hy, dx, hx, rfl, rfl⟩
    omega
  · rintro ⟨hx, hx', hy, hy'⟩
    exact ⟨y - a.y, by omega, x - a.x, by omega, by omega, by omega⟩

namespace Screen

/-- The cell at a position, if there is one. -/
def cellAt (s : Screen) (x y : Nat) : Option Cell :=
  if x < s.width then s.cells[y * s.width + x]? else none

theorem row_mul_add_inj {w x y x' y' : Nat} (hx : x < w) (hx' : x' < w) :
    y * w + x = y' * w + x' ↔ x' = x ∧ y' = y := by
  constructor
  · intro h
    have hrow {x : Nat} (hx : x < w) (y : Nat) : (y * w + x) / w = y := by
      rw [Nat.mul_comm, Nat.mul_add_div (by omega), Nat.div_eq_of_lt hx, Nat.add_zero]
    obtain rfl : y = y' := by rw [← hrow hx y, ← hrow hx' y', h]
    exact ⟨by omega, rfl⟩
  · rintro ⟨rfl, rfl⟩
    rfl

@[simp] theorem width_change (s : Screen) (x y : Nat) (f : Cell → Cell) :
    (s.change x y f).width = s.width := by
  simp only [change]
  split <;> rfl

@[simp] theorem height_change (s : Screen) (x y : Nat) (f : Cell → Cell) :
    (s.change x y f).height = s.height := by
  simp only [change]
  split <;> rfl

theorem cellAt_change (s : Screen) (x y : Nat) (f : Cell → Cell) (x' y' : Nat) :
    (s.change x y f).cellAt x' y' =
      if x' = x ∧ y' = y then (s.cellAt x' y').map f else s.cellAt x' y' := by
  by_cases hx : x < s.width
  · by_cases hx' : x' < s.width
    · simp [cellAt, change, hx, hx', Array.getElem?_modify, row_mul_add_inj hx hx']
    · simp [cellAt, change, hx, hx']
  · have hne : x' < s.width → x' ≠ x := fun hx' he => hx (he ▸ hx')
    by_cases hx' : x' < s.width <;> simp [cellAt, change, hx, hx', hne]

theorem cellAt_blank {w h x y : Nat} (hx : x < w) (hy : y < h) :
    (blank w h).cellAt x y = some {} := by
  have hin : y * w + x < w * h :=
    calc y * w + x < y * w + w := by omega
      _ = (y + 1) * w := by rw [Nat.add_mul, Nat.one_mul]
      _ ≤ h * w := Nat.mul_le_mul_right w hy
      _ = w * h := Nat.mul_comm h w
  simp [cellAt, blank, hx, hin]

def InRow (row _ y : Nat) : Prop := y = row

/-- Changes of single cells of a region, one after another. -/
inductive Drawing (P : Nat → Nat → Prop) : (Screen → Screen) → Prop
  | nothing : Drawing P fun s => s
  | change {D : Screen → Screen} (h : Drawing P D) {x y : Nat} (hp : P x y) (f : Cell → Cell) :
      Drawing P fun s => (D s).change x y f

namespace Drawing

variable {P Q : Nat → Nat → Prop} {D E : Screen → Screen} {s t : Screen} {x y : Nat}

theorem width (h : Drawing P D) (s : Screen) : (D s).width = s.width := by
  induction h with
  | nothing => rfl
  | change _ _ f ih => rw [width_change, ih]

theorem height (h : Drawing P D) (s : Screen) : (D s).height = s.height := by
  induction h with
  | nothing => rfl
  | change _ _ f ih => rw [height_change, ih]

theorem outside (h : Drawing P D) (hp : ¬ P x y) (s : Screen) :
    (D s).cellAt x y = s.cellAt x y := by
  induction h with
  | nothing => rfl
  | @change D _ x' y' hp' f ih =>
    have hne : ¬ (x = x' ∧ y = y') := by
      rintro ⟨rfl, rfl⟩
      exact hp hp'
    rw [cellAt_change, if_neg hne, ih]

theorem congr (h : Drawing P D) (hst : s.cellAt x y = t.cellAt x y) :
    (D s).cellAt x y = (D t).cellAt x y := by
  induction h with
  | nothing => exact hst
  | change _ _ f ih => rw [cellAt_change, cellAt_change, ih]

theorem isSome (h : Drawing P D) (s : Screen) :
    ((D s).cellAt x y).isSome = (s.cellAt x y).isSome := by
  induction h with
  | nothing => rfl
  | change _ _ f ih =>
    rw [cellAt_change]
    split
    · rw [Option.isSome_map, ih]
    · exact ih

theorem mono (h : Drawing P D) (hpq : ∀ x y, P x y → Q x y) : Drawing Q D := by
  induction h with
  | nothing => exact .nothing
  | change _ hp f ih => exact .change ih (hpq _ _ hp) f

theorem comp (hE : Drawing P E) (hD : Drawing P D) : Drawing P fun s => E (D s) := by
  induction hE with
  | nothing => exact hD
  | change _ hp f ih => exact .change ih hp f

theorem foldl {α : Type} {f : Screen → α → Screen} {l : List α}
    (h : ∀ b ∈ l, Drawing P fun s => f s b) : Drawing P fun s => l.foldl f s := by
  induction l with
  | nil => exact .nothing
  | cons b l ih =>
    obtain ⟨hb, hl⟩ := List.forall_mem_cons.mp h
    exact (ih hl).comp hb

theorem single (hp : P x y) (f : Cell → Cell) : Drawing P fun s => s.change x y f :=
  .change .nothing hp f

theorem put (hp : P x y) (symbol : List Char) (p : Paint) :
    Drawing P fun s => s.put x y symbol p :=
  single hp _

theorem changeAll {positions : List (Nat × Nat)} (h : ∀ p ∈ positions, P p.1 p.2)
    (f : Cell → Cell) : Drawing P fun s => s.changeAll positions f :=
  foldl fun p hp => single (h p hp) f

theorem paint {a : Area} (h : ∀ x y, a.Has x y → P x y) (p : Paint) :
    Drawing P fun s => s.paint a p :=
  changeAll (fun q hq => h q.1 q.2 (Area.mem_positions.mp hq)) _

theorem clear {a : Area} (h : ∀ x y, a.Has x y → P x y) : Drawing P fun s => s.clear a :=
  changeAll (fun q hq => h q.1 q.2 (Area.mem_positions.mp hq)) _

end Drawing

theorem cellAt_clear {s : Screen} {a : Area} {x y : Nat} (ha : a.Has x y)
    (hs : (s.cellAt x y).isSome) : (s.clear a).cellAt x y = some {} := by
  have hrun (positions : List (Nat × Nat)) (s : Screen) (hs : (s.cellAt x y).isSome)
      (hp : (x, y) ∈ positions ∨ s.cellAt x y = some {}) :
      (s.changeAll positions fun _ => {}).cellAt x y = some {} := by
    induction positions generalizing s with
    | nil => exact hp.resolve_left List.not_mem_nil
    | cons p ps ih =>
      have hstep : (s.change p.1 p.2 fun _ => {}).cellAt x y =
          if x = p.1 ∧ y = p.2 then some {} else s.cellAt x y := by
        obtain ⟨c, hc⟩ := Option.isSome_iff_exists.mp hs
        rw [cellAt_change, hc]
        rfl
      refine ih _ ?_ ?_
      · rw [hstep]
        split
        · rfl
        · exact hs
      · by_cases hxy : x = p.1 ∧ y = p.2
        · exact .inr (by rw [hstep, if_pos hxy])
        · rw [hstep, if_neg hxy]
          refine hp.imp_left fun hm => (List.mem_cons.mp hm).resolve_left ?_
          rintro rfl
          exact hxy ⟨rfl, rfl⟩
  exact hrun a.positions s hs (.inl (Area.mem_positions.mpr ha))

namespace Drawing

variable {P : Nat → Nat → Prop}

/-- What a pen does to the screen and where it goes from there do not depend on the screen. -/
theorem pen_draw (a : Area) (x : Nat) (started full : Bool) (g : Glyph) :
    ∃ D x' started' full', Drawing (InRow a.y) D ∧
      ∀ s, CellPen.draw a ⟨s, x, started, full⟩ g = ⟨D s, x', started', full'⟩ := by
  have hclear : Drawing (InRow a.y) fun s => s.clear ⟨x + 1, a.y, g.width - 1, 1⟩ :=
    clear fun x y h => by
      simp only [Area.Has, Area.bottom] at h
      simp only [InRow]
      omega
  have hput : Drawing (InRow a.y) fun s =>
      (s.put x a.y g.symbol g.paint).clear ⟨x + 1, a.y, g.width - 1, 1⟩ :=
    hclear.comp (put (P := InRow a.y) rfl _ _)
  have happend (x' : Nat) : Drawing (InRow a.y) fun s =>
      (s.change x' a.y fun c =>
        { symbol := c.symbol ++ g.symbol, style := c.style.painted g.paint }).clear
        ⟨x + 1, a.y, g.width - 1, 1⟩ :=
    hclear.comp (single (P := InRow a.y) rfl _)
  by_cases hfull : full || a.right < x + g.width
  · exact ⟨_, x, started, true, .nothing, fun s => by simp only [CellPen.draw, if_pos hfull]⟩
  by_cases hfirst : !started
  · exact ⟨_, x + g.width, true, false, hput,
      fun s => by simp only [CellPen.draw, if_neg hfull, if_pos hfirst]⟩
  by_cases hx : x = a.x
  · exact ⟨_, x + g.width, true, false, happend x,
      fun s => by simp only [CellPen.draw, if_neg hfull, if_neg hfirst, if_pos hx]⟩
  by_cases hw : g.width = 0
  · exact ⟨_, x + g.width, true, false, happend (x - 1),
      fun s => by simp only [CellPen.draw, if_neg hfull, if_neg hfirst, if_neg hx, if_pos hw]⟩
  · exact ⟨_, x + g.width, true, false, hput,
      fun s => by simp only [CellPen.draw, if_neg hfull, if_neg hfirst, if_neg hx, if_neg hw]⟩

theorem pen (a : Area) (gs : List Glyph) (x : Nat) (started full : Bool) :
    Drawing (InRow a.y)
      fun s => (gs.foldl (CellPen.draw a) ⟨s, x, started, full⟩).screen := by
  induction gs generalizing x started full with
  | nil => exact .nothing
  | cons g gs ih =>
    obtain ⟨D, x', started', full', hD, hdraw⟩ := pen_draw a x started full g
    simp only [List.foldl_cons, hdraw]
    exact (ih x' started' full').comp hD

theorem drawCell (a : Area) (text : String) :
    Drawing (InRow a.y) fun s => s.drawCell a text := by
  by_cases hnone : a.width = 0 ∨ Text.width text = 0
  · simp only [Screen.drawCell, hnone, if_true]
    exact .nothing
  · simp only [Screen.drawCell, hnone, if_false]
    exact pen a _ a.x false false

theorem drawBorder (a : Area) (title : String) (p : Paint) :
    Drawing a.OnEdge fun s => s.drawBorder a title p := by
  by_cases hnone : a.width = 0 ∨ a.height = 0
  · simp only [Screen.drawBorder, hnone, if_true]
    exact .nothing
  · simp only [Screen.drawBorder, hnone, if_false]
    have hrows : Drawing a.OnEdge fun s => ((List.range a.height).map (a.y + ·)).foldl
        (fun s y => (s.put a.x y ['│'] p).put (a.right - 1) y ['│'] p) s :=
      foldl fun y _ => (put (.inr (.inl rfl)) _ _).comp (put (.inl rfl) _ _)
    have hcolumns : Drawing a.OnEdge fun s => ((List.range a.width).map (a.x + ·)).foldl
        (fun s x => (s.put x a.y ['─'] p).put x (a.bottom - 1) ['─'] p) s :=
      foldl fun x _ => (put (.inr (.inr (.inr rfl))) _ _).comp (put (.inr (.inr (.inl rfl))) _ _)
    have htitle : Drawing a.OnEdge
        fun s => s.drawCell ⟨a.x + 1, a.y, a.width - 2, 1⟩ title :=
      (drawCell _ title).mono fun _ _ h => .inr (.inr (.inl h))
    exact htitle.comp <| (put (.inr (.inl rfl)) _ _).comp <| (put (.inl rfl) _ _).comp <|
      (put (.inr (.inl rfl)) _ _).comp <| (put (.inl rfl) _ _).comp <| hcolumns.comp hrows

theorem glyphs (y : Nat) (gs : List Glyph) (x : Nat) :
    Drawing (fun x' y' => x ≤ x' ∧ y' = y) fun s => (gs.foldl
      (fun (s, x) g => if g.width = 0 then (s, x) else (s.put x y g.symbol g.paint, x + g.width))
      (s, x)).1 := by
  induction gs generalizing x with
  | nil => exact .nothing
  | cons g gs ih =>
    by_cases hw : g.width = 0
    · simpa [hw] using ih x
    · have hrest := (ih (x + g.width)).mono (Q := fun x' y' => x ≤ x' ∧ y' = y)
        fun _ _ h => ⟨by omega, h.2⟩
      simpa [hw] using hrest.comp (put ⟨Nat.le_refl x, rfl⟩ g.symbol g.paint)

theorem drawLine (a : Area) (alignment : Alignment) (line : List Span) :
    Drawing (InRow a.y) fun s => s.drawLine a alignment line :=
  (glyphs a.y _ _).mono fun _ _ h => h.2

theorem drawParagraph (a : Area) (alignment : Alignment) (lines : List (List Span)) :
    Drawing (fun _ y => a.y ≤ y ∧ y < a.bottom) fun s => s.drawParagraph a alignment lines := by
  refine foldl fun (line, n) hn => (drawLine (a.row n) alignment line).mono ?_
  have hlt : n < a.height := by
    have hmem := List.snd_lt_of_mem_zipIdx hn
    rw [List.length_take] at hmem
    omega
  rintro _ y rfl
  simp only [Area.row, Area.bottom]
  omega

end Drawing

/-- Of things drawn each into a row of its own, a row shows one at most. -/
theorem cellAt_foldl_zipIdx {α : Type} {P : Nat → Nat → Nat → Prop} {f : α → Nat → Screen → Screen}
    (hf : ∀ b k, Drawing (P k) (f b k)) {x y n : Nat} (hp : ∀ k, P k x y → k = n) (l : List α)
    (s : Screen) :
    (l.zipIdx.foldl (fun s (b, k) => f b k s) s).cellAt x y =
      (l[n]?.elim s fun b => f b n s).cellAt x y := by
  induction l using List.reverseRecOn with
  | nil => rfl
  | append_singleton l b ih =>
    rw [List.zipIdx_append, List.foldl_append]
    simp only [List.zipIdx_cons, List.zipIdx_nil, List.foldl_cons, List.foldl_nil, Nat.zero_add]
    by_cases hn : l.length = n
    · subst hn
      have hnone : l[l.length]? = none := by simp
      rw [hnone] at ih
      simpa using (hf b l.length).congr ih
    · have hsame : (l ++ [b])[n]? = l[n]? := by
        rcases Nat.lt_or_gt_of_ne hn with hgt | hlt
        · rw [List.getElem?_eq_none (by simp; omega), List.getElem?_eq_none (Nat.le_of_lt hgt)]
        · exact List.getElem?_append_left hlt
      rw [(hf b l.length).outside (fun h => hn (hp _ h)), ih, hsame]

end Screen

end DeviceChannels
