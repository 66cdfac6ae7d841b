import DeviceChannels.Proofs.CleanLabel
import DeviceChannels.Text.Width

/-! Columns of a text and columns of its characters. A text takes no more columns than its characters
do, but for one-column characters that the emoji selector widens. -/

namespace DeviceChannels.Text

namespace CodePoints

def Apart (s t : CodePoints) : Prop := ∀ r ∈ s, ∀ q ∈ t, r.2 < q.1 ∨ q.2 < r.1

def Within (s t : CodePoints) : Prop := ∀ r ∈ s, ∃ q ∈ t, q.1 ≤ r.1 ∧ r.2 ≤ q.2

instance (s t : CodePoints) : Decidable (s.Apart t) :=
  inferInstanceAs (Decidable (∀ r ∈ s, ∀ q ∈ t, _))

instance (s t : CodePoints) : Decidable (s.Within t) :=
  inferInstanceAs (Decidable (∀ r ∈ s, ∃ q ∈ t, _))

variable {s t : CodePoints} {c : Char}

theorem has_iff : s.has c = true ↔ ∃ r ∈ s, r.1 ≤ c.toNat ∧ c.toNat ≤ r.2 := by
  simp [has]

theorem Apart.has_eq_false (h : s.Apart t) (hc : s.has c = true) : t.has c = false := by
  rw [Bool.eq_false_iff]
  intro ht
  obtain ⟨r, hr, hlo, hhi⟩ := has_iff.mp hc
  obtain ⟨q, hq, hlo', hhi'⟩ := has_iff.mp ht
  rcases h r hr q hq with hlt | hlt
  · omega
  · omega

theorem Within.has (h : s.Within t) (hc : s.has c = true) : t.has c = true := by
  obtain ⟨r, hr, hlo, hhi⟩ := has_iff.mp hc
  obtain ⟨q, hq, hlo', hhi'⟩ := h r hr
  exact has_iff.mpr ⟨q, hq, by omega, by omega⟩

end CodePoints

/-- Ranges that no character without a column is in. -/
def visible : CodePoints :=
  [(0x20, 0xAC), (0xAE, 0x2FF), (0x2030, 0x205F), (0x20F1, 0x2CEE), (0x2D7F, 0x2D7F),
   (0x3030, 0x3098), (0x3165, 0xA66E), (0x16D68, 0x16D68), (0x1F000, 0x1FFFF)]

def zeroWidth : CodePoints := zeroWidthBelow3000 ++ zeroWidthFrom3000 ++ zeroWidthSupplementary

theorem visible_apart : visible.Apart zeroWidth := by decide +kernel

theorem emojiVariationBase_within : emojiVariationBase.Within visible := by decide +kernel

theorem zeroWidth_has {c : Char} (h : isZeroWidth c = true) : zeroWidth.has c = true := by
  simp only [zeroWidth, CodePoints.has, List.any_append, Bool.or_eq_true]
  unfold isZeroWidth at h
  split at h
  · exact .inl (.inl h)
  split at h
  · exact .inl (.inr h)
  · exact .inr h

theorem one_le_plainWidth {c : Char} (h : visible.has c = true) : 1 ≤ plainWidth c := by
  have hz : isZeroWidth c = false := by
    rw [Bool.eq_false_iff]
    intro hz
    exact absurd (zeroWidth_has hz) (Bool.eq_false_iff.mp (visible_apart.has_eq_false h))
  unfold plainWidth
  rw [hz]
  split
  · exact Nat.le_refl 1
  split
  · decide
  · simp only [Bool.false_eq_true, if_false]
    split <;> decide

/-- Columns that the characters read so far have taken less than they do alone, and that the next flag
takes in addition. -/
def Neighbour.owed : Neighbour → Int
  | .joinedEvenIndicators => 2
  | _ => 0

@[simp] theorem Neighbour.owed_plain : Neighbour.plain.owed = 0 := rfl

@[simp] theorem Neighbour.owed_picture : Neighbour.picture.owed = 0 := rfl

theorem Neighbour.owed_nonneg (k : Neighbour) : 0 ≤ k.owed := by
  cases k with
  | joinedTagLetters count | joinedTagDigits count => exact Int.le_refl 0
  | _ => decide

theorem owed_neighbourOf (c : Char) : (neighbourOf c).owed = 0 := by
  simp only [neighbourOf, apply_ite Neighbour.owed]
  simp only [Neighbour.owed, ite_self]

def emojiSelector : Char := '\uFE0F'

def offer (k : Neighbour) : Following := ⟨k, .none, false⟩

/-- What a character takes that is drawn as one with its neighbour. -/
inductive Joined (c : Char) (f : Following) : Int × Following → Prop
  | hidden {width : Int} {k : Neighbour} (width_le : width ≤ 0) (settled : k.owed = 0) :
      Joined c f (width, offer k)
  | shown {k : Neighbour} (visible : visible.has c = true) (settled : k.owed = 0) :
      Joined c f (1, offer k)
  | owing {k : Neighbour} (visible : visible.has c = true) (owed : k.owed = 2) :
      Joined c f (-1, offer k)
  | paid {k : Neighbour} (visible : visible.has c = true) (owed : f.neighbour.owed = 2)
      (settled : k.owed = 0) : Joined c f (3, offer k)

def Joins (c : Char) (f : Following) (o : Option (Int × Following)) : Prop :=
  ∀ r, o = some r → Joined c f r

theorem visible_of_code {c : Char} {n : Nat} (hc : (c.toNat == n) = true)
    (hn : ∃ r ∈ visible, r.1 ≤ n ∧ n ≤ r.2) : visible.has c = true := by
  rw [← eq_of_beq hc] at hn
  exact CodePoints.has_iff.mpr hn

theorem visible_of_le {c : Char} (hc : isControl c = false) (h : c.toNat ≤ 0xA0) :
    visible.has c = true := by
  simp only [isControl, Bool.or_eq_false_iff, decide_eq_false_iff_not] at hc
  exact CodePoints.has_iff.mpr ⟨(0x20, 0xAC), by simp [visible], by omega, by omega⟩

theorem visible_of_isRegionalIndicator {c : Char} (h : isRegionalIndicator c = true) :
    visible.has c = true := by
  simp only [isRegionalIndicator, Bool.and_eq_true, decide_eq_true_eq] at h
  exact CodePoints.has_iff.mpr ⟨(0x1F000, 0x1FFFF), by simp [visible], by omega, by omega⟩

section

variable {c : Char} {f : Following}

theorem Joins.none : Joins c f none := by
  intro r h
  cases h

theorem Joins.of_some {r : Int × Following} (h : Joined c f r) : Joins c f (some r) := by
  intro q hq
  cases hq
  exact h

theorem Joins.ite {p : Prop} [Decidable p] {a b : Option (Int × Following)}
    (ha : p → Joins c f a) (hb : Joins c f b) : Joins c f (if p then a else b) := by
  split
  · next hp => exact ha hp
  · exact hb

theorem Joins.hidden_or {p : Prop} [Decidable p] {width : Int} {k : Neighbour}
    {rest : Option (Int × Following)} (hw : width ≤ 0) (hk : k.owed = 0) (hr : Joins c f rest) :
    Joins c f (if p then some (width, offer k) else rest) :=
  .ite (fun _ => .of_some (.hidden hw hk)) hr

theorem Joins.indicator_or {r : Int × Following} {rest : Option (Int × Following)}
    (h : visible.has c = true → Joined c f r) (hr : Joins c f rest) :
    Joins c f (if isRegionalIndicator c then some r else rest) :=
  .ite (fun hc => .of_some (h (visible_of_isRegionalIndicator hc))) hr

theorem Joins.code_or {n : Nat} {r : Int × Following} {rest : Option (Int × Following)}
    (hn : ∃ q ∈ visible, q.1 ≤ n ∧ n ≤ q.2) (h : visible.has c = true → Joined c f r)
    (hr : Joins c f rest) : Joins c f (if c.toNat == n then some r else rest) :=
  .ite (fun hc => .of_some (h (visible_of_code hc hn))) hr

theorem joins_joinedColumns (c : Char) (f : Following) : Joins c f (joinedColumns c f) := by
  unfold joinedColumns
  cases hf : f.neighbour with
  | tifinagh =>
    apply Joins.code_or (by decide)
    · intro hc
      exact .shown hc rfl
    · exact .hidden_or (by decide) rfl .none
  | kiratE =>
    refine .hidden_or (by decide) rfl (.hidden_or (by decide) rfl ?_)
    apply Joins.code_or (by decide)
    · intro hc
      exact .shown hc rfl
    · exact .none
  | indicator =>
    apply Joins.indicator_or
    · intro hc
      exact .shown hc rfl
    · exact .none
  | indicators =>
    apply Joins.indicator_or
    · intro hc
      exact .shown hc rfl
    · exact .hidden_or (by decide) rfl .none
  | joinedPicture =>
    apply Joins.hidden_or (by decide) rfl
    apply Joins.indicator_or
    · intro hc
      exact .shown hc rfl
    · refine .hidden_or (by decide) rfl (.hidden_or (by decide) rfl ?_)
      exact .hidden_or (by decide) rfl .none
  | joinedIndicator =>
    apply Joins.indicator_or
    · intro hc
      exact .owing hc rfl
    · exact .none
  | joinedOddIndicators =>
    apply Joins.indicator_or
    · intro hc
      exact .owing hc rfl
    · exact .hidden_or (by decide) rfl .none
  | joinedEvenIndicators =>
    apply Joins.indicator_or
    · intro hc
      exact .paid hc (by rw [hf]; rfl) rfl
    · exact .hidden_or (by decide) rfl .none
  | _ =>
    -- Before any other neighbour, what joins is hidden.
    dsimp only
    repeat' split
    all_goals first
      | exact .none
      | exact .of_some (.hidden (by decide) rfl)

structure Fits (bound : Int) (c : Char) (r : Int × Following) : Prop where
  columns_le : r.1 + r.2.neighbour.owed ≤ bound
  selector : r.2.selector = .emoji → c = emojiSelector

theorem Fits.mono {b b' : Int} {r : Int × Following} (h : Fits b c r) (hb : b ≤ b') :
    Fits b' c r :=
  ⟨Int.le_trans h.columns_le hb, h.selector⟩

theorem eq_emojiSelector (h : (c.toNat == 0xFE0F) = true) : c = emojiSelector :=
  Char.toNat_inj.mp (eq_of_beq h)

theorem Joined.fits {r : Int × Following} (h : Joined c f r) :
    Fits (plainWidth c + f.neighbour.owed) c r := by
  have hf := f.neighbour.owed_nonneg
  cases h with
  | hidden width_le settled =>
    refine ⟨?_, nofun⟩
    simp only [offer, settled]
    omega
  | shown visible settled =>
    have hc := one_le_plainWidth visible
    refine ⟨?_, nofun⟩
    simp only [offer, settled]
    omega
  | owing visible owed =>
    have hc := one_le_plainWidth visible
    refine ⟨?_, nofun⟩
    simp only [offer, owed]
    omega
  | paid visible owed settled =>
    have hc := one_le_plainWidth visible
    refine ⟨?_, nofun⟩
    simp only [offer, settled, owed]
    omega

theorem fits_ownColumns (c : Char) : Fits (plainWidth c) c (ownColumns c) := by
  constructor
  · simp [ownColumns, owed_neighbourOf]
  · intro h
    simp only [ownColumns] at h
    split at h
    · next hc => exact eq_emojiSelector hc
    · split at h <;> cases h

theorem one_le_of_narrowsAsText (h : narrowsAsText c = true) : 1 ≤ plainWidth c := by
  simp only [narrowsAsText, Bool.and_eq_true] at h
  exact one_le_plainWidth (emojiVariationBase_within.has h.1.2)

theorem fits_columnsBefore (c : Char) (f : Following) :
    Fits (plainWidth c + f.neighbour.owed) c (columnsBefore c f) := by
  have hf := f.neighbour.owed_nonneg
  have hplain {width : Int} {k : Selector} {joiner : Bool} (hw : width ≤ plainWidth c)
      (hk : k = .emoji → c = emojiSelector) :
      Fits (plainWidth c + f.neighbour.owed) c (width, ⟨.plain, k, joiner⟩) :=
    ⟨by rw [Neighbour.owed_plain]; omega, hk⟩
  have hkept {k : Selector} {joiner : Bool} (hk : k = .emoji → c = emojiSelector) :
      Fits (plainWidth c + f.neighbour.owed) c (0, ⟨f.neighbour, k, joiner⟩) :=
    ⟨by dsimp only; omega, hk⟩
  unfold columnsBefore
  dsimp only
  split
  · exact (fits_ownColumns c).mono (by omega)
  split
  · next hc =>
    have hs (_ : Selector.emoji = .emoji) := eq_emojiSelector hc
    split
    · exact hkept hs
    · exact hplain (by omega) hs
  split
  · split
    · exact hkept nofun
    · exact hplain (by omega) nofun
  split
  · next hc =>
    have h1 := one_le_of_narrowsAsText (Bool.and_eq_true_iff.mp hc).2
    exact hplain (by omega) nofun
  split
  · exact hkept nofun
  split
  · exact hkept nofun
  cases hj : joinedColumns c ⟨f.neighbour, .none, f.joiner⟩ with
  | none => exact (fits_ownColumns c).mono (by omega)
  | some r => exact (joins_joinedColumns c _ r hj).fits

theorem one_le_charWidth (hb : emojiVariationBase.has c = true) (hc : isControl c = false) :
    1 ≤ charWidth c := by
  simpa [charWidth, hc] using one_le_plainWidth (emojiVariationBase_within.has hb)

/-- The column that the emoji selector in `f` adds to `c`. -/
def bonus (c : Char) (f : Following) : Int :=
  if f.selector = .emoji ∧ emojiVariationBase.has c = true ∧ charWidth c = 1 then 1 else 0

theorem fits_columns (hc : isControl c = false) (f : Following) :
    Fits (charWidth c + f.neighbour.owed + bonus c f) c (columns c f) := by
  have hf := f.neighbour.owed_nonneg
  have hb : 0 ≤ bonus c f := by
    unfold bonus
    split <;> decide
  have hw : charWidth c = plainWidth c := by simp [charWidth, hc]
  unfold columns
  split
  · next h =>
    obtain ⟨hs, he⟩ : f.selector = .emoji ∧ emojiVariationBase.has c = true := by simpa using h
    have h1 := one_le_charWidth he hc
    have h2 : (2 : Int) ≤ charWidth c + bonus c f := by
      simp only [bonus, hs, he, true_and]
      split <;> omega
    refine ⟨?_, nofun⟩
    rw [Neighbour.owed_picture]
    split <;> omega
  · dsimp only
    -- `g` is `f` without an emoji selector, which has no letter to widen here.
    generalize hg : (if f.selector = .emoji then _ else f) = g
    have hk : g.neighbour.owed ≤ f.neighbour.owed := by
      rw [← hg]
      split
      · split
        · exact Int.le_refl _
        · exact hf
      · exact Int.le_refl _
    split
    · next hlow =>
      have h1 : 1 ≤ plainWidth c := one_le_plainWidth (visible_of_le hc hlow)
      -- A line end is a control character, so `c` is none.
      split
      · next h =>
        subst h
        cases hc
      split
      · next h =>
        have hr : c = '\r' := by simpa using (Bool.and_eq_true_iff.mp h).1
        subst hr
        cases hc
      · exact ⟨by rw [Neighbour.owed_plain]; omega, nofun⟩
    · exact (fits_columnsBefore c g).mono (by omega)

end

/-- A character of one column in front of the selector that makes it a picture of two. -/
def isWidened (c d : Char) : Bool :=
  emojiVariationBase.has c && charWidth c == 1 && d == emojiSelector

def widened : List Char → Nat
  | [] => 0
  | c :: cs => (if cs.head?.any (isWidened c) then 1 else 0) + widened cs

def charColumns : List Char → Nat
  | [] => 0
  | c :: cs => charWidth c + charColumns cs

theorem charColumns_append (as bs : List Char) :
    charColumns (as ++ bs) = charColumns as + charColumns bs := by
  induction as with
  | nil => exact (Nat.zero_add _).symm
  | cons a as ih =>
    rw [List.cons_append, charColumns, charColumns, ih]
    exact (Nat.add_assoc _ _ _).symm

theorem widened_le_charColumns (cs : List Char) : widened cs ≤ charColumns cs := by
  induction cs with
  | nil => exact Nat.le_refl 0
  | cons c cs ih =>
    rw [widened, charColumns]
    have hc : (if cs.head?.any (isWidened c) then 1 else 0) ≤ charWidth c := by
      split
      · next h =>
        obtain ⟨d, -, hd⟩ := (Option.any_eq_true _ _).mp h
        simp only [isWidened, Bool.and_eq_true, beq_iff_eq] at hd
        omega
      · exact Nat.zero_le _
    omega

structure Measured (cs : List Char) (r : Int × Following) : Prop where
  columns_le : r.1 + r.2.neighbour.owed ≤ charColumns cs + widened cs
  selector : r.2.selector = .emoji → cs.head? = some emojiSelector

theorem Measured.bonus_le {cs : List Char} {r : Int × Following} (h : Measured cs r) (c : Char) :
    bonus c r.2 ≤ ((if cs.head?.any (isWidened c) then 1 else 0 : Nat) : Int) := by
  unfold bonus
  split
  · next hb =>
    obtain ⟨hs, he, hw⟩ := hb
    simp [h.selector hs, isWidened, he, hw]
  · omega

theorem Measured.cons {c : Char} {cs : List Char} {r : Int × Following} (h : Measured cs r)
    (hc : isControl c = false) : Measured (c :: cs) (addColumns c r) := by
  have hfits := fits_columns hc r.2
  constructor
  · have hle := hfits.columns_le
    have hrest := h.columns_le
    have hb := h.bonus_le c
    simp only [addColumns, charColumns, widened]
    omega
  · intro hs
    rw [hfits.selector hs, List.head?_cons]

theorem measured_of_clean {cs : List Char} (h : Clean cs) :
    Measured cs (cs.foldr addColumns (0, {})) := by
  induction cs with
  | nil => exact ⟨by decide, nofun⟩
  | cons c cs ih =>
    obtain ⟨hc, hcs⟩ := List.forall_mem_cons.mp h
    exact (ih hcs).cons hc

theorem widthChars_le {cs : List Char} (h : Clean cs) :
    widthChars cs ≤ charColumns cs + widened cs := by
  have hle := (measured_of_clean h).columns_le
  have ho := Neighbour.owed_nonneg (cs.foldr addColumns (0, {})).2.neighbour
  unfold widthChars
  omega

/-- One digit and two letters name no region, so the flag before them and the picture that they are
joined with take two columns each. -/
example : widthChars ([0x1F3F4, 0xE0030, 0xE0061, 0xE0062, 0xE007F, 0x200D, 0x1F600].map Char.ofNat) =
    4 := by
  decide +kernel

end DeviceChannels.Text
