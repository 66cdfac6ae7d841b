import DeviceChannels.Proofs.TextWidth
import Mathlib.Order.Bounds.Basic
import Mathlib.Data.List.Infix

/-! Columns of a cut label. The beginning that is kept fits when its characters are measured one by
one, so on the screen it is too wide by the characters in it that the emoji selector widens, and it
can consist of such characters. -/

namespace DeviceChannels.Text

/-- Columns for the kept beginning of a text. -/
def budget (columns : Nat) : Nat :=
  if columns ≤ ellipsis.length then columns else columns - ellipsis.length

def dots (columns : Nat) : List Char := if columns ≤ ellipsis.length then [] else ellipsis

theorem budget_add_length_dots (columns : Nat) :
    budget columns + (dots columns).length = columns := by
  unfold budget dots
  split
  · exact Nat.add_zero columns
  · next h => exact Nat.sub_add_cancel (Nat.le_of_not_le h)

theorem budget_eq_zero_iff {columns : Nat} : budget columns = 0 ↔ columns = 0 := by
  unfold budget
  split <;> omega

theorem cutChars_eq (columns : Nat) (cs : List Char) :
    cutChars columns cs = takeColumns (budget columns) cs ++ dots columns := by
  unfold cutChars budget dots
  split
  · exact (List.append_nil _).symm
  · rfl

section

variable (n : Nat) (cs : List Char)

theorem charColumns_dots : charColumns (dots n) = (dots n).length := by
  unfold dots
  split <;> decide

theorem eq_dot_of_mem_dots {c : Char} (h : c ∈ dots n) : c = '.' := by
  unfold dots at h
  split at h
  · cases h
  · simpa [ellipsis] using h

theorem clean_dots : Clean (dots n) := by
  intro c hc
  rw [eq_dot_of_mem_dots n hc]
  rfl

theorem takeColumns_isPrefix : takeColumns n cs <+: cs := by
  induction cs generalizing n with
  | nil => exact List.prefix_refl _
  | cons c cs ih =>
    rw [takeColumns]
    split
    · exact List.cons_prefix_cons.mpr ⟨rfl, ih _⟩
    · exact List.nil_prefix

theorem charColumns_takeColumns_le : charColumns (takeColumns n cs) ≤ n := by
  induction cs generalizing n with
  | nil => exact Nat.zero_le n
  | cons c cs ih =>
    rw [takeColumns]
    split
    · next h =>
      have hrest := ih (n - charWidth c)
      rw [charColumns]
      omega
    · exact Nat.zero_le n

theorem widened_append_dots : widened (cs ++ dots n) = widened cs := by
  have hhead (d : Char) (hd : (dots n).head? = some d) : d ≠ emojiSelector := by
    rw [eq_dot_of_mem_dots n (List.mem_of_head? hd)]
    decide
  induction cs with
  | nil =>
    unfold dots
    split <;> decide
  | cons c cs ih =>
    rw [List.cons_append, widened, widened, ih]
    cases cs with
    | cons d cs => rfl
    | nil =>
      cases hd : (dots n).head? with
      | none => simp [hd]
      | some d => simp [hd, isWidened, hhead d hd]

end

theorem widened_le_of_prefix {as bs : List Char} (h : as <+: bs) : widened as ≤ widened bs := by
  induction as generalizing bs with
  | nil => exact Nat.zero_le _
  | cons a as ih =>
    obtain ⟨bs, rfl, hrest⟩ := List.cons_prefix_iff.mp h
    rw [widened, widened]
    refine Nat.add_le_add ?_ (ih hrest)
    cases as with
    | nil => exact Nat.zero_le _
    | cons b as =>
      obtain ⟨bs, rfl, -⟩ := List.cons_prefix_iff.mp hrest
      exact Nat.le_refl _

section

variable {s : String} (n : Nat)

theorem width_ofList_cutChars_le {cs : List Char} (h : Clean cs) :
    width (String.ofList (cutChars n cs)) ≤ n + widened (takeColumns (budget n) cs) := by
  have hkept : Clean (takeColumns (budget n) cs) :=
    fun c hc => h c ((takeColumns_isPrefix _ cs).subset hc)
  have hclean : Clean (takeColumns (budget n) cs ++ dots n) :=
    List.forall_mem_append.mpr ⟨hkept, clean_dots n⟩
  calc width (String.ofList (cutChars n cs))
      = widthChars (takeColumns (budget n) cs ++ dots n) := by
        rw [width, String.toList_ofList, cutChars_eq]
    _ ≤ charColumns (takeColumns (budget n) cs) + (dots n).length
          + widened (takeColumns (budget n) cs) := by
        simpa only [charColumns_append, charColumns_dots, widened_append_dots]
          using widthChars_le hclean
    _ ≤ budget n + (dots n).length + widened (takeColumns (budget n) cs) := by
        have hfit := charColumns_takeColumns_le (budget n) cs
        omega
    _ = n + widened (takeColumns (budget n) cs) := by rw [budget_add_length_dots]

theorem width_cut_le_add_widened (h : Clean s.toList) :
    width (cut n s) ≤ n + widened (cut n s).toList := by
  unfold cut
  split
  · omega
  · have hle := width_ofList_cutChars_le n h
    rwa [String.toList_ofList, cutChars_eq, widened_append_dots, ← cutChars_eq]

theorem widened_cut_le : widened (cut n s).toList ≤ widened s.toList := by
  unfold cut
  split
  · exact Nat.le_refl _
  · rw [String.toList_ofList, cutChars_eq, widened_append_dots]
    exact widened_le_of_prefix (takeColumns_isPrefix _ _)

theorem width_cut_le_add_budget (h : Clean s.toList) : width (cut n s) ≤ n + budget n := by
  unfold cut
  split
  · omega
  · have hle := width_ofList_cutChars_le n h
    have hw := widened_le_charColumns (takeColumns (budget n) s.toList)
    have hfit := charColumns_takeColumns_le (budget n) s.toList
    omega

end

def heart : Char := '\u2764'

def hearts : Nat → List Char
  | 0 => []
  | k + 1 => heart :: emojiSelector :: hearts k

theorem clean_hearts (k : Nat) : Clean (hearts k) := by
  induction k with
  | zero => exact List.forall_mem_nil _
  | succ k ih =>
    have hrest : Clean (emojiSelector :: hearts k) := List.forall_mem_cons.mpr ⟨by decide, ih⟩
    exact List.forall_mem_cons.mpr ⟨by decide, hrest⟩

theorem takeColumns_hearts {b k : Nat} (h : b ≤ k) : takeColumns b (hearts k) = hearts b := by
  induction b generalizing k with
  | zero =>
    cases k with
    | zero => rfl
    | succ k => rfl
  | succ b ih =>
    obtain ⟨k, rfl⟩ : ∃ j, k = j + 1 := ⟨k - 1, by omega⟩
    have hheart : charWidth heart = 1 := by decide
    have hselector : charWidth emojiSelector = 0 := by decide
    simp only [hearts, takeColumns, hheart, hselector, Nat.le_add_left, Nat.zero_le, if_true]
    rw [Nat.add_sub_cancel, Nat.sub_zero, ih (by omega)]

theorem foldr_hearts (k : Nat) {cs : List Char} {w : Nat}
    (h : cs.foldr addColumns (0, {}) = ((w : Int), {})) :
    ∃ f : Following, (f = {} ∨ f = ⟨.picture, .none, false⟩) ∧
      (hearts k ++ cs).foldr addColumns (0, {}) = (((2 * k + w : Nat) : Int), f) := by
  induction k with
  | zero => exact ⟨{}, .inl rfl, by simpa [hearts] using h⟩
  | succ k ih =>
    obtain ⟨f, hf, hfold⟩ := ih
    have hselector : columns emojiSelector f = (0, ⟨.plain, .emoji, false⟩) := by
      rcases hf with rfl | rfl <;> decide
    have hheart : columns heart ⟨.plain, .emoji, false⟩ = (2, ⟨.picture, .none, false⟩) := by decide
    refine ⟨_, .inr rfl, ?_⟩
    rw [hearts, List.cons_append, List.cons_append, List.foldr_cons, List.foldr_cons, hfold]
    simp only [addColumns, hselector, hheart, Prod.mk.injEq, and_true]
    omega

theorem foldr_dots (n : Nat) :
    (dots n).foldr addColumns (0, {}) = (((dots n).length : Int), {}) := by
  unfold dots
  split <;> decide

theorem widthChars_hearts_append {cs : List Char} {w : Nat} (k : Nat)
    (h : cs.foldr addColumns (0, {}) = ((w : Int), {})) :
    widthChars (hearts k ++ cs) = 2 * k + w := by
  obtain ⟨f, -, hfold⟩ := foldr_hearts k h
  rw [widthChars, hfold, Int.toNat_natCast]

theorem width_cut_hearts (n : Nat) : width (cut n (String.ofList (hearts n))) = n + budget n := by
  have hwhole : width (String.ofList (hearts n)) = 2 * n := by
    have hempty : ([] : List Char).foldr addColumns (0, {}) = (((0 : Nat) : Int), {}) := rfl
    simpa [width] using widthChars_hearts_append n hempty
  have hbudget := budget_add_length_dots n
  unfold cut
  split
  · next h =>
    have hn : n = 0 := by omega
    rw [hwhole, hn]
    rfl
  · have hlen := widthChars_hearts_append (budget n) (foldr_dots n)
    rw [width, String.toList_ofList, String.toList_ofList, cutChars_eq,
      takeColumns_hearts (by omega), hlen]
    omega

/-- A cut label is too wide by no more than the widened characters that it keeps; the widest label cut
to `n` columns takes `n + budget n`. -/
theorem cut_label_overflow (n : Nat) :
    (∀ s, width (cut n (sanitize s)) ≤ n + widened (cut n (sanitize s)).toList ∧
      widened (cut n (sanitize s)).toList ≤ widened (sanitize s).toList) ∧
    IsGreatest (Set.range fun s => width (cut n (sanitize s))) (n + budget n) ∧
    ((∀ s, width (cut n (sanitize s)) ≤ n) ↔ n = 0) := by
  have hle (s : String) : width (cut n (sanitize s)) ≤ n + budget n :=
    width_cut_le_add_budget n (clean_sanitize s)
  have hhearts : width (cut n (sanitize (String.ofList (hearts n)))) = n + budget n := by
    rw [sanitize_of_clean (by simpa using clean_hearts n), width_cut_hearts]
  refine ⟨?_, ⟨⟨_, hhearts⟩, ?_⟩, ?_⟩
  · intro s
    exact ⟨width_cut_le_add_widened n (clean_sanitize s), widened_cut_le n⟩
  · rintro _ ⟨s, rfl⟩
    exact hle s
  · constructor
    · intro h
      have hfits := h (String.ofList (hearts n))
      exact budget_eq_zero_iff.mp (by omega)
    · rintro rfl s
      exact hle s

theorem two_hearts_overflow :
    width (cut 2 (sanitize "\u2764\uFE0F\u2764\uFE0F")) = 4 ∧
      ¬ ∀ s, width (cut 2 (sanitize s)) ≤ 2 := by
  constructor
  · have htwo : "\u2764\uFE0F\u2764\uFE0F" = String.ofList (hearts 2) := rfl
    rw [htwo, sanitize_of_clean (by simpa using clean_hearts 2), width_cut_hearts]
    rfl
  · rw [(cut_label_overflow 2).2.2]
    decide

end DeviceChannels.Text
