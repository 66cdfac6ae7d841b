import DeviceChannels.Proofs.CutWidth
import DeviceChannels.Proofs.Lists

/-! The cut made at a byte. The characters are read with the bytes at which they begin, the text is
sliced behind the last one that fits, and this never falls inside a character: what is kept is the
longest beginning that fits when its characters are measured one by one. -/

namespace DeviceChannels.Text

/-- The characters from `offset` on, each with the byte at which it begins. -/
def indexed (offset : Nat) : List Char → List (Nat × Char)
  | [] => []
  | c :: cs => (offset, c) :: indexed (offset + c.utf8Size) cs

/-- The byte behind the last character that fits, where those before `stop` take `used` columns. -/
def cutEnd (budget used stop : Nat) : List (Nat × Char) → Nat
  | [] => stop
  | (offset, c) :: rest =>
    if budget < used + charWidth c then stop
    else cutEnd budget (used + charWidth c) (offset + c.utf8Size) rest

/-- The text before a byte at which a character begins or the text ends; other bytes give none. -/
def sliceTo? (s : String) (stop : Nat) : Option String :=
  if h : (⟨stop⟩ : String.Pos.Raw).IsValid s then some (s.sliceTo (s.pos ⟨stop⟩ h)).copy else none

def minus? (a b : Nat) : Option Nat := if b ≤ a then some (a - b) else none

/-- The cut of a text, none if a difference is negative or a slice falls inside a character. -/
def cut? (columns : Nat) (s : String) : Option String :=
  if width s ≤ columns then some s
  else if columns ≤ ellipsis.length then sliceTo? s (cutEnd columns 0 0 (indexed 0 s.toList))
  else do
    let budget ← minus? columns ellipsis.length
    let kept ← sliceTo? s (cutEnd budget 0 0 (indexed 0 s.toList))
    return kept ++ String.ofList ellipsis

/-- What is left of the budget is what the characters from here on may take. -/
theorem cutEnd_indexed {budget used : Nat} (h : used ≤ budget) (offset : Nat) (cs : List Char) :
    cutEnd budget used offset (indexed offset cs) =
      offset + (String.ofList (takeColumns (budget - used) cs)).utf8ByteSize := by
  induction cs generalizing used offset with
  | nil => rfl
  | cons c cs ih =>
    by_cases hfits : used + charWidth c ≤ budget
    · have hleft : budget - (used + charWidth c) = budget - used - charWidth c := by omega
      have hc : charWidth c ≤ budget - used := by omega
      rw [indexed, cutEnd, if_neg (Nat.not_lt.mpr hfits), ih hfits, hleft, takeColumns, if_pos hc,
        utf8ByteSize_ofList_cons, Nat.add_assoc]
    · have hc : ¬ charWidth c ≤ budget - used := by omega
      rw [indexed, cutEnd, if_pos (Nat.lt_of_not_le hfits), takeColumns, if_neg hc]
      rfl

theorem isPrefix_takeColumns {n : Nat} {cs ds : List Char} (h : ds <+: cs)
    (hfits : charColumns ds ≤ n) : ds <+: takeColumns n cs := by
  induction ds generalizing n cs with
  | nil => exact List.nil_prefix
  | cons d ds ih =>
    obtain ⟨cs, rfl, hrest⟩ := List.cons_prefix_iff.mp h
    rw [charColumns] at hfits
    have hd : charWidth d ≤ n := by omega
    rw [takeColumns, if_pos hd]
    exact List.cons_prefix_cons.mpr ⟨rfl, ih hrest (by omega)⟩

theorem exists_splits_takeColumns (n : Nat) (s : String) :
    ∃ (p : s.Pos) (rest : String), p.Splits (String.ofList (takeColumns n s.toList)) rest := by
  obtain ⟨rest, hrest⟩ := takeColumns_isPrefix n s.toList
  have hs : s = String.ofList (takeColumns n s.toList) ++ String.ofList rest := by
    rw [← String.ofList_append, hrest, String.ofList_toList]
  exact ⟨_, _, String.Pos.splits_ofEqAppend hs⟩

theorem sliceTo?_of_splits {s kept rest : String} {p : s.Pos} (h : p.Splits kept rest) :
    sliceTo? s kept.utf8ByteSize = some kept := by
  have hoffset : (⟨kept.utf8ByteSize⟩ : String.Pos.Raw) = p.offset := h.offset_eq_rawEndPos.symm
  have hvalid : (⟨kept.utf8ByteSize⟩ : String.Pos.Raw).IsValid s := hoffset ▸ p.isValid
  have hp : s.pos ⟨kept.utf8ByteSize⟩ hvalid = p := String.Pos.ext hoffset
  rw [sliceTo?, dif_pos hvalid, hp, h.copy_sliceTo_eq]

section

variable {n : Nat} {s rest : String} {p : s.Pos}

theorem isGreatest_of_splits (h : p.Splits (String.ofList (takeColumns n s.toList)) rest) :
    IsGreatest {q : s.Pos | charColumns (s.sliceTo q).copy.toList ≤ n} p := by
  constructor
  · change charColumns (s.sliceTo p).copy.toList ≤ n
    rw [h.copy_sliceTo_eq, String.toList_ofList]
    exact charColumns_takeColumns_le n s.toList
  · intro q hq
    have hsplit := q.splits
    have hprefix : (s.sliceTo q).copy.toList <+: s.toList := by
      refine ⟨(s.sliceFrom q).copy.toList, ?_⟩
      rw [← String.toList_append, ← hsplit.eq_append]
    obtain ⟨more, hmore⟩ := isPrefix_takeColumns hprefix hq
    have hkept : String.ofList (takeColumns n s.toList) =
        (s.sliceTo q).copy ++ String.ofList more := by
      rw [← hmore, String.ofList_append, String.ofList_toList]
    refine (hsplit.le_iff_exists_eq_append h).mpr ⟨_, hkept, ?_⟩
    rw [← String.append_right_inj (s.sliceTo q).copy, ← String.append_assoc, ← hkept,
      ← hsplit.eq_append, ← h.eq_append]

theorem sliceTo?_cutEnd (n : Nat) (s : String) :
    sliceTo? s (cutEnd n 0 0 (indexed 0 s.toList)) =
      some (String.ofList (takeColumns n s.toList)) := by
  obtain ⟨p, rest, h⟩ := exists_splits_takeColumns n s
  rw [cutEnd_indexed (Nat.zero_le n), Nat.sub_zero, Nat.zero_add, sliceTo?_of_splits h]

theorem cut?_eq (n : Nat) (s : String) : cut? n s = some (cut n s) := by
  unfold cut? cut cutChars
  split
  · rfl
  split
  · exact sliceTo?_cutEnd n s
  · next h =>
    have hminus : minus? n ellipsis.length = some (n - ellipsis.length) :=
      if_pos (Nat.le_of_not_le h)
    rw [hminus, Option.bind_eq_bind, Option.bind_some, sliceTo?_cutEnd, String.ofList_append]
    rfl

theorem cut_of_lt (h : n < width s) :
    cut n s = String.ofList (takeColumns (budget n) s.toList) ++ String.ofList (dots n) := by
  rw [cut, if_neg (Nat.not_le.mpr h), cutChars_eq, String.ofList_append]

end

/-- The cut never fails. A text that fits is kept, whatever its characters take alone; another is cut
at the last place where the characters before it fit what the dots leave. -/
theorem cut_at_last_fitting_place (n : Nat) (s : String) :
    cut? n s = some (cut n s) ∧
    (width s ≤ n → cut n s = s) ∧
    (n < width s → ∃ p : s.Pos,
      IsGreatest {q : s.Pos | charColumns (s.sliceTo q).copy.toList ≤ if n ≤ 3 then n else n - 3} p ∧
      cut n s = (s.sliceTo p).copy ++ (if n ≤ 3 then "" else "...") ∧
      charColumns (cut n s).toList ≤ n) := by
  refine ⟨cut?_eq n s, fun h => if_pos h, fun h => ?_⟩
  obtain ⟨p, rest, hp⟩ := exists_splits_takeColumns (budget n) s
  have hdots : String.ofList (dots n) = if n ≤ 3 then "" else "..." := by
    unfold dots
    split
    · next hn => exact (if_pos hn).symm
    · next hn => exact (if_neg hn).symm
  have hcolumns : charColumns (cut n s).toList ≤ n := by
    have hfit := charColumns_takeColumns_le (budget n) s.toList
    have hbudget := budget_add_length_dots n
    rw [cut_of_lt h, String.toList_append, String.toList_ofList, String.toList_ofList,
      charColumns_append, charColumns_dots]
    omega
  refine ⟨p, isGreatest_of_splits hp, ?_, hcolumns⟩
  rw [cut_of_lt h, hp.copy_sliceTo_eq, hdots]

theorem two_wide_letters_and_dots :
    (7 < width "\u4F60\u597D\u4E16\u754C" ∧ ∃ p : ("\u4F60\u597D\u4E16\u754C" : String).Pos,
      IsGreatest {q : ("\u4F60\u597D\u4E16\u754C" : String).Pos |
        charColumns ("\u4F60\u597D\u4E16\u754C".sliceTo q).copy.toList ≤
          if 7 ≤ 3 then 7 else 7 - 3} p ∧
      cut 7 "\u4F60\u597D\u4E16\u754C" =
        ("\u4F60\u597D\u4E16\u754C".sliceTo p).copy ++ (if 7 ≤ 3 then "" else "...") ∧
      charColumns (cut 7 "\u4F60\u597D\u4E16\u754C").toList ≤ 7) ∧
    (width "\u4F60\u597D\u4E16\u754C" ≤ 8 ∧
      cut 8 "\u4F60\u597D\u4E16\u754C" = "\u4F60\u597D\u4E16\u754C") ∧
    cut 7 "\u4F60\u597D\u4E16\u754C" = "\u4F60\u597D..." :=
  have hover : 7 < width "\u4F60\u597D\u4E16\u754C" := by decide +kernel
  have hfits : width "\u4F60\u597D\u4E16\u754C" ≤ 8 := by decide +kernel
  ⟨⟨hover, (cut_at_last_fitting_place 7 _).2.2 hover⟩,
    ⟨hfits, (cut_at_last_fitting_place 8 _).2.1 hfits⟩, by decide +kernel⟩

end DeviceChannels.Text
