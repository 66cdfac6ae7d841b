import DeviceChannels.Text.Label

/-! Labels without control characters. Whatever state the scan of a label is in, it writes none, and
nothing but characters that it has read and spaces for line breaks and tabs. -/

namespace DeviceChannels.Text

def Clean (cs : List Char) : Prop := ∀ c ∈ cs, isControl c = false

theorem isClean_iff {s : String} : isClean s = true ↔ Clean s.toList := by
  have hany : s.any isControl = s.toList.any isControl := String.contains_bool_eq
  simp [isClean, Clean, hany]

theorem sanitize_of_clean {s : String} (h : Clean s.toList) : sanitize s = s := by
  simp [sanitize, isClean_iff.mpr h]

theorem clean_labelPiece (endsInSpace : Bool) (c : Char) : Clean (labelPiece endsInSpace c) := by
  unfold labelPiece
  split
  · split
    · exact List.forall_mem_nil _
    · exact List.forall_mem_singleton.mpr (by decide)
  · split
    · exact List.forall_mem_nil _
    · next hc => exact List.forall_mem_singleton.mpr (by simpa using hc)

theorem clean_labelFrom (scan : LabelScan) (endsInSpace : Bool) (cs : List Char) :
    Clean (labelFrom scan endsInSpace cs) := by
  induction cs generalizing scan endsInSpace with
  | nil => exact List.forall_mem_nil _
  | cons c cs ih =>
    refine List.forall_mem_append.mpr ⟨?_, ih _ _⟩
    split
    · exact clean_labelPiece endsInSpace c
    · exact List.forall_mem_nil _

theorem clean_sanitize (s : String) : Clean (sanitize s).toList := by
  by_cases h : isClean s = true
  · simpa [sanitize, h] using isClean_iff.mp h
  · simpa [sanitize, h, sanitizeChars] using clean_labelFrom .text false s.toList

theorem isControl_of_isLineSpace {c : Char} (h : isLineSpace c = true) : isControl c = true := by
  simp only [isLineSpace, Bool.or_eq_true, beq_iff_eq] at h
  rcases h with (rfl | rfl) | rfl <;> decide

theorem labelPiece_of_not_control {c : Char} (h : isControl c = false) (endsInSpace : Bool) :
    labelPiece endsInSpace c = [c] := by
  cases hl : isLineSpace c with
  | true => exact absurd (h.symm.trans (isControl_of_isLineSpace hl)) Bool.false_ne_true
  | false => simp [labelPiece, hl, h]

theorem LabelScan.next_text {c : Char} (h : c ≠ escapeChar) : LabelScan.next .text c = .text := by
  simp [LabelScan.next, LabelScan.readsText, h]

theorem labelFrom_of_clean {cs : List Char} (h : Clean cs) (endsInSpace : Bool) :
    labelFrom .text endsInSpace cs = cs := by
  induction cs generalizing endsInSpace with
  | nil => rfl
  | cons c cs ih =>
    obtain ⟨hc, hcs⟩ := List.forall_mem_cons.mp h
    have hescape : c ≠ escapeChar := by
      rintro rfl
      exact absurd hc (by decide)
    simp only [labelFrom, LabelScan.readsText, if_true, labelPiece_of_not_control hc,
      LabelScan.next_text hescape, ih hcs, List.singleton_append]

/-- A label that is taken over as it is would not be changed by the scan either. -/
theorem sanitize_eq (s : String) : sanitize s = String.ofList (sanitizeChars s.toList) := by
  by_cases h : isClean s = true
  · rw [sanitize, if_pos h, sanitizeChars, labelFrom_of_clean (isClean_iff.mp h),
      String.ofList_toList]
  · exact if_neg h

theorem labelPiece_sublist (endsInSpace : Bool) (c : Char) :
    (labelPiece endsInSpace c).Sublist (labelPiece false c) := by
  cases endsInSpace with
  | false => exact List.Sublist.refl _
  | true =>
    by_cases h : isLineSpace c = true
    · simp [labelPiece, h]
    · simp [labelPiece, h]

/-- Each character of the label stands for one that was read, in the same order. -/
theorem labelFrom_sublist (scan : LabelScan) (endsInSpace : Bool) (cs : List Char) :
    (labelFrom scan endsInSpace cs).Sublist (cs.flatMap (labelPiece false)) := by
  induction cs generalizing scan endsInSpace with
  | nil => exact List.Sublist.refl _
  | cons c cs ih =>
    rw [labelFrom, List.flatMap_cons]
    refine List.Sublist.append ?_ (ih _ _)
    split
    · exact labelPiece_sublist endsInSpace c
    · exact List.nil_sublist _

theorem labelPiece_filter_sublist (c : Char) :
    ((labelPiece false c).filter (· != ' ')).Sublist ([c].filter fun c => !isControl c) := by
  by_cases h : isControl c = true
  · by_cases hl : isLineSpace c = true <;> simp [labelPiece, hl, h]
  · have hc : isControl c = false := by simpa using h
    have hkept : [c].filter (fun c => !isControl c) = [c] := List.filter_eq_self.mpr (by simp [hc])
    rw [labelPiece_of_not_control hc, hkept]
    exact List.filter_sublist

theorem flatMap_labelPiece_sublist (cs : List Char) :
    ((cs.flatMap (labelPiece false)).filter (· != ' ')).Sublist
      (cs.filter fun c => !isControl c) := by
  induction cs with
  | nil => exact List.Sublist.refl _
  | cons c cs ih =>
    rw [List.flatMap_cons, List.filter_append, ← List.singleton_append, List.filter_append]
    exact (labelPiece_filter_sublist c).append ih

/-- Whatever the text, its label has no control character; apart from spaces it has only characters
of the text, in their order; it is the text itself exactly if that is clean, and it is its own
label. -/
theorem sanitize_is_safe (s : String) :
    Clean (sanitize s).toList ∧
      ((sanitize s).toList.filter (· != ' ')).Sublist (s.toList.filter fun c => !isControl c) ∧
      (sanitize s = s ↔ Clean s.toList) ∧ sanitize (sanitize s) = sanitize s := by
  have hclean := clean_sanitize s
  refine ⟨hclean, ?_, ⟨fun h => h ▸ hclean, sanitize_of_clean⟩, sanitize_of_clean hclean⟩
  have hshown : (sanitize s).toList = labelFrom .text false s.toList := by
    rw [sanitize_eq, String.toList_ofList, sanitizeChars]
  rw [hshown]
  exact ((labelFrom_sublist _ _ _).filter _).trans (flatMap_labelPiece_sublist _)

/-- A command that the text does not end. What is before it is kept, with spaces for the tab and the
line break there; the line break within the command goes with it. -/
theorem unterminated_command_dropped :
    let s := "up\tto\ndate\x1b]0;now\r\nbell"
    sanitize s = "up to date" ∧ Clean (sanitize s).toList ∧
      ((sanitize s).toList.filter (· != ' ')).Sublist (s.toList.filter fun c => !isControl c) ∧
      sanitize s ≠ s ∧ sanitize (sanitize s) = sanitize s := by
  intro s
  have hlabel : sanitize s = "up to date" := by
    rw [sanitize_eq]
    decide +kernel
  have hcontrol : ¬ Clean s.toList := by
    intro h
    exact absurd (h escapeChar (by decide +kernel)) (by decide)
  obtain ⟨hclean, hsublist, hsame, htwice⟩ := sanitize_is_safe s
  exact ⟨hlabel, hclean, hsublist, fun h => hcontrol (hsame.mp h), htwice⟩

end DeviceChannels.Text
