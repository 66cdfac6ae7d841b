import DeviceChannels.Proofs.CleanLabel
import Mathlib.Data.List.Infix

/-! Escape sequences in labels. The scan passes over a complete one and is then where it was before,
so the label is that of the texts around it. -/

namespace DeviceChannels.Text

def bell : Char := '\x07'

/-- A sequence that is complete, after the escape and the bracket that it begins with: a control
sequence or an operating system command. -/
inductive EscapeSequence
  | control (parameters : List Char) (final : Char)
      (parameters_go_on : ∀ c ∈ parameters, isFinalByte c = false)
      (final_ends : isFinalByte final = true)
  | command (body terminator : List Char) (no_bell : bell ∉ body)
      (no_terminator : ¬ [escapeChar, '\\'] <:+: body)
      (terminates : terminator = [bell] ∨ terminator = [escapeChar, '\\'])

def EscapeSequence.chars : EscapeSequence → List Char
  | .control parameters final _ _ => escapeChar :: '[' :: (parameters ++ [final])
  | .command body terminator _ _ _ => escapeChar :: ']' :: (body ++ terminator)

def EscapeSequence.text (e : EscapeSequence) : String := String.ofList e.chars

/-- What a label becomes by one more character of a text without escapes. -/
def labelThen (label : List Char) (c : Char) : List Char :=
  if c = '\t' ∨ c = '\n' ∨ c = '\r' then
    if label.getLast? = some ' ' then label else label ++ [' ']
  else if isControl c then label
  else label ++ [c]

variable {scan : LabelScan} {endsInSpace : Bool}

theorem labelFrom_cons_of_not_readsText {c : Char} (h : scan.readsText c = false)
    (cs : List Char) :
    labelFrom scan endsInSpace (c :: cs) = labelFrom (scan.next c) endsInSpace cs := by
  simp [labelFrom, h, endsInSpaceAfter]

theorem labelFrom_escape (cs : List Char) :
    labelFrom .text endsInSpace (escapeChar :: cs) = labelFrom .escape endsInSpace cs := by
  have hpiece : labelPiece endsInSpace escapeChar = [] := by
    simp [labelPiece, escapeChar, isLineSpace, isControl]
  simp [labelFrom, LabelScan.readsText, hpiece, LabelScan.next, endsInSpaceAfter]

theorem labelFrom_control {parameters : List Char} {final : Char}
    (hgo : ∀ c ∈ parameters, isFinalByte c = false) (hend : isFinalByte final = true)
    (cs : List Char) :
    labelFrom .sequence endsInSpace (parameters ++ final :: cs) =
      labelFrom .text endsInSpace cs := by
  induction parameters with
  | nil =>
    rw [List.nil_append, labelFrom_cons_of_not_readsText rfl]
    simp [LabelScan.next, LabelScan.readsText, hend]
  | cons c parameters ih =>
    obtain ⟨hc, hrest⟩ := List.forall_mem_cons.mp hgo
    rw [List.cons_append, labelFrom_cons_of_not_readsText rfl]
    simpa [LabelScan.next, LabelScan.readsText, hc] using ih hrest

/-- The scan is within a command that would not end at once if `rest` came next. -/
inductive LabelScan.Commanded (rest : List Char) : LabelScan → Prop
  | command : Commanded rest .command
  | commandEscape (no_end : rest.head? ≠ some '\\') : Commanded rest .commandEscape

theorem LabelScan.Commanded.not_readsText {rest : List Char} (h : scan.Commanded rest) (c : Char) :
    scan.readsText c = false := by
  cases h <;> rfl

theorem LabelScan.Commanded.next {c : Char} {rest : List Char} (h : scan.Commanded (c :: rest))
    (hbell : c ≠ bell) (hend : ¬ [escapeChar, '\\'] <+: c :: rest) :
    (scan.next c).Commanded rest := by
  have hseven : c ≠ '\x07' := hbell
  have hgoes : scan.next c = if c = escapeChar then .commandEscape else .command := by
    cases h with
    | command => simp [LabelScan.next, LabelScan.readsText, hseven]
    | commandEscape no_end =>
      have hc : c ≠ '\\' := by simpa using no_end
      simp [LabelScan.next, LabelScan.readsText, hseven, hc]
  rw [hgoes]
  split
  · next hc =>
    refine .commandEscape fun hhead => hend ?_
    obtain ⟨rest, rfl⟩ := List.head?_eq_some_iff.mp hhead
    rw [hc]
    exact ⟨rest, rfl⟩
  · exact .command

theorem LabelScan.Commanded.ends {terminator : List Char} (h : scan.Commanded [])
    (hend : terminator = [bell] ∨ terminator = [escapeChar, '\\']) (cs : List Char) :
    labelFrom scan endsInSpace (terminator ++ cs) = labelFrom .text endsInSpace cs := by
  rcases hend with rfl | rfl
  · have hbell : scan.next bell = .text := by cases h <;> rfl
    rw [List.singleton_append, labelFrom_cons_of_not_readsText (h.not_readsText _), hbell]
  · have hescape : scan.next escapeChar = .commandEscape := by cases h <;> rfl
    have hslash : LabelScan.next .commandEscape '\\' = .text := rfl
    rw [List.cons_append, labelFrom_cons_of_not_readsText (h.not_readsText _), hescape,
      List.singleton_append, labelFrom_cons_of_not_readsText rfl, hslash]

theorem LabelScan.Commanded.passes {body terminator : List Char} (h : scan.Commanded body)
    (hbell : bell ∉ body) (hbody : ¬ [escapeChar, '\\'] <:+: body)
    (hend : terminator = [bell] ∨ terminator = [escapeChar, '\\']) (cs : List Char) :
    labelFrom scan endsInSpace (body ++ terminator ++ cs) = labelFrom .text endsInSpace cs := by
  induction body generalizing scan with
  | nil => exact h.ends hend cs
  | cons c body ih =>
    obtain ⟨hc, hrest⟩ := List.ne_and_not_mem_of_not_mem_cons hbell
    rw [List.cons_append, List.cons_append, labelFrom_cons_of_not_readsText (h.not_readsText c)]
    exact ih (h.next (Ne.symm hc) fun hp => hbody hp.isInfix) hrest
      fun hi => hbody (List.infix_cons hi)

theorem labelFrom_sequence (e : EscapeSequence) (cs : List Char) :
    labelFrom .text endsInSpace (e.chars ++ cs) = labelFrom .text endsInSpace cs := by
  cases e with
  | control parameters final hgo hend =>
    have hbracket : LabelScan.next .escape '[' = .sequence := rfl
    rw [EscapeSequence.chars, List.cons_append, labelFrom_escape, List.cons_append,
      labelFrom_cons_of_not_readsText rfl, hbracket, List.append_assoc, List.singleton_append,
      labelFrom_control hgo hend]
  | command body terminator hbell hbody hend =>
    have hbracket : LabelScan.next .escape ']' = .command := rfl
    rw [EscapeSequence.chars, List.cons_append, labelFrom_escape, List.cons_append,
      labelFrom_cons_of_not_readsText rfl, hbracket,
      LabelScan.Commanded.command.passes hbell hbody hend]

/-- After a text without escapes the scan reads text. -/
theorem labelFrom_append_congr {text xs ys : List Char} (htext : escapeChar ∉ text)
    (h : ∀ endsInSpace, labelFrom .text endsInSpace xs = labelFrom .text endsInSpace ys)
    (endsInSpace : Bool) :
    labelFrom .text endsInSpace (text ++ xs) = labelFrom .text endsInSpace (text ++ ys) := by
  induction text generalizing endsInSpace with
  | nil => exact h endsInSpace
  | cons c text ih =>
    obtain ⟨hc, hrest⟩ := List.ne_and_not_mem_of_not_mem_cons htext
    simp only [List.cons_append, labelFrom, LabelScan.next_text (Ne.symm hc), ih hrest]

theorem labelFrom_woven {text : List Char} {parts : List (EscapeSequence × String)}
    (htext : escapeChar ∉ text) (hparts : ∀ p ∈ parts, escapeChar ∉ p.2.toList)
    (endsInSpace : Bool) :
    labelFrom .text endsInSpace (text ++ parts.flatMap fun p => p.1.chars ++ p.2.toList) =
      labelFrom .text endsInSpace (text ++ parts.flatMap fun p => p.2.toList) := by
  induction parts generalizing text endsInSpace with
  | nil => rfl
  | cons p parts ih =>
    obtain ⟨hp, hrest⟩ := List.forall_mem_cons.mp hparts
    refine labelFrom_append_congr htext (fun endsInSpace => ?_) endsInSpace
    rw [List.flatMap_cons, List.flatMap_cons, List.append_assoc, labelFrom_sequence]
    exact ih hp hrest endsInSpace

theorem labelThen_eq {label : List Char} (hspace : endsInSpace = true ↔ label.getLast? = some ' ')
    (c : Char) : labelThen label c = label ++ labelPiece endsInSpace c := by
  by_cases hl : isLineSpace c = true
  · have hc : c = '\t' ∨ c = '\n' ∨ c = '\r' := by
      simpa [isLineSpace, or_assoc] using hl
    by_cases hs : endsInSpace = true
    · simp [labelThen, labelPiece, hc, hl, hs, hspace.mp hs]
    · simp [labelThen, labelPiece, hc, hl, hs, mt hspace.mpr hs]
  · have hc : ¬ (c = '\t' ∨ c = '\n' ∨ c = '\r') := by
      simpa [isLineSpace, or_assoc] using hl
    by_cases hctl : isControl c = true <;> simp [labelThen, labelPiece, hc, hl, hctl]

theorem endsInSpaceAfter_iff {label : List Char}
    (hspace : endsInSpace = true ↔ label.getLast? = some ' ') (piece : List Char) :
    endsInSpaceAfter endsInSpace piece = true ↔ (label ++ piece).getLast? = some ' ' := by
  rw [List.getLast?_append]
  cases h : piece.getLast? <;> simp [endsInSpaceAfter, h, hspace]

theorem foldl_labelThen {text : List Char} (htext : escapeChar ∉ text) {label : List Char}
    (hspace : endsInSpace = true ↔ label.getLast? = some ' ') :
    text.foldl labelThen label = label ++ labelFrom .text endsInSpace text := by
  induction text generalizing label endsInSpace with
  | nil => simp [labelFrom]
  | cons c text ih =>
    obtain ⟨hc, hrest⟩ := List.ne_and_not_mem_of_not_mem_cons htext
    have hlabel := endsInSpaceAfter_iff hspace (labelPiece endsInSpace c)
    rw [List.foldl_cons, labelThen_eq hspace, ih hrest hlabel, List.append_assoc, labelFrom,
      LabelScan.next_text (Ne.symm hc)]
    rfl

/-- Complete escape sequences leave no trace in a label, wherever they stand in a text. Without
escapes the label is got from left to right: it keeps what is no control character, and has a space
for a tab or a line break unless it ends in one already. A label that is taken over as it is would
not be changed by the scan either. -/
theorem escape_sequences_leave_no_trace :
    (∀ (text : String) (parts : List (EscapeSequence × String)), escapeChar ∉ text.toList →
      (∀ p ∈ parts, escapeChar ∉ p.2.toList) →
      sanitize (text ++ String.join (parts.map fun p => p.1.text ++ p.2)) =
        sanitize (text ++ String.join (parts.map Prod.snd))) ∧
      (∀ text : String, escapeChar ∉ text.toList →
        sanitize text = String.ofList (text.toList.foldl labelThen [])) ∧
      ∀ text : String, sanitize text = String.ofList (sanitizeChars text.toList) := by
  refine ⟨fun text parts htext hparts => ?_, fun text htext => ?_, sanitize_eq⟩
  · have hwoven := labelFrom_woven htext hparts false
    rw [sanitize_eq, sanitize_eq]
    simpa only [sanitizeChars, String.toList_append, String.toList_join, List.flatMap_map,
      EscapeSequence.text, String.toList_ofList] using congrArg String.ofList hwoven
  · have hempty : false = true ↔ ([] : List Char).getLast? = some ' ' := by simp
    rw [sanitize_eq, sanitizeChars, foldl_labelThen htext hempty, List.nil_append]

/-- The bracket ends the first sequence; the second follows at once and has an escape within it. The
line break finds the space of the tab before them. -/
theorem sequences_between_tab_and_line_break :
    let short : EscapeSequence := .control [] '[' (by simp) (by decide)
    let title : EscapeSequence :=
      .command [']', escapeChar, 'x'] [escapeChar, '\\'] (by decide) (by decide) (.inr rfl)
    let parts := [(short, ""), (title, "\nb")]
    escapeChar ∉ "a\t".toList ∧ (∀ p ∈ parts, escapeChar ∉ p.2.toList) ∧
      "a\t" ++ String.join (parts.map fun p => p.1.text ++ p.2) =
        "a\t\x1b[[\x1b]]\x1bx\x1b\\\nb" ∧
      sanitize "a\t\x1b[[\x1b]]\x1bx\x1b\\\nb" = "a b" := by
  intro short title parts
  have htext : escapeChar ∉ "a\t".toList := by decide
  have hparts : ∀ p ∈ parts, escapeChar ∉ p.2.toList := by decide
  have hwoven : "a\t" ++ String.join (parts.map fun p => p.1.text ++ p.2) =
      "a\t\x1b[[\x1b]]\x1bx\x1b\\\nb" := by decide +kernel
  obtain ⟨hinvisible, hread, _⟩ := escape_sequences_leave_no_trace
  have hplain := hread "a\t\nb" (by decide)
  have hlabel := hinvisible "a\t" parts htext hparts
  refine ⟨htext, hparts, hwoven, ?_⟩
  rw [← hwoven, hlabel]
  exact hplain.trans (by decide +kernel)

end DeviceChannels.Text
