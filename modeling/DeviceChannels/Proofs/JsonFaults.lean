import DeviceChannels.Catalog
import DeviceChannels.Proofs.Lists
import Mathlib.Data.List.Infix

/-! Where reading stops. The fault of a text that is no catalog lies in the text, and one for want of
more text at its end: the line and the column told of it are never beyond the text. -/

namespace DeviceChannels

namespace Json

theorem byteCount_append (as bs : List Char) :
    byteCount (as ++ bs) = byteCount as + byteCount bs := by
  induction as with
  | nil => simp [byteCount]
  | cons a as ih => simp [byteCount, ih, Nat.add_assoc]

theorem length_le_byteCount (cs : List Char) : cs.length ≤ byteCount cs := by
  induction cs with
  | nil => exact Nat.le_refl 0
  | cons c cs ih =>
    have hc := c.utf8Size_pos
    simp only [List.length_cons, byteCount]
    omega

theorem byteCount_le_cons (c : Char) (cs : List Char) : byteCount cs ≤ byteCount (c :: cs) :=
  Nat.le_add_left _ _

theorem byteCount_skipSpace_le (cs : List Char) : byteCount (skipSpace cs) ≤ byteCount cs := by
  obtain ⟨skipped, h⟩ := List.dropWhile_suffix isSpace (l := cs)
  have happend := byteCount_append skipped (skipSpace cs)
  rw [skipSpace, h] at happend
  rw [skipSpace]
  omega

/-- What comes of reading a text of `n` bytes. What is left after a value, and the bytes that the value
is known to take, are no more than the text; a fault lies in the text, and one for want of more text
at its end. -/
inductive Bounded (size : α → Nat) (n : Nat) : Read α → Prop
  | read {x : α} {rest : List Char} (left_le : byteCount rest + size x ≤ n) :
      Bounded size n (.ok (x, rest))
  | refused {fault : Fault} (unread_le : fault.unread ≤ n)
      (at_end : fault.reason.isEnd = true → fault.unread = 0) : Bounded size n (.error fault)

/-- No bytes are claimed for the value. -/
def free (_ : α) : Nat := 0

namespace Bounded

variable {n m : Nat} {size : α → Nat}

theorem mono {r : Read α} (h : Bounded size m r) (hmn : m ≤ n) : Bounded size n r := by
  cases h with
  | read left_le => exact .read (Nat.le_trans left_le hmn)
  | refused unread_le at_end => exact .refused (Nat.le_trans unread_le hmn) at_end

theorem atEnd (reason : Reason) : Bounded size n (.error (.atEnd reason)) :=
  .refused (Nat.zero_le n) fun _ => rfl

theorem before {reason : Reason} {rest : List Char} (h : byteCount rest ≤ n)
    (hr : reason.isEnd = false) : Bounded size n (.error (.before reason rest)) :=
  .refused h fun he => absurd (hr.symm.trans he) Bool.false_ne_true

theorem within {reason : Reason} {rest : List Char} (h : byteCount rest ≤ n)
    (hr : reason.isEnd = false) : Bounded size n (.error (.within reason rest)) :=
  .refused (Nat.le_trans (Nat.sub_le _ 1) h) fun he => absurd (hr.symm.trans he) Bool.false_ne_true

theorem left_le {r : Read α} (h : Bounded size n r) {x : α} {rest : List Char}
    (hr : r = .ok (x, rest)) : byteCount rest + size x ≤ n := by
  subst hr
  cases h with
  | read left_le => exact left_le

theorem fault {fault : Fault} (h : Bounded size n (.error fault)) :
    fault.unread ≤ n ∧ (fault.reason.isEnd = true → fault.unread = 0) := by
  cases h with
  | refused unread_le at_end => exact ⟨unread_le, at_end⟩

/-- A fault is handed on as it is. -/
theorem of_error {r : Read α} (h : Bounded size n r) {fault : Fault} (hr : r = .error fault)
    {size' : β → Nat} : Bounded size' n (.error fault) :=
  .refused (hr ▸ h).fault.1 (hr ▸ h).fault.2

theorem free {r : Read α} (h : Bounded size n r) : Bounded Json.free n r := by
  cases h with
  | read left_le => exact .read (Nat.le_trans (Nat.le_add_right _ _) left_le)
  | refused unread_le at_end => exact .refused unread_le at_end

end Bounded

theorem bounded_digits (cs : List Char) : Bounded List.length (byteCount cs) (digits cs) := by
  have hspan := List.span_eq_takeWhile_dropWhile (p := Char.isDigit) (l := cs)
  have hcs := byteCount_append (cs.takeWhile Char.isDigit) (cs.dropWhile Char.isDigit)
  rw [List.takeWhile_append_dropWhile] at hcs
  have hlength := length_le_byteCount (cs.takeWhile Char.isDigit)
  unfold digits
  rw [hspan]
  split
  · exact .atEnd _
  · next heq =>
    obtain ⟨_, rfl⟩ := Prod.mk.inj heq
    exact .within (by omega) rfl
  · next heq =>
    obtain ⟨rfl, rfl⟩ := Prod.mk.inj heq
    exact .read (by omega)

theorem bounded_integerPart (cs : List Char) : Bounded free (byteCount cs) (integerPart cs) := by
  unfold integerPart
  split
  · next rest =>
    have hrest := byteCount_le_cons '0' rest
    split
    · split
      · exact .within hrest rfl
      · exact .read hrest
    · exact .read hrest
  · exact (bounded_digits cs).free

theorem bounded_fractionPart (cs : List Char) : Bounded free (byteCount cs) (fractionPart cs) := by
  unfold fractionPart
  split
  · next rest => exact (bounded_digits rest).free.mono (byteCount_le_cons '.' rest)
  · exact .read (Nat.le_refl _)

theorem absorb_left_le (limit n : Nat) (ds : List Char) : (absorb limit n ds).2 ≤ ds.length := by
  induction ds generalizing n with
  | nil => exact Nat.le_refl 0
  | cons d ds ih =>
    rw [absorb]
    split
    · exact Nat.le_succ_of_le (ih _)
    · exact Nat.le_refl _

def surplusOf (exponent : Option Exponent) : Nat := (exponent.getD ⟨0, 0⟩).surplus

theorem bounded_exponentPart (cs : List Char) :
    Bounded surplusOf (byteCount cs) (exponentPart cs) := by
  unfold exponentPart
  split
  · next c rest =>
    split
    · split
      next negative rest' hsign =>
      have hrest : byteCount rest' ≤ byteCount (c :: rest) := by
        split at hsign <;> cases hsign <;> simp only [byteCount] <;> omega
      have hdigits := (bounded_digits rest').mono hrest
      split
      · next hr => exact hdigits.of_error hr
      · next ds left hr =>
        have hleft := hdigits.left_le hr
        have hsurplus := absorb_left_le (Nat.pow 2 31) 0 ds
        exact .read (by simp only [surplusOf, Option.getD_some]; omega)
    · exact .read (Nat.le_refl _)
  · exact .read (Nat.le_refl _)

theorem bounded_number (cs : List Char) : Bounded free (byteCount cs) (number cs) := by
  unfold number
  split
  next negative cs' hsign =>
  have hcs : byteCount cs' ≤ byteCount cs := by
    split at hsign <;> cases hsign
    · exact byteCount_le_cons _ _
    · exact Nat.le_refl _
  have hwhole := (bounded_integerPart cs').mono hcs
  split
  · next hr => exact hwhole.of_error hr
  next whole rest hr =>
  have hfraction := (bounded_fractionPart rest).mono (hwhole.left_le hr)
  split
  · next hr => exact hfraction.of_error hr
  next fraction rest hr =>
  have hexponent := (bounded_exponentPart rest).mono (hfraction.left_le hr)
  split
  · next hr => exact hexponent.of_error hr
  next exponent rest hr =>
  have hrest := hexponent.left_le hr
  split
  split
  dsimp only
  split
  · exact .refused hrest nofun
  split
  · exact .read (Nat.le_trans (Nat.add_le_add_left (Nat.zero_le _) _) hrest)
  · exact .read (Nat.le_trans (Nat.add_le_add_left (Nat.zero_le _) _) hrest)

/-- No more than three digits of an escape are read before the last one. -/
def TextScan.Sound : TextScan → Prop
  | .hex _ count _ => count ≤ 3
  | _ => True

theorem bounded_badHexFault {count : Nat} (h : count ≤ 3) (cs : List Char) :
    Bounded (free (α := String)) (byteCount cs) (.error (badHexFault count cs)) := by
  unfold badHexFault
  split
  · exact .refused (by dsimp only; omega) nofun
  · exact .atEnd _

theorem bounded_textFrom (scan : TextScan) (h : scan.Sound) (acc cs : List Char) :
    Bounded free (byteCount cs) (textFrom scan acc cs) := by
  -- the text ends, the closing quote, a character that may not stand there, or reading goes on
  fun_induction textFrom scan acc cs with
  | case1 => exact .atEnd _
  | case2 => exact .read (byteCount_le_cons _ _)
  | case4 | case8 | case17 | case19 => exact .within (Nat.le_refl _) rfl
  | case9 => exact bounded_badHexFault h _
  | case12 | case13 => exact .before (byteCount_le_cons _ _) rfl
  | case10 high count value acc c cs d hd next hcount ih =>
    exact (ih hcount).mono (byteCount_le_cons _ _)
  | case6 _ _ ih | case18 _ _ _ ih => exact (ih (Nat.zero_le 3)).mono (byteCount_le_cons _ _)
  | case3 | case5 | case7 | case11 | case14 | case15 | case16 =>
    rename_i ih
    exact (ih trivial).mono (byteCount_le_cons _ _)

theorem bounded_word (value : Json) (ws cs : List Char) :
    Bounded free (byteCount cs) (word value ws cs) := by
  fun_induction word value ws cs with
  | case1 => exact .read (Nat.le_refl _)
  | case2 => exact .atEnd _
  | case3 ws c cs ih => exact ih.mono (byteCount_le_cons _ _)
  | case4 => exact .within (Nat.le_refl _) rfl

theorem Enclosure.commaDue_isEnd (e : Enclosure) : e.commaDue.isEnd = false := by
  cases e <;> rfl

section

variable {item : List Char → Read α} (hitem : ∀ cs, Bounded free (byteCount cs) (item cs))

include hitem

theorem bounded_sequence (e : Enclosure) (bound : Nat) (acc : List α) (cs : List Char) :
    Bounded free (byteCount cs) (sequence e item bound acc cs) := by
  induction bound generalizing acc cs with
  | zero => exact .within (Nat.le_refl _) rfl
  | succ bound ih =>
    have hread := hitem cs
    rw [sequence]
    split
    · next hr => exact hread.of_error hr
    next value rest hr =>
    have hrest := hread.left_le hr
    have hskip := byteCount_skipSpace_le rest
    split
    · exact .atEnd _
    next c rest' hc =>
    rw [hc] at hskip
    have hcons := byteCount_le_cons c rest'
    split
    · exact .read (by simp only [free] at hrest ⊢; omega)
    split
    · have hskip' := byteCount_skipSpace_le rest'
      split
      · exact .atEnd _
      next d ds hd =>
      rw [hd] at hskip'
      split
      · exact .within (by simp only [free] at hrest; omega) rfl
      · exact (ih _ (d :: ds)).mono (by simp only [free] at hrest; omega)
    · exact .within (by simp only [free] at hrest; omega) e.commaDue_isEnd

theorem bounded_enclosed (e : Enclosure) (cs : List Char) :
    Bounded free (byteCount cs) (enclosed e item cs) := by
  have hskip := byteCount_skipSpace_le cs
  rw [enclosed]
  split
  · exact .atEnd _
  next c rest hc =>
  rw [hc] at hskip
  split
  · exact .read (Nat.le_trans (byteCount_le_cons c rest) hskip)
  · exact (bounded_sequence hitem e _ _ _).mono hskip

end

theorem bounded_field {item : List Char → Read Json}
    (hitem : ∀ cs, Bounded free (byteCount cs) (item cs)) (cs : List Char) :
    Bounded free (byteCount cs) (field item cs) := by
  have hskip := byteCount_skipSpace_le cs
  rw [field]
  split
  · exact .atEnd _
  · next rest hc =>
    rw [hc] at hskip
    have hkey := (bounded_textFrom .plain trivial [] rest).mono
      (Nat.le_trans (byteCount_le_cons _ _) hskip)
    split
    · next hr => exact hkey.of_error hr
    next key rest hr =>
    have hrest : byteCount (skipSpace rest) ≤ byteCount cs :=
      Nat.le_trans (byteCount_skipSpace_le rest) (hkey.left_le hr)
    split
    · exact .atEnd _
    · next rest hc =>
      rw [hc] at hrest
      have hvalue := (hitem rest).mono (Nat.le_trans (byteCount_le_cons _ _) hrest)
      split
      · next hr => exact hvalue.of_error hr
      · next hr => exact .read (hvalue.left_le hr)
    · exact .within hrest rfl
  · exact .within hskip rfl

theorem bounded_valueWith {item : Option (List Char → Read Json)}
    (hitem : ∀ read, item = some read → ∀ cs, Bounded free (byteCount cs) (read cs))
    (cs : List Char) : Bounded free (byteCount cs) (valueWith item cs) := by
  have hskip := byteCount_skipSpace_le cs
  have hnext {c : Char} {rest : List Char} (hc : skipSpace cs = c :: rest) :
      byteCount rest ≤ byteCount cs := Nat.le_trans (byteCount_le_cons c rest) (hc ▸ hskip)
  rw [valueWith]
  split
  · exact .atEnd _
  · next rest hc =>
    have htext : Bounded free (byteCount cs) (quotedText rest) :=
      (bounded_textFrom .plain trivial [] rest).mono (hnext hc)
    split
    · next hr => exact htext.of_error hr
    · next hr => exact .read (htext.left_le hr)
  · next rest hc =>
    split
    · exact .within (hc ▸ hskip) rfl
    next read =>
    have hitems := (bounded_enclosed (hitem read rfl) .brackets rest).mono (hnext hc)
    split
    · next hr => exact hitems.of_error hr
    · next hr => exact .read (hitems.left_le hr)
  · next rest hc =>
    split
    · exact .within (hc ▸ hskip) rfl
    next read =>
    have hfields := (bounded_enclosed (bounded_field (hitem read rfl)) .braces rest).mono (hnext hc)
    split
    · next hr => exact hfields.of_error hr
    · next hr => exact .read (hfields.left_le hr)
  · next rest hc => exact (bounded_word _ _ rest).mono (hnext hc)
  · next rest hc => exact (bounded_word _ _ rest).mono (hnext hc)
  · next rest hc => exact (bounded_word _ _ rest).mono (hnext hc)
  · next c rest _ _ _ _ _ _ hc =>
    rw [hc] at hskip
    split
    · exact (bounded_number (c :: rest)).mono hskip
    · exact .within hskip rfl

theorem bounded_value (depth : Nat) (cs : List Char) :
    Bounded free (byteCount cs) (value depth cs) := by
  induction depth generalizing cs with
  | zero => exact bounded_valueWith (by rintro _ ⟨⟩) cs
  | succ depth ih =>
    apply bounded_valueWith
    rintro read ⟨⟩
    exact ih

theorem byteCount_eq_utf8ByteSize (s : String) : byteCount s.toList = s.utf8ByteSize := by
  have hcount (cs : List Char) : byteCount cs = (String.ofList cs).utf8ByteSize := by
    induction cs with
    | nil => rfl
    | cons c cs ih =>
      rw [byteCount, ih, utf8ByteSize_ofList_cons]
  rw [hcount, String.ofList_toList]

end Json

/-- A refusal that has a place is of a fault in the text, at its end if the text stopped too early. -/
theorem Catalog.refused_in_text {text : String} {refusal : Refusal}
    (h : read text = .error refusal) :
    refusal = .wrongShape ∨
      ∃ fault, refusal = .ofJson text fault ∧ fault.unread ≤ text.utf8ByteSize ∧
        (fault.reason.isEnd = true → fault.unread = 0) := by
  have hvalue := Json.bounded_value Json.maxDepth text.toList
  rw [Json.byteCount_eq_utf8ByteSize] at hvalue
  unfold read at h
  split at h
  · cases h
  split at h
  · next fault hr =>
    cases h
    exact .inr ⟨fault, rfl, (hr ▸ hvalue).fault⟩
  next json rest hr =>
  have hrest := Nat.le_trans (Json.byteCount_skipSpace_le rest) (hvalue.left_le hr)
  split at h
  · cases h
    exact .inl rfl
  dsimp only at h
  split at h
  · cases h
  · cases h
    have hafter : Json.Bounded Json.free text.utf8ByteSize
        (.error (.within .textAfterEnd (Json.skipSpace rest)) : Json.Read Json) := .within hrest rfl
    exact .inr ⟨_, rfl, hafter.fault⟩

/-- The brace stands where a value is due, on the second line. -/
example : Catalog.read "[\n \x7b\"id\": \x7d]" = .error (.notJson .valueDue 2 9) := by
  decide +kernel

end DeviceChannels
