import DeviceChannels.Json.Reader
import DeviceChannels.Proofs.JsonSpelling
import DeviceChannels.Proofs.NearestEven
import Mathlib.Data.List.TakeDrop

/-! The reader of JSON on quoted texts and on naturals: it takes off what the grammar says. -/

namespace DeviceChannels.Json

theorem skipSpace_gap {g : List Char} (hg : Gap g) (cs : List Char) :
    skipSpace (g ++ cs) = skipSpace cs := by
  induction g with
  | nil => rfl
  | cons c g ih =>
    have hc : isSpace c = true := by
      have := hg c (by simp)
      simpa [isSpace, or_assoc] using this
    have hg' : Gap g := fun d hd => hg d (by simp [hd])
    simpa [skipSpace, hc] using ih hg'

theorem skipSpace_cons {c : Char} (hc : isSpace c = false) (cs : List Char) :
    skipSpace (c :: cs) = c :: cs := by
  simp [skipSpace, hc]

theorem HexDigit.read {d : Nat} {c : Char} (h : HexDigit d c) : hexDigit? c = some d := by
  have hall : ∀ d < 16, hexDigit? d.digitChar = some d ∧ hexDigit? d.digitChar.toUpper = some d := by
    decide
  rcases h.2 with rfl | rfl
  · exact (hall d h.1).1
  · exact (hall d h.1).2

theorem isHighHalf_iff (n : Nat) : isHighHalf n = true ↔ 0xD800 ≤ n ∧ n ≤ 0xDBFF := by
  simp [isHighHalf]

theorem isLowHalf_iff (n : Nat) : isLowHalf n = true ↔ 0xDC00 ≤ n ∧ n ≤ 0xDFFF := by
  simp [isLowHalf]

theorem isHighHalf_toNat (c : Char) : isHighHalf c.toNat = false := by
  have := toNat_cases c
  rw [← Bool.not_eq_true, isHighHalf_iff]
  omega

theorem isLowHalf_toNat (c : Char) : isLowHalf c.toNat = false := by
  have := toNat_cases c
  rw [← Bool.not_eq_true, isLowHalf_iff]
  omega

theorem isHighHalf_highHalf {n : Nat} (hn : n < 0x110000) : isHighHalf (highHalf n) = true := by
  rw [isHighHalf_iff, highHalf]
  omega

theorem isLowHalf_lowHalf (n : Nat) : isLowHalf (lowHalf n) = true := by
  rw [isLowHalf_iff, lowHalf]
  omega

theorem joinHalves_eq {n : Nat} (hn : 0x10000 ≤ n) : joinHalves (highHalf n) (lowHalf n) = n := by
  have hhigh : highHalf n - 0xD800 = (n - 0x10000) / 0x400 := by simp [highHalf]
  have hlow : lowHalf n - 0xDC00 = (n - 0x10000) % 0x400 := by simp [lowHalf]
  unfold joinHalves
  omega

section CodeUnit

variable {n : Nat} {cs acc : List Char} (h : CodeUnit n cs) (rest : List Char)

include h

theorem CodeUnit.read_high (hhigh : isHighHalf n = true) :
    textFrom .plain acc (cs ++ rest) = textFrom (.pairBackslash n) acc rest := by
  have hlow : isLowHalf n = false := by
    rw [isHighHalf_iff] at hhigh
    rw [← Bool.not_eq_true, isLowHalf_iff]
    omega
  cases h with
  | mk hi hj hk hl => simp [textFrom, hi.read, hj.read, hk.read, hl.read, hhigh, hlow]

theorem CodeUnit.read_low {high : Nat} (hlow : isLowHalf n = true) :
    textFrom (.pairBackslash high) acc (cs ++ rest) =
      textFrom .plain (Char.ofNat (joinHalves high n) :: acc) rest := by
  cases h with
  | mk hi hj hk hl => simp [textFrom, hi.read, hj.read, hk.read, hl.read, hlow]

theorem CodeUnit.read_char (hhigh : isHighHalf n = false) (hlow : isLowHalf n = false) :
    textFrom .plain acc (cs ++ rest) = textFrom .plain (Char.ofNat n :: acc) rest := by
  cases h with
  | mk hi hj hk hl => simp [textFrom, hi.read, hj.read, hk.read, hl.read, hhigh, hlow]

end CodeUnit

theorem simpleEscape_letter {c e : Char} (h : (c, e) ∈ letterEscapes) :
    e ≠ 'u' ∧ simpleEscape e = some c := by
  have hall : ∀ p ∈ letterEscapes, p.2 ≠ 'u' ∧ simpleEscape p.2 = some p.1 := by decide
  exact hall (c, e) h

theorem Written.read {c : Char} {cs : List Char} (h : Written c cs) (acc rest : List Char) :
    textFrom .plain acc (cs ++ rest) = textFrom .plain (c :: acc) rest := by
  cases h with
  | plain hquote hescape hcontrol =>
    have hc : ¬ c.toNat < 0x20 := by omega
    simp [textFrom, hquote, hescape, hc]
  | letter h =>
    obtain ⟨hu, he⟩ := simpleEscape_letter h
    simp [textFrom, hu, he]
  | unit h =>
    rw [h.read_char rest (isHighHalf_toNat c) (isLowHalf_toNat c), Char.ofNat_toNat]
  | pair hplane hhigh hlow =>
    have hmax : c.toNat < 0x110000 := by
      have := toNat_cases c
      omega
    rw [List.append_assoc, hhigh.read_high _ (isHighHalf_highHalf hmax),
      hlow.read_low _ (isLowHalf_lowHalf c.toNat), joinHalves_eq hplane, Char.ofNat_toNat]

theorem textFrom_written {cs : List Char} {parts : List (List Char)}
    (h : List.Forall₂ Written cs parts) (acc rest : List Char) :
    textFrom .plain acc (parts.flatten ++ '"' :: rest) =
      .ok (String.ofList (acc.reverse ++ cs), rest) := by
  induction h generalizing acc with
  | nil => simp [textFrom]
  | cons hc _ ih => simp [hc.read, ih]

theorem quotedText_written {s : String} {parts : List (List Char)}
    (h : List.Forall₂ Written s.toList parts) (rest : List Char) :
    quotedText (parts.flatten ++ '"' :: rest) = .ok (s, rest) := by
  simp [quotedText, textFrom_written h]

theorem le_ofDigitChars (ds : List Char) (n : Nat) : n ≤ Nat.ofDigitChars 10 ds n := by
  induction ds generalizing n with
  | nil => exact Nat.le_refl n
  | cons d ds ih =>
    have hstep : n ≤ 10 * n + (d.toNat - '0'.toNat) := by omega
    exact Nat.le_trans hstep (ih _)

theorem absorb_eq {limit n : Nat} {ds : List Char} (h : Nat.ofDigitChars 10 ds n < limit) :
    absorb limit n ds = (Nat.ofDigitChars 10 ds n, 0) := by
  induction ds generalizing n with
  | nil => rfl
  | cons d ds ih =>
    have hnext : Nat.ofDigitChars 10 (d :: ds) n =
        Nat.ofDigitChars 10 ds (n * 10 + digitValue d) := by
      simp [Nat.ofDigitChars, digitValue, Nat.mul_comm]
    -- The digits to come only add to the number, so no part of it is too large either.
    have hle := le_ofDigitChars ds (n * 10 + digitValue d)
    have hfits : n * 10 + digitValue d < limit := by omega
    rw [absorb, if_pos hfits, hnext]
    exact ih (hnext ▸ h)

theorem absorb_toDigits (n : UInt64) :
    absorb UInt64.size 0 (Nat.toDigits 10 n.toNat) = (n.toNat, 0) := by
  have hn := Nat.ofDigitChars_toDigits (b := 10) (n := n.toNat) (by simp) (by simp)
  rw [absorb_eq (by rw [hn]; exact n.toNat_lt_size), hn]

theorem roundTo53Bits_le (n : Nat) : roundTo53Bits n ≤ 2 * n + 1 := by
  by_cases hn : n = 0
  · rw [hn]
    decide
  · have hlog := Nat.log2_self_le hn
    calc roundTo53Bits n ≤ 2 ^ (n.log2 + 1) := roundTo53Bits_le_two_pow n
      _ = 2 ^ n.log2 * 2 := pow_succ 2 n.log2
      _ ≤ 2 * n + 1 := by omega

theorem two_pow_lt_sub {i j k : Nat} (hij : i < j) (hjk : j < k) :
    Nat.pow 2 i < Nat.pow 2 k - Nat.pow 2 j := by
  have h : 2 ^ i < 2 ^ j := Nat.pow_lt_pow_right (by simp) hij
  have h' : 2 ^ (j + 1) ≤ 2 ^ k := Nat.pow_le_pow_right (by simp) hjk
  rw [Nat.pow_succ] at h'
  simp only [Nat.pow_eq]
  omega

theorem overflows_zero (n : UInt64) : overflows n.toNat 0 = false := by
  -- Rounding at most doubles a number, and infinity is much further away than that.
  have hn := roundTo53Bits_le n.toNat
  have hbound : Nat.pow 2 65 < overflowBound := by
    unfold overflowBound
    apply two_pow_lt_sub <;> simp
  have hpow : Nat.pow 2 65 = 2 * UInt64.size := rfl
  have hlt := n.toNat_lt_size
  have hone : roundTo53Bits (Nat.pow 10 (0 : Int).toNat) = 1 := by decide
  have hsmall : ¬ overflowBound ≤ roundTo53Bits n.toNat * 1 := by omega
  by_cases hzero : n.toNat = 0
  · simp [overflows, hzero]
  · simp only [overflows, hone, hsmall, hzero]
    simp

/-- A text that does not carry a number on. -/
def Stops (rest : List Char) : Prop := ∀ c ∈ rest.head?, c.isDigit = false ∧ c ∉ ['.', 'e', 'E']

theorem Stops.head {c : Char} {rest : List Char} (h : Stops (c :: rest)) :
    c.isDigit = false ∧ c ≠ '.' ∧ c ≠ 'e' ∧ c ≠ 'E' := by
  simpa [Stops] using h

theorem exists_toDigits (n : Nat) :
    ∃ d ds, Nat.toDigits 10 n = d :: ds ∧ d.isDigit = true ∧ (d = '0' → n = 0) := by
  induction n using Nat.strongRecOn with
  | ind n ih =>
    by_cases hsmall : n < 10
    · have hdigit : ∀ i < 10, i.digitChar.isDigit = true ∧ (i.digitChar = '0' → i = 0) := by decide
      exact ⟨_, [], Nat.toDigits_of_lt_base hsmall, hdigit n hsmall⟩
    · obtain ⟨d, ds, hd, hdigit, hzero⟩ := ih (n / 10) (by omega)
      refine ⟨d, ds ++ [(n % 10).digitChar], ?_, hdigit, fun h => ?_⟩
      · rw [Nat.toDigits_of_base_le (by simp) (by omega), hd, List.cons_append]
      · have := hzero h
        omega

theorem span_digits {ds rest : List Char} (hds : ∀ d ∈ ds, d.isDigit = true) (hrest : Stops rest) :
    (ds ++ rest).span Char.isDigit = (ds, rest) := by
  have hnone : rest.takeWhile Char.isDigit = [] ∧ rest.dropWhile Char.isDigit = rest := by
    cases rest with
    | nil => exact ⟨rfl, rfl⟩
    | cons c rest => simp [hrest.head.1]
  rw [List.span_eq_takeWhile_dropWhile, List.takeWhile_append_of_pos hds,
    List.dropWhile_append_of_pos hds, hnone.1, hnone.2, List.append_nil]

theorem integerPart_toDigits (n : Nat) {rest : List Char} (hrest : Stops rest) :
    integerPart (Nat.toDigits 10 n ++ rest) = .ok (Nat.toDigits 10 n, rest) := by
  by_cases hn : n = 0
  · subst hn
    cases rest with
    | nil => rfl
    | cons c rest => simp [integerPart, hrest.head.1]
  · obtain ⟨d, ds, hd, _, hzero⟩ := exists_toDigits n
    have hne : d ≠ '0' := fun h => hn (hzero h)
    have hall : ∀ c ∈ d :: ds, c.isDigit = true := fun c hc =>
      Nat.isDigit_of_mem_toDigits (by simp) (by simp) (hd ▸ hc)
    have hdigits : digits (d :: ds ++ rest) = .ok (d :: ds, rest) := by
      rw [digits, span_digits hall hrest]
    rw [hd, ← hdigits]
    simp [integerPart, hne]

theorem fractionPart_stops {rest : List Char} (hrest : Stops rest) :
    fractionPart rest = .ok ([], rest) := by
  cases rest with
  | nil => rfl
  | cons c rest =>
    obtain ⟨_, hpoint, _⟩ := hrest.head
    simp [fractionPart, hpoint]

theorem exponentPart_stops {rest : List Char} (hrest : Stops rest) :
    exponentPart rest = .ok (none, rest) := by
  cases rest with
  | nil => rfl
  | cons c rest =>
    obtain ⟨_, _, hlower, hupper⟩ := hrest.head
    simp [exponentPart, hlower, hupper]

theorem number_natural (n : UInt64) {rest : List Char} (hrest : Stops rest) :
    number (Nat.toDigits 10 n.toNat ++ rest) = .ok (.natural n, rest) := by
  obtain ⟨d, ds, hd, hdigit, _⟩ := exists_toDigits n.toNat
  unfold number
  split
  rename_i negative cs hsign
  split at hsign
  · rename_i r hminus
    simp only [hd, List.cons_append, List.cons.injEq] at hminus
    rw [hminus.1] at hdigit
    exact absurd hdigit (by decide)
  · cases hsign
    simp [integerPart_toDigits n.toNat hrest, fractionPart_stops hrest, exponentPart_stops hrest,
      absorb_toDigits, absorb, overflows_zero]

end DeviceChannels.Json
