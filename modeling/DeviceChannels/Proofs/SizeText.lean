import DeviceChannels.ByteSize
import DeviceChannels.Proofs.NearestEven
import Mathlib.Order.Bounds.Basic
import Mathlib.Tactic.IntervalCases
import Mathlib.Tactic.Ring

/-! Texts of byte counts as numbers. The text rounds the count in the unit that it is shown in, and a
greater count never has a text that stands for less: what is rounded up in one unit reaches at most
the first of the next. -/

namespace DeviceChannels.ByteSize

/-- What `climb` comes to when it begins with `size` counted in `1024 ^ first` bytes: it has gone up
by `j` of the units. -/
structure Climbed (size : ℚ) (first : ℕ) (units : List String) (j : ℕ) (shown : ℚ × String) :
    Prop where
  value : shown.1 = size / 1024 ^ (first + j)
  unit : units[j]? = some shown.2
  reached : 1024 ^ (first + j) ≤ size
  topmost : j + 1 < units.length → size < 1024 ^ (first + j + 1)

theorem exists_climbed {size : ℚ} {first : ℕ} (h : 1024 ^ first ≤ size) (unit : String)
    (larger : List String) :
    ∃ j, Climbed size first (unit :: larger) j (climb (size / 1024 ^ first) unit larger) := by
  induction larger generalizing first unit with
  | nil => exact ⟨0, rfl, rfl, h, fun hj => absurd hj (by simp)⟩
  | cons next larger ih =>
    have hpos : (0 : ℚ) < 1024 ^ first := by positivity
    by_cases hstep : 1024 ≤ size / 1024 ^ first
    -- The rest of the way begins one power of 1024 higher, with one unit less to go.
    · have hnext : 1024 ^ (first + 1) ≤ size := by
        rw [pow_succ', ← le_div_iff₀ hpos]
        exact hstep
      obtain ⟨j, hj⟩ := ih hnext next
      have hvalue : size / 1024 ^ first / 1024 = size / 1024 ^ (first + 1) := by
        rw [div_div, pow_succ]
      rw [climb, if_pos hstep, hvalue]
      have hplace : first + (j + 1) = first + 1 + j := by omega
      refine ⟨j + 1, ?_, hj.unit, ?_, fun hlast => ?_⟩
      · rw [hj.value, hplace]
      · rw [hplace]
        exact hj.reached
      · rw [hplace]
        exact hj.topmost (Nat.lt_of_succ_lt_succ hlast)
    · rw [climb, if_neg hstep]
      refine ⟨0, rfl, rfl, h, fun _ => ?_⟩
      rw [not_le, div_lt_iff₀ hpos, ← pow_succ'] at hstep
      exact hstep

theorem nearestEven_tenths {value : ℚ} (h : 0 ≤ value) : NearestEven (value * 10) (tenths value) := by
  have hnum : ((value.num.toNat : ℕ) : ℚ) = value.num := by
    exact_mod_cast Int.toNat_of_nonneg (Rat.num_nonneg.mpr h)
  have hvalue : value * 10 = ((value.num.toNat * 10 : ℕ) : ℚ) / value.den := by
    rw [Nat.cast_mul, hnum, Nat.cast_ofNat, mul_div_right_comm, Rat.num_div_den]
  rw [hvalue]
  exact nearestEven_divNearest value.den_pos _

/-- In the unit of the `k`-th power of 1024 `size` reads as `t` tenths. -/
structure Shown (size k t : ℕ) (unit : String) : Prop where
  unit : ["KB", "MB", "GB", "TB"][k - 1]? = some unit
  one_le : 1 ≤ k
  reached : 1024 ^ k ≤ size
  topmost : k < 4 → size < 1024 ^ (k + 1)
  nearest : NearestEven (size / 1024 ^ k * 10) t

section

variable {size k t : ℕ} {unit : String}

theorem exists_shown (h : 1024 ≤ size) : ∃ k, Shown size k
    (tenths (climb (size / 1024) "KB" ["MB", "GB", "TB"]).1)
    (climb (size / 1024) "KB" ["MB", "GB", "TB"]).2 := by
  have hfirst : (1024 : ℚ) ^ 1 ≤ size := by exact_mod_cast h
  obtain ⟨j, hj⟩ := exists_climbed hfirst "KB" ["MB", "GB", "TB"]
  rw [pow_one] at hj
  refine ⟨1 + j, ?_, Nat.le_add_right 1 j, ?_, fun hlast => ?_, ?_⟩
  · rw [Nat.add_sub_cancel_left]
    exact hj.unit
  · exact_mod_cast hj.reached
  · have hbelow : j + 1 < 4 := by omega
    exact_mod_cast hj.topmost hbelow
  · rw [← hj.value]
    apply nearestEven_tenths
    rw [hj.value]
    positivity

theorem Shown.le_four (h : Shown size k t unit) : k ≤ 4 := by
  obtain ⟨hlt, -⟩ := List.getElem?_eq_some_iff.mp h.unit
  have hlt' : k - 1 < 4 := hlt
  omega

theorem Shown.isGreatest (h : Shown size k t unit) :
    IsGreatest {i | 1 ≤ i ∧ i ≤ 4 ∧ 1024 ^ i ≤ size} k := by
  refine ⟨⟨h.one_le, h.le_four, h.reached⟩, ?_⟩
  rintro i ⟨-, hfour, hi⟩
  by_contra hlt
  have hnext : 1024 ^ (k + 1) ≤ 1024 ^ i := Nat.pow_le_pow_right (by decide) (by omega)
  have := h.topmost (by omega)
  omega

theorem Shown.ten_le (h : Shown size k t unit) : 10 ≤ t := by
  apply (NearestEven.natCast 10).le_of_le h.nearest
  have hone : (1 : ℚ) ≤ size / 1024 ^ k := by
    rw [one_le_div (by positivity)]
    exact_mod_cast h.reached
  push_cast
  linarith

/-- Rounding reaches the next unit and does not go past it. -/
theorem Shown.le_next (h : Shown size k t unit) (hk : k < 4) : t ≤ 10240 := by
  apply h.nearest.le_of_le (NearestEven.natCast 10240)
  have hlt : (size : ℚ) / 1024 ^ k < 1024 := by
    rw [div_lt_iff₀ (by positivity), ← pow_succ']
    exact_mod_cast h.topmost hk
  push_cast
  linarith

theorem Shown.pow_le (h : Shown size k t unit) {j : ℕ} (hj : j ≤ k) :
    (1024 : ℚ) ^ j ≤ t / 10 * 1024 ^ k := by
  have ht : (10 : ℚ) ≤ t := by exact_mod_cast h.ten_le
  calc (1024 : ℚ) ^ j ≤ 1024 ^ k := pow_le_pow_right₀ (by norm_num) hj
    _ = 10 / 10 * 1024 ^ k := by ring
    _ ≤ t / 10 * 1024 ^ k := by gcongr

theorem Shown.le_of_le {size' k' t' : ℕ} {unit' : String} (h : Shown size k t unit)
    (h' : Shown size' k' t' unit') (hle : size ≤ size') :
    (t : ℚ) / 10 * 1024 ^ k ≤ t' / 10 * 1024 ^ k' := by
  have hk : k ≤ k' := h'.isGreatest.2 ⟨h.one_le, h.le_four, h.reached.trans hle⟩
  rcases Nat.eq_or_lt_of_le hk with rfl | hlt
  · have ht : t ≤ t' := by
      apply h.nearest.le_of_le h'.nearest
      gcongr
    gcongr
  · have hfour := h'.le_four
    have ht : (t : ℚ) ≤ 10240 := by exact_mod_cast h.le_next (by omega)
    calc (t : ℚ) / 10 * 1024 ^ k ≤ 10240 / 10 * 1024 ^ k := by gcongr
      _ = 1024 ^ (k + 1) := by ring
      _ ≤ t' / 10 * 1024 ^ k' := h'.pow_le hlt

end

/-- What stands before the first `mark` and what after it. -/
def parts (mark : Char) (cs : List Char) : List Char × List Char :=
  (cs.takeWhile (· != mark), (cs.dropWhile (· != mark)).tail)

def unitBytes : List (String × ℕ) :=
  [("B", 1), ("KB", 1024), ("MB", 1024 ^ 2), ("GB", 1024 ^ 3), ("TB", 1024 ^ 4)]

/-- A number written in digits, with or without decimals. -/
def number? (cs : List Char) : Option ℚ :=
  let digits := (parts '.' cs).1 ++ (parts '.' cs).2
  if digits.all Char.isDigit then
    some (Nat.ofDigitChars 10 digits 0 / 10 ^ (parts '.' cs).2.length)
  else none

/-- The bytes that a text stands for, a number of some unit. -/
def read? (text : String) : Option ℚ := do
  let number ← number? (parts ' ' text.toList).1
  let bytes ← unitBytes.lookup (String.ofList (parts ' ' text.toList).2)
  return number * bytes

theorem parts_append {mark : Char} {cs : List Char} (h : mark ∉ cs) (rest : List Char) :
    parts mark (cs ++ rest) = (cs ++ (parts mark rest).1, (parts mark rest).2) := by
  have hcs : ∀ c ∈ cs, (c != mark) = true := fun c hc => bne_iff_ne.mpr fun he => h (he ▸ hc)
  rw [parts, List.takeWhile_append_of_pos hcs, List.dropWhile_append_of_pos hcs, parts]

theorem parts_cons (mark : Char) (rest : List Char) : parts mark (mark :: rest) = ([], rest) := by
  simp [parts]

theorem toList_toString (n : ℕ) : (toString n).toList = Nat.toDigits 10 n := by
  rw [Nat.toString_eq_ofList_toDigits, String.toList_ofList]

theorem isDigit_of_mem {n : ℕ} {c : Char} (h : c ∈ Nat.toDigits 10 n) : c.isDigit = true :=
  Nat.isDigit_of_mem_toDigits (by decide) (by decide) h

theorem not_mem_toDigits {mark : Char} (h : mark.isDigit = false) (n : ℕ) :
    mark ∉ Nat.toDigits 10 n := by
  intro hmem
  rw [isDigit_of_mem hmem] at h
  cases h

theorem number?_of_parts {cs whole decimals : List Char} (h : parts '.' cs = (whole, decimals))
    {n : ℕ} (hn : whole ++ decimals = Nat.toDigits 10 n) :
    number? cs = some ((n : ℚ) / 10 ^ decimals.length) := by
  have hdigits : (Nat.toDigits 10 n).all Char.isDigit = true :=
    List.all_eq_true.mpr fun c hc => isDigit_of_mem hc
  simp only [number?, h, hn, hdigits, if_true, Nat.ofDigitChars_ten_toDigits]

theorem number?_toString (n : ℕ) : number? (toString n).toList = some (n : ℚ) := by
  have hparts : parts '.' (toString n).toList = (Nat.toDigits 10 n, []) := by
    rw [toList_toString]
    simpa [parts] using parts_append (not_mem_toDigits (by decide) n) []
  rw [number?_of_parts hparts (List.append_nil _), List.length_nil, pow_zero, div_one]

theorem toList_decimalText (t : ℕ) :
    (decimalText t).toList = Nat.toDigits 10 (t / 10) ++ '.' :: Nat.toDigits 10 (t % 10) := by
  simp [decimalText]

theorem number?_decimalText {t : ℕ} (h : 10 ≤ t) :
    number? (decimalText t).toList = some ((t : ℚ) / 10) := by
  have hparts : parts '.' (decimalText t).toList =
      (Nat.toDigits 10 (t / 10), Nat.toDigits 10 (t % 10)) := by
    rw [toList_decimalText, parts_append (not_mem_toDigits (by decide) _), parts_cons,
      List.append_nil]
  have hlast : t % 10 < 10 := Nat.mod_lt t (by decide)
  have hdigits : Nat.toDigits 10 (t / 10) ++ Nat.toDigits 10 (t % 10) = Nat.toDigits 10 t := by
    rw [Nat.toDigits_append_toDigits (by decide) (by omega) hlast, Nat.div_add_mod]
  rw [number?_of_parts hparts hdigits, Nat.toDigits_of_lt_base hlast, List.length_singleton,
    pow_one]

theorem read?_append {number unit : String} {q : ℚ} {bytes : ℕ} (hblank : ' ' ∉ number.toList)
    (hnumber : number? number.toList = some q) (hunit : unitBytes.lookup unit = some bytes) :
    read? (number ++ " " ++ unit) = some (q * bytes) := by
  have hparts : parts ' ' (number ++ " " ++ unit).toList = (number.toList, unit.toList) := by
    rw [String.toList_append, String.toList_append, List.append_assoc, parts_append hblank]
    simp [parts_cons]
  rw [read?, hparts, hnumber, String.ofList_toList, hunit]
  rfl

theorem read?_bytes (n : ℕ) : read? (toString n ++ " B") = some (n : ℚ) := by
  have hblank : ' ' ∉ (toString n).toList := by
    rw [toList_toString]
    exact not_mem_toDigits (by decide) n
  have hread := read?_append hblank (number?_toString n) (rfl : unitBytes.lookup "B" = some 1)
  rwa [String.append_assoc, Nat.cast_one, mul_one] at hread

theorem Shown.read?_text {size k t : ℕ} {unit : String} (h : Shown size k t unit) :
    read? (decimalText t ++ " " ++ unit) = some ((t : ℚ) / 10 * 1024 ^ k) := by
  have hblank : ' ' ∉ (decimalText t).toList := by
    simp [toList_decimalText, not_mem_toDigits]
  have hbytes : unitBytes.lookup unit = some (1024 ^ k) := by
    have hunit := h.unit
    have hone := h.one_le
    have hfour := h.le_four
    interval_cases k <;> cases hunit <;> rfl
  have hread := read?_append hblank (number?_decimalText h.ten_le) hbytes
  rwa [Nat.cast_pow, Nat.cast_ofNat] at hread

section

variable {m n : ℕ}

theorem render_of_lt (h : n < 1024) : render n = toString n ++ " B" := if_pos h

theorem exists_shown_render (h : 1024 ≤ n) : ∃ k t unit,
    Shown (roundTo53Bits n) k t unit ∧ render n = decimalText t ++ " " ++ unit := by
  have hsize : 1024 ≤ roundTo53Bits n := by
    rw [← roundTo53Bits_eq_self (by decide : 1024 < 2 ^ 53)]
    exact roundTo53Bits_le_roundTo53Bits h
  obtain ⟨k, hk⟩ := exists_shown hsize
  refine ⟨k, _, _, hk, ?_⟩
  rw [render, if_neg (Nat.not_lt.mpr h)]

theorem exists_read?_le (h : m ≤ n) :
    ∃ x y, read? (render m) = some x ∧ read? (render n) = some y ∧ x ≤ y := by
  by_cases hn : n < 1024
  · refine ⟨m, n, ?_, ?_, by exact_mod_cast h⟩
    · rw [render_of_lt (Nat.lt_of_le_of_lt h hn), read?_bytes]
    · rw [render_of_lt hn, read?_bytes]
  obtain ⟨l, u, unit', hu, hrender'⟩ := exists_shown_render (Nat.le_of_not_lt hn)
  by_cases hm : m < 1024
  · refine ⟨m, _, ?_, hrender' ▸ hu.read?_text, ?_⟩
    · rw [render_of_lt hm, read?_bytes]
    · calc (m : ℚ) ≤ 1024 ^ 1 := by exact_mod_cast hm.le
        _ ≤ u / 10 * 1024 ^ l := hu.pow_le hu.one_le
  · obtain ⟨k, t, unit, ht, hrender⟩ := exists_shown_render (Nat.le_of_not_lt hm)
    exact ⟨_, _, hrender ▸ ht.read?_text, hrender' ▸ hu.read?_text,
      ht.le_of_le hu (roundTo53Bits_le_roundTo53Bits h)⟩

end

/-- Below 2 ^ 53 the text rounds the exact quotient; the numbers that texts stand for are in order over
all counts. -/
theorem texts_round_in_order :
    (∀ n < 2 ^ 53,
      (n < 1024 → render n = toString n ++ " B") ∧
      (1024 ≤ n → ∃ k t unit,
        IsGreatest {i | 1 ≤ i ∧ i ≤ 4 ∧ 1024 ^ i ≤ n} k ∧
        ["KB", "MB", "GB", "TB"][k - 1]? = some unit ∧
        NearestEven ((n : ℚ) / 1024 ^ k * 10) t ∧
        render n = toString (t / 10) ++ "." ++ toString (t % 10) ++ " " ++ unit ∧
        read? (render n) = some ((t : ℚ) / 10 * 1024 ^ k))) ∧
    ∀ m n, m ≤ n → ∃ x y, read? (render m) = some x ∧ read? (render n) = some y ∧ x ≤ y := by
  constructor
  · intro n hn
    refine ⟨render_of_lt, fun hkilo => ?_⟩
    obtain ⟨k, t, unit, ht, hrender⟩ := exists_shown_render hkilo
    rw [roundTo53Bits_eq_self hn] at ht
    exact ⟨k, t, unit, ht.isGreatest, ht.unit, ht.nearest, hrender, hrender ▸ ht.read?_text⟩
  · intro m n h
    exact exists_read?_le h

theorem last_kilobytes_not_past_megabyte :
    (1023 < 2 ^ 53 ∧ 1023 < 1024 ∧ render 1023 = toString 1023 ++ " B") ∧
    (1048575 < 2 ^ 53 ∧ 1024 ≤ 1048575 ∧ ∃ k t unit,
      IsGreatest {i | 1 ≤ i ∧ i ≤ 4 ∧ 1024 ^ i ≤ 1048575} k ∧
      ["KB", "MB", "GB", "TB"][k - 1]? = some unit ∧
      NearestEven (((1048575 : ℕ) : ℚ) / 1024 ^ k * 10) t ∧
      render 1048575 = toString (t / 10) ++ "." ++ toString (t % 10) ++ " " ++ unit ∧
      read? (render 1048575) = some ((t : ℚ) / 10 * 1024 ^ k)) ∧
    (1048575 ≤ 1048576 ∧ ∃ x y,
      read? (render 1048575) = some x ∧ read? (render 1048576) = some y ∧ x ≤ y) ∧
    render 1048575 = "1024.0 KB" ∧ render 1048576 = "1.0 MB" :=
  have hlast : 1023 < 2 ^ 53 := by norm_num
  have hbytes : 1023 < 1024 := by norm_num
  have hsmall : 1048575 < 2 ^ 53 := by norm_num
  have hkilo : 1024 ≤ 1048575 := by norm_num
  have hle : 1048575 ≤ 1048576 := by norm_num
  ⟨⟨hlast, hbytes, (texts_round_in_order.1 1023 hlast).1 hbytes⟩,
    ⟨hsmall, hkilo, (texts_round_in_order.1 1048575 hsmall).2 hkilo⟩,
    ⟨hle, texts_round_in_order.2 1048575 1048576 hle⟩, by decide +kernel, by decide +kernel⟩

/-- A half goes to the even tenth, down or up. -/
example : render 1280 = "1.2 KB" ∧ render 1792 = "1.8 KB" := by decide +kernel

end DeviceChannels.ByteSize
