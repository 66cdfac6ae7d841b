import DeviceChannels.Number.Rounding
import Mathlib.Algebra.Order.Field.Basic
import Mathlib.Algebra.Order.Ring.Rat
import Mathlib.Data.Rat.Cast.Order
import Mathlib.Tactic.Linarith
import Mathlib.Tactic.NormNum

/-! Rounding to the nearest natural, a half to the even one. It keeps the order, and so does the
rounding to 53 binary digits, though the place that is rounded moves up with each power of two. -/

namespace DeviceChannels

structure NearestEven (q : ℚ) (n : ℕ) : Prop where
  near : |q - n| ≤ 1 / 2
  even : |q - n| = 1 / 2 → Even n

theorem NearestEven.of_lt {q : ℚ} {n : ℕ} (h : |q - n| < 1 / 2) : NearestEven q n :=
  ⟨h.le, fun heq => absurd heq h.ne⟩

theorem NearestEven.natCast (n : ℕ) : NearestEven n n := by
  apply NearestEven.of_lt
  rw [sub_self, abs_zero]
  exact one_half_pos

theorem NearestEven.le_of_le {a b : ℚ} {m n : ℕ} (ha : NearestEven a m) (hb : NearestEven b n)
    (h : a ≤ b) : m ≤ n := by
  by_contra hlt
  have hnext : (n : ℚ) + 1 ≤ m := by exact_mod_cast Nat.lt_of_not_le hlt
  obtain ⟨hlo, -⟩ := abs_le.mp ha.near
  obtain ⟨-, hhi⟩ := abs_le.mp hb.near
  -- Both numbers lie halfway between `n` and the one after it, and these are not both even.
  have hm : m = n + 1 := by
    have hle : (m : ℚ) ≤ n + 1 := by linarith
    exact_mod_cast le_antisymm hle hnext
  have heven : Even (n + 1) := by
    rw [← hm]
    apply ha.even
    rw [abs_of_nonpos (by linarith)]
    linarith
  have heven' : Even n := by
    apply hb.even
    rw [abs_of_nonneg (by linarith)]
    linarith
  exact Nat.even_add_one.mp heven heven'

section

variable {d : ℕ} (hd : 0 < d)

include hd

theorem natCast_div_eq (n : ℕ) : (n : ℚ) / d = (n / d : ℕ) + ((n % d : ℕ) : ℚ) / d := by
  have hpos : (0 : ℚ) < d := by exact_mod_cast hd
  have hn : ((n / d * d + n % d : ℕ) : ℚ) = n := by rw [Nat.div_add_mod']
  rw [Nat.cast_add, Nat.cast_mul] at hn
  rw [← hn, add_div, mul_div_cancel_right₀ _ hpos.ne']

theorem nearestEven_divNearest (n : ℕ) : NearestEven (n / d) (divNearest n d) := by
  have hpos : (0 : ℚ) < d := by exact_mod_cast hd
  have hr0 : (0 : ℚ) ≤ ((n % d : ℕ) : ℚ) / d := by positivity
  have hr1 : ((n % d : ℕ) : ℚ) / d < 1 := by
    rw [div_lt_one hpos]
    exact_mod_cast Nat.mod_lt n hd
  rw [natCast_div_eq hd, divNearest]
  generalize n / d = q
  generalize n % d = r at hr0 hr1 ⊢
  split
  · next h =>
    have hhalf : (r : ℚ) / d < 1 / 2 := by
      rw [div_lt_div_iff₀ hpos two_pos]
      exact_mod_cast (by omega : r * 2 < 1 * d)
    apply NearestEven.of_lt
    rw [add_sub_cancel_left, abs_of_nonneg hr0]
    exact hhalf
  split
  · next h =>
    have hhalf : 1 / 2 < (r : ℚ) / d := by
      rw [div_lt_div_iff₀ two_pos hpos]
      exact_mod_cast (by omega : 1 * d < r * 2)
    apply NearestEven.of_lt
    rw [Nat.cast_add, Nat.cast_one, add_sub_add_left_eq_sub, abs_of_neg (by linarith)]
    linarith
  · next h h' =>
    have hhalf : (r : ℚ) / d = 1 / 2 := by
      rw [div_eq_div_iff hpos.ne' two_ne_zero]
      exact_mod_cast (by omega : r * 2 = 1 * d)
    rw [hhalf]
    rcases Nat.even_or_odd q with hq | hq
    · have htie : |(q : ℚ) + 1 / 2 - q| = 1 / 2 := by rw [add_sub_cancel_left, abs_of_pos one_half_pos]
      rw [Nat.even_iff.mp hq]
      exact ⟨htie.le, fun _ => hq⟩
    · have htie : |(q : ℚ) + 1 / 2 - (q + 1 : ℕ)| = 1 / 2 := by
        rw [Nat.cast_add, Nat.cast_one, add_sub_add_left_eq_sub, abs_of_neg (by norm_num)]
        norm_num
      rw [Nat.odd_iff.mp hq]
      exact ⟨htie.le, fun _ => hq.add_one⟩

theorem divNearest_le_divNearest {m n : ℕ} (h : m ≤ n) : divNearest m d ≤ divNearest n d := by
  apply (nearestEven_divNearest hd m).le_of_le (nearestEven_divNearest hd n)
  gcongr

theorem divNearest_mul_self (n : ℕ) : divNearest (n * d) d = n := by
  have hr : n * d % d = 0 := Nat.mul_mod_left n d
  simp only [divNearest, hr, Nat.mul_div_cancel n hd, Nat.mul_zero, hd, if_true]

end

theorem divNearest_two_pow {s k : ℕ} (h : s ≤ k) : divNearest (2 ^ k) (2 ^ s) * 2 ^ s = 2 ^ k := by
  have hk : 2 ^ k = 2 ^ (k - s) * 2 ^ s := by rw [← pow_add, Nat.sub_add_cancel h]
  rw [hk, divNearest_mul_self (Nat.two_pow_pos s)]

theorem roundTo53Bits_eq_self {n : ℕ} (h : n < 2 ^ 53) : roundTo53Bits n = n := by
  have hlog : n.log2 - 52 = 0 := by
    by_cases hn : n = 0
    · rw [hn]
      rfl
    · have := (Nat.log2_lt hn).mpr h
      omega
  rw [roundTo53Bits, hlog]
  simpa using divNearest_mul_self Nat.one_pos n

theorem roundTo53Bits_le_two_pow (n : ℕ) : roundTo53Bits n ≤ 2 ^ (n.log2 + 1) := by
  let s := n.log2 - 52
  have hs : s ≤ n.log2 + 1 := by omega
  calc roundTo53Bits n = divNearest n (2 ^ s) * 2 ^ s := rfl
    _ ≤ divNearest (2 ^ (n.log2 + 1)) (2 ^ s) * 2 ^ s :=
      Nat.mul_le_mul_right _
        (divNearest_le_divNearest (Nat.two_pow_pos s) Nat.lt_log2_self.le)
    _ = 2 ^ (n.log2 + 1) := divNearest_two_pow hs

theorem two_pow_le_roundTo53Bits {n : ℕ} (hn : n ≠ 0) : 2 ^ n.log2 ≤ roundTo53Bits n := by
  let s := n.log2 - 52
  have hs : s ≤ n.log2 := by omega
  calc 2 ^ n.log2 = divNearest (2 ^ n.log2) (2 ^ s) * 2 ^ s := (divNearest_two_pow hs).symm
    _ ≤ divNearest n (2 ^ s) * 2 ^ s :=
      Nat.mul_le_mul_right _ (divNearest_le_divNearest (Nat.two_pow_pos s) (Nat.log2_self_le hn))
    _ = roundTo53Bits n := rfl

theorem roundTo53Bits_le_roundTo53Bits {m n : ℕ} (h : m ≤ n) :
    roundTo53Bits m ≤ roundTo53Bits n := by
  by_cases hm : m = 0
  · rw [hm, roundTo53Bits_eq_self (Nat.two_pow_pos 53)]
    exact Nat.zero_le _
  have hn : n ≠ 0 := by omega
  have hlog : m.log2 ≤ n.log2 := (Nat.le_log2 hn).mpr (Nat.le_trans (Nat.log2_self_le hm) h)
  rcases Nat.eq_or_lt_of_le hlog with heq | hlt
  · rw [roundTo53Bits, roundTo53Bits, heq]
    exact Nat.mul_le_mul_right _ (divNearest_le_divNearest (Nat.two_pow_pos _) h)
  · calc roundTo53Bits m ≤ 2 ^ (m.log2 + 1) := roundTo53Bits_le_two_pow m
      _ ≤ 2 ^ n.log2 := Nat.pow_le_pow_right Nat.two_pos hlt
      _ ≤ roundTo53Bits n := two_pow_le_roundTo53Bits hn

end DeviceChannels
