import Mathlib.Algebra.Group.Nat.Defs
import Mathlib.Data.List.Basic

/-! Texts as bytes in UTF-8. The order of texts by their code points is that by their bytes: the
first byte of a code point tells how many there are, and a greater code point never has fewer. -/

namespace DeviceChannels.Text

def bytes (s : String) : List UInt8 := s.toUTF8.data.toList

/-- The last `k` bytes of a code point, with six bits of it in each. -/
def trailing : Nat → Nat → List UInt8
  | 0, _ => []
  | k + 1, v => .ofNat (v / 64 ^ k % 64 + 0x80) :: trailing k v

/-- The code point takes `k` bytes after the first one, which begins with the bits of `mark`. -/
inductive Marked (v : Nat) : Nat → Nat → Prop
  | one (hi : v < 0x80) : Marked v 0 0
  | two (lo : 0x80 ≤ v) (hi : v < 0x800) : Marked v 1 0xC0
  | three (lo : 0x800 ≤ v) (hi : v < 0x10000) : Marked v 2 0xE0
  | four (lo : 0x10000 ≤ v) (hi : v < 0x110000) : Marked v 3 0xF0

theorem bytes_eq (s : String) : bytes s = s.toList.flatMap String.utf8EncodeChar := by
  have hb : s.toByteArray = s.toList.utf8Encode := by
    rw [← String.ofList_toList (s := s)]
    simp
  rw [bytes, String.toUTF8_eq_toByteArray, hb, List.utf8Encode, List.toList_data_toByteArray]

theorem exists_marked (c : Char) : ∃ k mark, Marked c.val.toNat k mark ∧
    String.utf8EncodeChar c = .ofNat (mark + c.val.toNat / 64 ^ k) :: trailing k c.val.toNat := by
  have hc : c.val.toNat < 0x110000 := by
    rcases c.valid with h | ⟨_, h⟩
    · exact Nat.lt_trans h (by decide)
    · exact h
  unfold String.utf8EncodeChar
  generalize c.val.toNat = v at hc
  dsimp only
  split
  · exact ⟨0, 0, .one (by omega), by simp [trailing]⟩
  split
  · refine ⟨1, 0xC0, .two (by omega) (by omega), ?_⟩
    have h : v / 64 % 0x20 + 0xC0 = 0xC0 + v / 64 := by omega
    simp [trailing, h]
  split
  · refine ⟨2, 0xE0, .three (by omega) (by omega), ?_⟩
    have h : v / 4096 % 0x10 + 0xE0 = 0xE0 + v / 4096 := by omega
    simp [trailing, h]
  · refine ⟨3, 0xF0, .four (by omega) hc, ?_⟩
    have h : v / 262144 % 0x08 + 0xF0 = 0xF0 + v / 262144 := by omega
    simp [trailing, h]

theorem byte_cons_lt {m n : Nat} {xs ys : List UInt8} (hm : m < 256) (hn : n < 256)
    (h : m < n ∨ m = n ∧ xs < ys) : UInt8.ofNat m :: xs < UInt8.ofNat n :: ys := by
  rw [List.cons_lt_cons_iff]
  rcases h with hlt | ⟨rfl, hlt⟩
  · left
    rwa [UInt8.lt_iff_toNat_lt, UInt8.toNat_ofNat_of_lt' hm, UInt8.toNat_ofNat_of_lt' hn]
  · exact .inr ⟨rfl, hlt⟩

/-- Where the bits before them agree, the first of the trailing bytes that differ decide. -/
theorem trailing_append_lt {k v w : Nat} (h : v < w) (htop : v / 64 ^ k = w / 64 ^ k)
    (xs ys : List UInt8) : trailing k v ++ xs < trailing k w ++ ys := by
  induction k with
  | zero =>
    rw [pow_zero, Nat.div_one, Nat.div_one] at htop
    omega
  | succ k ih =>
    refine byte_cons_lt (by omega) (by omega) ?_
    have hle : v / 64 ^ k ≤ w / 64 ^ k := Nat.div_le_div_right (Nat.le_of_lt h)
    rw [pow_succ, ← Nat.div_div_eq_div_mul, ← Nat.div_div_eq_div_mul] at htop
    rcases Nat.lt_or_eq_of_le hle with hlt | heq
    · left
      omega
    · exact .inr ⟨by rw [heq], ih heq⟩

theorem Marked.first_lt {v w k l mark mark' : Nat} (hv : Marked v k mark) (hw : Marked w l mark')
    (h : v < w) : mark + v / 64 ^ k < mark' + w / 64 ^ l ∨
      k = l ∧ mark = mark' ∧ v / 64 ^ k = w / 64 ^ l := by
  cases hv <;> cases hw <;> omega

theorem Marked.first_lt_256 {v k mark : Nat} (hv : Marked v k mark) : mark + v / 64 ^ k < 256 := by
  cases hv <;> omega

/-- The bytes of two characters differ before either of them ends, so it does not matter what
follows. -/
theorem utf8EncodeChar_append_lt {c d : Char} (h : c < d) (xs ys : List UInt8) :
    String.utf8EncodeChar c ++ xs < String.utf8EncodeChar d ++ ys := by
  obtain ⟨k, mark, hc, hcode⟩ := exists_marked c
  obtain ⟨l, mark', hd, hcode'⟩ := exists_marked d
  rw [hcode, hcode']
  refine byte_cons_lt hc.first_lt_256 hd.first_lt_256 ?_
  rcases hc.first_lt hd h with hlt | ⟨rfl, rfl, htop⟩
  · exact .inl hlt
  · exact .inr ⟨by rw [htop], trailing_append_lt h htop xs ys⟩

theorem flatMap_utf8EncodeChar_lt {cs ds : List Char} (h : cs < ds) :
    cs.flatMap String.utf8EncodeChar < ds.flatMap String.utf8EncodeChar := by
  induction h with
  | @nil d ds =>
    obtain ⟨l, mark, _, hcode⟩ := exists_marked d
    rw [List.flatMap_nil, List.flatMap_cons, hcode]
    exact List.nil_lt_cons _ _
  | rel h => exact utf8EncodeChar_append_lt h _ _
  | cons h ih => exact List.append_left_lt ih

theorem bytes_lt_iff (s t : String) : bytes s < bytes t ↔ s < t := by
  have hmono {s t : String} (h : s < t) : bytes s < bytes t := by
    rw [bytes_eq, bytes_eq]
    exact flatMap_utf8EncodeChar_lt h
  refine ⟨fun h => ?_, hmono⟩
  by_contra hn
  by_cases hgt : t < s
  · exact List.lt_asymm h (hmono hgt)
  · obtain rfl : s = t := String.le_antisymm hgt hn
    exact List.lt_irrefl _ h

theorem bytes_le_iff (s t : String) : bytes s ≤ bytes t ↔ s ≤ t :=
  not_congr (bytes_lt_iff t s)

end DeviceChannels.Text
