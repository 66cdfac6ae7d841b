import DeviceChannels.Json.Number
import Mathlib.Data.List.Forall2
import Mathlib.Tactic.Choose

/-!
The texts that spell a JSON value, by the grammar of the format. The reader plays no part here:
white space, the escapes of a character and the case of hexadecimal letters are free.
-/

namespace DeviceChannels.Json

def Gap (cs : List Char) : Prop := ∀ c ∈ cs, c ∈ [' ', '\t', '\n', '\r']

/-- A hexadecimal digit, its letters in either case. -/
def HexDigit (d : Nat) (c : Char) : Prop := d < 16 ∧ (c = d.digitChar ∨ c = d.digitChar.toUpper)

/-- The escape of a sixteen bit number. -/
inductive CodeUnit : Nat → List Char → Prop
  | mk {i j k l : Nat} {p q r s : Char} (hi : HexDigit i p) (hj : HexDigit j q)
      (hk : HexDigit k r) (hl : HexDigit l s) :
      CodeUnit (((i * 16 + j) * 16 + k) * 16 + l) ['\\', 'u', p, q, r, s]

def letterEscapes : List (Char × Char) :=
  [('"', '"'), ('\\', '\\'), ('/', '/'), ('\x08', 'b'), ('\x0c', 'f'), ('\n', 'n'), ('\r', 'r'),
   ('\t', 't')]

/-- The first of the two halves that UTF-16 has for a number beyond the basic plane. -/
def highHalf (n : Nat) : Nat := 0xD800 + (n - 0x10000) / 0x400

def lowHalf (n : Nat) : Nat := 0xDC00 + (n - 0x10000) % 0x400

/-- The ways to write a character between quotes. -/
inductive Written (c : Char) : List Char → Prop
  | plain (hquote : c ≠ '"') (hescape : c ≠ '\\') (hcontrol : 0x20 ≤ c.toNat) : Written c [c]
  | letter {e : Char} (h : (c, e) ∈ letterEscapes) : Written c ['\\', e]
  | unit {cs : List Char} (h : CodeUnit c.toNat cs) : Written c cs
  | pair {cs ds : List Char} (hplane : 0x10000 ≤ c.toNat) (hhigh : CodeUnit (highHalf c.toNat) cs)
      (hlow : CodeUnit (lowHalf c.toNat) ds) : Written c (cs ++ ds)

inductive Quoted (s : String) : List Char → Prop
  | mk {parts : List (List Char)} (h : List.Forall₂ Written s.toList parts) :
      Quoted s ('"' :: (parts.flatten ++ ['"']))

/-- Items with commas between them. -/
inductive Row (item : α → List Char → Prop) : List α → List Char → Prop
  | nil : Row item [] []
  | last {x : α} {t g : List Char} (hx : item x t) (hg : Gap g) : Row item [x] (t ++ g)
  | next {x y : α} {xs : List α} {t g g' ts : List Char} (hx : item x t) (hg : Gap g)
      (hg' : Gap g') (hxs : Row item (y :: xs) ts) :
      Row item (x :: y :: xs) (t ++ (g ++ ',' :: (g' ++ ts)))

inductive FieldText (spelled : Json → List Char → Prop) : String × Json → List Char → Prop
  | mk {key : String} {v : Json} {k g g' t : List Char} (hkey : Quoted key k) (hg : Gap g)
      (hg' : Gap g') (hv : spelled v t) : FieldText spelled (key, v) (k ++ (g ++ ':' :: (g' ++ t)))

/-- The texts of a value, from its first character to its last. -/
inductive Spelled : Json → List Char → Prop
  | null : Spelled .null ['n', 'u', 'l', 'l']
  | yes : Spelled (.bool true) ['t', 'r', 'u', 'e']
  | no : Spelled (.bool false) ['f', 'a', 'l', 's', 'e']
  | natural (n : UInt64) : Spelled (.natural n) (Nat.toDigits 10 n.toNat)
  | string {s : String} {t : List Char} (h : Quoted s t) : Spelled (.string s) t
  | array {items : List Json} {g t : List Char} (hg : Gap g) (h : Row Spelled items t) :
      Spelled (.array items) ('[' :: (g ++ (t ++ [']'])))
  | object {fields : List (String × Json)} {g t : List Char} (hg : Gap g)
      (h : Row (FieldText Spelled) fields t) : Spelled (.object fields) ('{' :: (g ++ (t ++ ['}'])))

/-- A text that is a value and nothing else. -/
def Document (json : Json) (text : String) : Prop :=
  ∃ g t g', Gap g ∧ Spelled json t ∧ Gap g' ∧ text.toList = g ++ (t ++ g')

/-- No more than `depth` arrays and objects stand within one another. -/
def Nested : (depth : Nat) → Json → Prop
  | 0, .array _ => False
  | 0, .object _ => False
  | depth + 1, .array items => ∀ x ∈ items, Nested depth x
  | depth + 1, .object fields => ∀ f ∈ fields, Nested depth f.2
  | _, _ => True

theorem gap_nil : Gap [] := by simp [Gap]

/-- No character is a half of a pair. -/
theorem toNat_cases (c : Char) : c.toNat < 0xD800 ∨ 0xDFFF < c.toNat ∧ c.toNat < 0x110000 :=
  c.valid

/-- A character beyond the basic plane, one half in capitals and the other not. -/
theorem written_clef : Written '𝄞' "\\uD834\\udd1e".toList := by
  have hhigh : CodeUnit (highHalf '𝄞'.toNat) ['\\', 'u', 'D', '8', '3', '4'] :=
    .mk (i := 13) (j := 8) (k := 3) (l := 4) ⟨by decide, .inr rfl⟩ ⟨by decide, .inl rfl⟩
      ⟨by decide, .inl rfl⟩ ⟨by decide, .inl rfl⟩
  have hlow : CodeUnit (lowHalf '𝄞'.toNat) ['\\', 'u', 'd', 'd', '1', 'e'] :=
    .mk (i := 13) (j := 13) (k := 1) (l := 14) ⟨by decide, .inl rfl⟩ ⟨by decide, .inl rfl⟩
      ⟨by decide, .inl rfl⟩ ⟨by decide, .inl rfl⟩
  exact .pair (by decide) hhigh hlow

/-- Nothing in the text has to be escaped. -/
def isPlain (s : String) : Bool := s.toList.all fun c => c ≠ '"' ∧ c ≠ '\\' ∧ 0x20 ≤ c.toNat

def inQuotes (s : String) : List Char := '"' :: (s.toList ++ ['"'])

theorem quoted_plain {s : String} (h : isPlain s = true) : Quoted s (inQuotes s) := by
  have hplain : ∀ c ∈ s.toList, Written c [c] := by
    intro c hc
    obtain ⟨hquote, hescape, hcontrol⟩ := of_decide_eq_true (List.all_eq_true.mp h c hc)
    exact .plain hquote hescape hcontrol
  have hparts : List.Forall₂ Written s.toList (s.toList.map fun c => [c]) :=
    List.forall₂_map_right_iff.mpr (List.forall₂_same.mpr hplain)
  have hflat : (s.toList.map fun c => [c]).flatten = s.toList := by
    rw [← List.flatMap_def, List.flatMap_singleton']
  rw [inQuotes, ← hflat]
  exact .mk hparts

theorem FieldText.plain {key : String} {v : Json} {t : List Char} (hkey : isPlain key = true)
    (hv : Spelled v t) : FieldText Spelled (key, v) (inQuotes key ++ ':' :: t) :=
  .mk (quoted_plain hkey) gap_nil gap_nil hv

theorem FieldText.natural {key : String} (hkey : isPlain key = true) (n : UInt64) :
    FieldText Spelled (key, .natural n) (inQuotes key ++ ':' :: Nat.toDigits 10 n.toNat) :=
  .plain hkey (.natural n)

theorem FieldText.string {key s : String} (hkey : isPlain key = true) (hs : isPlain s = true) :
    FieldText Spelled (key, .string s) (inQuotes key ++ ':' :: inQuotes s) :=
  .plain hkey (.string (quoted_plain hs))

theorem exists_codeUnit {n : Nat} (hn : n < 0x10000) : ∃ cs, CodeUnit n cs := by
  have hdigit {d : Nat} (hd : d < 16) : HexDigit d d.digitChar := ⟨hd, .inl rfl⟩
  have hsum : n = ((n / 4096 * 16 + n / 256 % 16) * 16 + n / 16 % 16) * 16 + n % 16 := by omega
  rw [hsum]
  exact ⟨_, .mk (hdigit (by omega)) (hdigit (by omega)) (hdigit (by omega)) (hdigit (by omega))⟩

theorem exists_written (c : Char) : ∃ cs, Written c cs := by
  by_cases hplane : c.toNat < 0x10000
  · obtain ⟨cs, h⟩ := exists_codeUnit hplane
    exact ⟨cs, .unit h⟩
  · have := toNat_cases c
    obtain ⟨cs, hhigh⟩ : ∃ cs, CodeUnit (highHalf c.toNat) cs :=
      exists_codeUnit (by rw [highHalf]; omega)
    obtain ⟨ds, hlow⟩ : ∃ ds, CodeUnit (lowHalf c.toNat) ds :=
      exists_codeUnit (by rw [lowHalf]; omega)
    exact ⟨cs ++ ds, .pair (by omega) hhigh hlow⟩

theorem exists_quoted (s : String) : ∃ t, Quoted s t := by
  choose text htext using exists_written
  exact ⟨_, .mk (List.forall₂_map_right_iff.mpr (List.forall₂_same.mpr fun c _ => htext c))⟩

theorem Row.intercalate {item : α → List Char → Prop} {xs : List α} {ts : List (List Char)}
    (h : List.Forall₂ item xs ts) : Row item xs ([','].intercalate ts) := by
  induction h with
  | nil => exact .nil
  | @cons x t xs ts hx hxs ih =>
    cases hxs with
    | nil => simpa using Row.last hx gap_nil
    | cons => simpa [List.intercalate_cons_cons] using Row.next hx gap_nil gap_nil ih

theorem exists_row {item : α → List Char → Prop} {xs : List α} (h : ∀ x ∈ xs, ∃ t, item x t) :
    ∃ t, Row item xs t := by
  have htexts : ∃ ts, List.Forall₂ item xs ts := by
    induction xs with
    | nil => exact ⟨[], .nil⟩
    | cons x xs ih =>
      obtain ⟨t, ht⟩ := h x (by simp)
      obtain ⟨ts, hts⟩ := ih fun y hy => h y (by simp [hy])
      exact ⟨t :: ts, .cons ht hts⟩
  obtain ⟨ts, hts⟩ := htexts
  exact ⟨_, .intercalate hts⟩

theorem exists_array {items : List Json} (h : ∀ x ∈ items, ∃ t, Spelled x t) :
    ∃ t, Spelled (.array items) t := by
  obtain ⟨t, ht⟩ := exists_row h
  exact ⟨_, .array gap_nil ht⟩

theorem exists_object {fields : List (String × Json)} (h : ∀ f ∈ fields, ∃ t, Spelled f.2 t) :
    ∃ t, Spelled (.object fields) t := by
  have hfields : ∀ f ∈ fields, ∃ t, FieldText Spelled f t := by
    intro f hf
    obtain ⟨k, hk⟩ := exists_quoted f.1
    obtain ⟨t, ht⟩ := h f hf
    exact ⟨_, .mk hk gap_nil gap_nil ht⟩
  obtain ⟨t, ht⟩ := exists_row hfields
  exact ⟨_, .object gap_nil ht⟩

end DeviceChannels.Json
