import DeviceChannels.Proofs.JsonScalars

/-!
The reader of JSON on whole values. What is nested in a value is read by a reader handed down, so
that each step needs of it only that it reads the texts of the nested values.
-/

namespace DeviceChannels.Json

/-- The reader takes off each text of `x` that white space precedes, and no more than that. -/
def Reads (read : List Char → Read α) (spelled : α → List Char → Prop) (x : α) : Prop :=
  ∀ {t g rest : List Char}, spelled x t → Gap g → Stops rest →
    read (g ++ (t ++ rest)) = .ok (x, rest)

theorem Gap.stops {g rest : List Char} (hg : Gap g) (h : Stops rest) : Stops (g ++ rest) := by
  cases g with
  | nil => exact h
  | cons c g =>
    intro d hd
    have hc : c ∈ [' ', '\t', '\n', '\r'] := hg c (by simp)
    simp only [List.cons_append, List.head?_cons, Option.mem_some_iff] at hd
    simp only [List.mem_cons, List.not_mem_nil, or_false] at hc
    subst hd
    rcases hc with rfl | rfl | rfl | rfl <;> decide

theorem Row.length_le {item : α → List Char → Prop} {xs : List α} {t : List Char}
    (h : Row item xs t) : xs.length ≤ t.length + 1 := by
  induction h with
  | nil => simp
  | last => simp
  | next _ _ _ _ ih =>
    simp only [List.length_cons, List.length_append] at ih ⊢
    omega

namespace Enclosure

theorem isSpace_close (e : Enclosure) : isSpace e.close = false := by
  cases e <;> rfl

theorem comma_ne_close (e : Enclosure) : ',' ≠ e.close := by
  cases e <;> decide

theorem stops_close (e : Enclosure) (rest : List Char) : Stops (e.close :: rest) := by
  cases e <;> simp [Stops, close]

/-- The text begins with something that neither ends the enclosure nor can be skipped. -/
def Opens (e : Enclosure) (t : List Char) : Prop :=
  ∃ c cs, t = c :: cs ∧ isSpace c = false ∧ c ≠ e.close

theorem Opens.append {e : Enclosure} {t : List Char} (h : e.Opens t) (rest : List Char) :
    e.Opens (t ++ rest) := by
  obtain ⟨c, cs, rfl, hc⟩ := h
  exact ⟨c, cs ++ rest, rfl, hc⟩

theorem Opens.row {e : Enclosure} {item : α → List Char → Prop} {xs : List α} {t : List Char}
    (hopens : ∀ x t, item x t → e.Opens t) (h : Row item xs t) (hne : xs ≠ []) : e.Opens t := by
  cases h with
  | nil => exact absurd rfl hne
  | last hx _ | next hx => exact (hopens _ _ hx).append _

end Enclosure

section Row

variable {read : List Char → Read α} {spelled : α → List Char → Prop} {e : Enclosure}
  {xs : List α} {t : List Char} (hopens : ∀ x t, spelled x t → e.Opens t)
  (hreads : ∀ x ∈ xs, Reads read spelled x)

include hopens hreads

theorem sequence_row (h : Row spelled xs t) (hne : xs ≠ []) {bound : Nat}
    (hbound : xs.length ≤ bound) (acc : List α) {g : List Char} (hg : Gap g) (rest : List Char) :
    sequence e read bound acc (g ++ (t ++ e.close :: rest)) = .ok (acc.reverse ++ xs, rest) := by
  -- Each item uses up one of the bound, which the enclosing brackets set by the text's length.
  induction h generalizing bound acc g with
  | nil => exact absurd rfl hne
  | @last x t g' hx hg' =>
    cases bound with
    | zero => simp at hbound
    | succ bound =>
      have hstops : Stops (g' ++ e.close :: rest) := hg'.stops (e.stops_close rest)
      rw [sequence, List.append_assoc, hreads x (by simp) hx hg hstops]
      simp [skipSpace_gap hg', skipSpace_cons e.isSpace_close]
  | @next x y xs t g' g'' ts hx hg' hg'' hxs ih =>
    cases bound with
    | zero => simp at hbound
    | succ bound =>
      have hstops : Stops (g' ++ (',' :: (g'' ++ ts) ++ e.close :: rest)) :=
        hg'.stops (by simp [Stops])
      have hrest := ih (fun z hz => hreads z (by simp [hz])) (by simp) (by simpa using hbound)
        (x :: acc) gap_nil
      -- What follows the comma is looked at before the next item is read.
      obtain ⟨c, cs, rfl, hc, hcclose⟩ := Enclosure.Opens.row hopens hxs (by simp)
      rw [sequence, List.append_assoc, List.append_assoc, hreads x (by simp) hx hg hstops]
      simpa [skipSpace_gap hg', skipSpace_cons (c := ',') rfl, e.comma_ne_close,
        skipSpace_gap hg'', skipSpace_cons hc, hcclose] using hrest

theorem enclosed_row (h : Row spelled xs t) {g : List Char} (hg : Gap g) (rest : List Char) :
    enclosed e read (g ++ (t ++ e.close :: rest)) = .ok (xs, rest) := by
  by_cases hne : xs = []
  · subst hne
    cases h
    simp [enclosed, skipSpace_gap hg, skipSpace_cons e.isSpace_close]
  · obtain ⟨c, cs, rfl, hc, hcclose⟩ := Enclosure.Opens.row hopens h hne
    have hlength : xs.length ≤ (cs ++ e.close :: rest).length + 1 := by
      have := h.length_le
      simp only [List.length_cons, List.length_append] at this ⊢
      omega
    have hseq := sequence_row hopens hreads h hne hlength [] gap_nil rest
    simpa [enclosed, skipSpace_gap hg, skipSpace_cons hc, hcclose] using hseq

end Row

theorem Quoted.read {s : String} {t : List Char} (h : Quoted s t) :
    ∃ cs, t = '"' :: cs ∧ ∀ rest, quotedText (cs ++ rest) = .ok (s, rest) := by
  cases h with
  | mk h => exact ⟨_, rfl, fun rest => by simpa using quotedText_written h rest⟩

theorem reads_field {read : List Char → Read Json} {spelled : Json → List Char → Prop}
    {f : String × Json} (h : Reads read spelled f.2) :
    Reads (field read) (FieldText spelled) f := by
  intro t g rest hf hg hrest
  cases hf with
  | @mk key v k g' g'' t hkey hg' hg'' hv =>
    obtain ⟨cs, rfl, hquoted⟩ := hkey.read
    have hread := h hv hg'' hrest
    simp [field, skipSpace_gap hg, skipSpace_gap hg', skipSpace_cons (c := '"') rfl,
      skipSpace_cons (c := ':') rfl, hquoted, hread]

theorem FieldText.opens {spelled : Json → List Char → Prop} {f : String × Json} {t : List Char}
    (h : FieldText spelled f t) : Enclosure.braces.Opens t := by
  cases h with
  | mk hkey =>
    obtain ⟨cs, rfl, _⟩ := hkey.read
    exact ⟨_, _, rfl, rfl, by decide⟩

theorem isSpace_digit {d : Char} (hd : d.isDigit = true) : isSpace d = false := by
  rw [← Bool.not_eq_true]
  intro hs
  simp only [isSpace, Bool.or_eq_true, beq_iff_eq] at hs
  rcases hs with ((rfl | rfl) | rfl) | rfl <;> exact absurd hd (by decide)

theorem Spelled.opens {json : Json} {t : List Char} (h : Spelled json t) :
    Enclosure.brackets.Opens t := by
  cases h with
  | natural n =>
    obtain ⟨d, ds, hd, hdigit, _⟩ := exists_toDigits n.toNat
    refine ⟨d, ds, hd, isSpace_digit hdigit, ?_⟩
    rintro rfl
    exact absurd hdigit (by decide)
  | string h =>
    obtain ⟨cs, rfl, _⟩ := h.read
    exact ⟨_, _, rfl, rfl, by decide⟩
  | _ => exact ⟨_, _, rfl, rfl, by decide⟩

/-- What is nested in a value has a reader, and it reads all of it. -/
def Inner (item : Option (List Char → Read Json)) : Json → Prop
  | .array items => ∃ read, item = some read ∧ ∀ x ∈ items, Reads read Spelled x
  | .object fields => ∃ read, item = some read ∧ ∀ f ∈ fields, Reads read Spelled f.2
  | _ => True

theorem valueWith_digit {d : Char} (hd : d.isDigit = true) (item : Option (List Char → Read Json))
    (cs : List Char) : valueWith item (d :: cs) = number (d :: cs) := by
  rw [valueWith, skipSpace_cons (isSpace_digit hd)]
  split <;> simp_all

theorem reads_valueWith {item : Option (List Char → Read Json)} {json : Json}
    (h : Inner item json) : Reads (valueWith item) Spelled json := by
  intro t g rest ht hg hrest
  have hskip : valueWith item (g ++ (t ++ rest)) = valueWith item (t ++ rest) := by
    simp [valueWith, skipSpace_gap hg]
  rw [hskip]
  cases ht with
  | null | yes | no => rfl
  | natural n =>
    obtain ⟨d, ds, hd, hdigit, _⟩ := exists_toDigits n.toNat
    rw [← number_natural n hrest, hd]
    exact valueWith_digit hdigit item _
  | string hs =>
    obtain ⟨cs, rfl, hquoted⟩ := hs.read
    simp [valueWith, skipSpace_cons (c := '"') rfl, hquoted]
  | array hg' hrow =>
    obtain ⟨read, rfl, hreads⟩ := h
    have henclosed := enclosed_row (fun _ _ => Spelled.opens) hreads hrow hg' rest
    simp only [Enclosure.close] at henclosed
    simp [valueWith, skipSpace_cons (c := '[') rfl, henclosed]
  | object hg' hrow =>
    obtain ⟨read, rfl, hreads⟩ := h
    have henclosed := enclosed_row (fun _ _ => FieldText.opens)
      (fun f hf => reads_field (hreads f hf)) hrow hg' rest
    simp only [Enclosure.close] at henclosed
    simp [valueWith, skipSpace_cons (c := '{') rfl, henclosed]

theorem reads_value {depth : Nat} {json : Json} (h : Nested depth json) :
    Reads (value depth) Spelled json := by
  induction depth generalizing json with
  | zero =>
    apply reads_valueWith
    cases json <;> simp_all [Inner, Nested]
  | succ depth ih =>
    apply reads_valueWith
    cases json with
    | array items => exact ⟨_, rfl, fun x hx => ih (h x hx)⟩
    | object fields => exact ⟨_, rfl, fun f hf => ih (h f hf)⟩
    | _ => exact trivial

/-- The reader finds the value of every document, and nothing after it. -/
theorem value_document {depth : Nat} {json : Json} {text : String} (h : Document json text)
    (hn : Nested depth json) :
    ∃ rest, value depth text.toList = .ok (json, rest) ∧ skipSpace rest = [] := by
  obtain ⟨g, t, g', hg, ht, hg', htext⟩ := h
  have hend : skipSpace g' = [] := by simpa [skipSpace] using skipSpace_gap hg' []
  have hnil : Stops [] := by simp [Stops]
  have hstops : Stops g' := by simpa using hg'.stops hnil
  exact ⟨g', by rw [htext, reads_value hn ht hg hstops], hend⟩

end DeviceChannels.Json
