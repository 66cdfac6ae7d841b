import Mathlib.Data.List.Induction
import Mathlib.Data.List.Nodup
import Mathlib.Data.List.Perm.Basic

/-! Facts about lists that more than one part of the program leans on: entries that are looked up by
their keys, lists freed of repetitions, an item taken out from where it stands, the bytes of a text
that is a list of characters. -/

namespace DeviceChannels

theorem lookup_eq_some_iff_mem {α β : Type} [BEq α] [LawfulBEq α] {entries : List (α × β)}
    (h : (entries.map Prod.fst).Nodup) {k : α} {v : β} :
    entries.lookup k = some v ↔ (k, v) ∈ entries := by
  induction entries with
  | nil => simp
  | cons e entries ih =>
    obtain ⟨k', v'⟩ := e
    obtain ⟨hk', hrest⟩ := List.nodup_cons.mp h
    by_cases hk : k = k'
    · subst hk
      have hout : (k, v) ∉ entries := fun hm => hk' (List.mem_map.mpr ⟨_, hm, rfl⟩)
      simp [hout, eq_comm]
    · have hb : (k == k') = false := beq_eq_false_iff_ne.mpr hk
      simp [List.lookup_cons, hb, hk, ih hrest]

theorem eraseDups_concat {α : Type} [BEq α] [LawfulBEq α] [DecidableEq α] (xs : List α) (x : α) :
    (xs ++ [x]).eraseDups = if x ∈ xs then xs.eraseDups else xs.eraseDups ++ [x] := by
  rw [List.eraseDups_append]
  by_cases hx : x ∈ xs <;> simp [List.removeAll, List.eraseDups_cons, hx]

theorem nodup_eraseDups {α : Type} [BEq α] [LawfulBEq α] [DecidableEq α] (xs : List α) :
    xs.eraseDups.Nodup := by
  induction xs using List.reverseRecOn with
  | nil => simp
  | append_singleton xs x ih =>
    rw [eraseDups_concat]
    by_cases hx : x ∈ xs
    · simpa [hx] using ih
    · have hout : x ∉ xs.eraseDups := fun hm => hx (List.mem_eraseDups.mp hm)
      simpa [hx] using ih.concat hout

theorem intercalate_concat {α : Type} {separator : List α} {groups : List (List α)}
    (h : groups ≠ []) (group : List α) :
    separator.intercalate (groups ++ [group]) =
      separator.intercalate groups ++ separator ++ group := by
  induction groups with
  | nil => exact absurd rfl h
  | cons g gs ih =>
    cases gs with
    | nil => simp [List.intercalate]
    | cons g' gs =>
      have hi := ih (List.cons_ne_nil g' gs)
      rw [List.cons_append] at hi
      simp [List.intercalate_cons_cons, hi]

theorem perm_of_getElem? {α : Type} {xs : List α} {n : Nat} {x : α} (h : xs[n]? = some x) :
    (x :: xs.eraseIdx n).Perm xs := by
  obtain ⟨hn, rfl⟩ := List.getElem?_eq_some_iff.mp h
  exact List.getElem_cons_eraseIdx_perm hn

theorem utf8ByteSize_ofList_cons (c : Char) (cs : List Char) :
    (String.ofList (c :: cs)).utf8ByteSize = c.utf8Size + (String.ofList cs).utf8ByteSize := by
  rw [String.ofList_cons, String.utf8ByteSize_append, String.utf8ByteSize_singleton]

end DeviceChannels
