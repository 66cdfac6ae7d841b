import DeviceChannels.Proofs.KeymapCoherence
import DeviceChannels.Screen.HelpOverlay
import Mathlib.Data.List.Count

/-! What the help lists. It has a group of rows for each context that has bindings, in a fixed order
of the contexts: a heading, then the bindings of the context. -/

namespace DeviceChannels

namespace Keymap

def bindingsIn (m : Keymap) (context : Context) : List Binding :=
  m.bindings.filter fun b => b.context = context

end Keymap

namespace HelpOverlay

variable (m : Keymap)

def group (s : Context × String) : List HelpRow :=
  .heading s.2 :: (m.bindingsIn s.1).map fun b => .binding b.key.text b.action.describe

def groups (ss : List (Context × String)) : List (List HelpRow) :=
  (ss.filter fun s => m.bindingsIn s.1 ≠ []).map (group m)

theorem intercalate_groups_ne_nil {ss : List (Context × String)} (h : groups m ss ≠ []) :
    [HelpRow.blank].intercalate (groups m ss) ≠ [] := by
  obtain ⟨g, gs, hg⟩ := List.exists_cons_of_ne_nil h
  obtain ⟨s, _, rfl⟩ := List.mem_map.mp (hg ▸ List.mem_cons_self : g ∈ groups m ss)
  rw [hg]
  cases gs <;> simp [List.intercalate_cons_cons, group]

theorem addSection_groups (ss : List (Context × String)) (s : Context × String) :
    addSection m ([.blank].intercalate (groups m ss)) s =
      [.blank].intercalate (groups m (ss ++ [s])) := by
  have hrows : bindingRows m s.1 =
      (m.bindingsIn s.1).map fun b => .binding b.key.text b.action.describe := rfl
  by_cases hb : m.bindingsIn s.1 = []
  · have hg : groups m (ss ++ [s]) = groups m ss := by simp [groups, hb]
    simp [addSection, hrows, hb, hg]
  · have hg : groups m (ss ++ [s]) = groups m ss ++ [group m s] := by simp [groups, hb]
    by_cases hn : groups m ss = []
    · simp [addSection, hrows, hg, hn, group, hb]
    · have hne := intercalate_groups_ne_nil m hn
      rw [hg, intercalate_concat hn]
      simp [addSection, hrows, hne, group, hb]

theorem rows_eq : rows m = [.blank].intercalate (groups m sections) := by
  have hrun (ss : List (Context × String)) :
      ss.foldl (addSection m) [] = [.blank].intercalate (groups m ss) := by
    induction ss using List.reverseRecOn with
    | nil => rfl
    | append_singleton ss s ih =>
      rw [List.foldl_append, ih]
      exact addSection_groups m ss s
  exact hrun sections

/-- Each binding stands under one heading, once. -/
theorem perm_sections : (sections.flatMap fun s => m.bindingsIn s.1).Perm m.bindings := by
  apply List.perm_iff_count.mpr
  intro b
  have hcount (context : Context) :
      (m.bindingsIn context).count b = if b.context = context then m.bindings.count b else 0 := by
    by_cases hc : b.context = context
    · simp [Keymap.bindingsIn, hc, List.count_filter]
    · have hout : b ∉ m.bindingsIn context := by simp [Keymap.bindingsIn, hc]
      simp [hc, List.count_eq_zero_of_not_mem hout]
  simp only [sections, List.flatMap_cons, List.flatMap_nil, List.count_append, hcount]
  cases b.context <;> simp

end HelpOverlay

/-- After any configurations the list of the bindings and the table say the same, and a key does what
is listed for it. The help shows the bindings in groups, one for each context that has any, and
among the groups there is each binding once. -/
theorem Keymap.listed_iff_in_effect (configs : List (List (String × String))) :
    let m : Keymap := overridden configs
    (m.bindings.map Binding.place).Nodup ∧
      (∀ b, b ∈ m.bindings ↔ m.table.lookup b.place = some b.action) ∧
      (∀ context key action, m.actionFor context key = some action ↔
        ⟨context, key.normalized, action⟩ ∈ m.bindings ∨
          context = .channelList ∧ (∀ a, ⟨.channelList, key.normalized, a⟩ ∉ m.bindings) ∧
            ⟨.global, key.normalized, action⟩ ∈ m.bindings) ∧
      HelpOverlay.rows m = [.blank].intercalate (HelpOverlay.groups m HelpOverlay.sections) ∧
      (HelpOverlay.sections.flatMap fun s => m.bindingsIn s.1).Perm m.bindings := by
  intro m
  have h : m.Coherent := coherent_overridden configs
  exact ⟨h.places_nodup, fun _ => h.lookup_eq_some_iff.symm, fun _ _ _ => h.actionFor_eq_some_iff,
    HelpOverlay.rows_eq m, HelpOverlay.perm_sections m⟩

/-- Deleting is moved to the key that refreshes. On the list of the channels the key only deletes; in
the help it stands under both headings. -/
theorem Keymap.shadowed_key_listed_twice :
    let m : Keymap := overridden [[("delete", "r")]]
    let r : Key := { code := .char 'r' }
    let q : Key := { code := .char 'q' }
    (m.bindings.map Binding.place).Nodup ∧ m.table.lookup (.channelList, r) = some .deleteChannel ∧
      m.table.lookup (.global, r) = some .refresh ∧
      m.actionFor .channelList r = some .deleteChannel ∧ m.actionFor .channelList q = some .quit ∧
      (HelpOverlay.sections.flatMap fun s => m.bindingsIn s.1).Perm m.bindings ∧
      (HelpOverlay.rows m).filter (fun row => row matches .binding "r" _) =
        [.binding "r" Action.refresh.describe, .binding "r" Action.deleteChannel.describe] := by
  intro m r q
  obtain ⟨hnodup, hlookup, haction, hrows, hperm⟩ := listed_iff_in_effect [[("delete", "r")]]
  have hdelete : ⟨.channelList, r, .deleteChannel⟩ ∈ m.bindings := by decide +kernel
  have hrefresh : ⟨.global, r, .refresh⟩ ∈ m.bindings := by decide +kernel
  have hquit : ⟨.global, q, .quit⟩ ∈ m.bindings := by decide +kernel
  have hplace : (.channelList, q) ∉ m.bindings.map Binding.place := by decide +kernel
  have hunlisted : ∀ a, ⟨.channelList, q, a⟩ ∉ m.bindings :=
    fun a ha => hplace (List.mem_map.mpr ⟨_, ha, rfl⟩)
  exact ⟨hnodup, (hlookup _).mp hdelete, (hlookup _).mp hrefresh,
    (haction .channelList r _).mpr (.inl hdelete),
    (haction .channelList q _).mpr (.inr ⟨rfl, hunlisted, hquit⟩), hperm, by decide +kernel⟩

end DeviceChannels
