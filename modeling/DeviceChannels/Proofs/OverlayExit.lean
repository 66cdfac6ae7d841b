import DeviceChannels.Proofs.OverrideOrder
import Mathlib.Data.List.Dedup
import Mathlib.Data.List.Perm.Subperm

/-! Overlays that can always be left. An override takes at most one key in a context, so an action
with more keys there than it has rivals keeps one of them, or has the key of its own override. -/

namespace DeviceChannels.Keymap

def requested? (entry : String × String) : Option (Action × Key) :=
  (Action.ofName? entry.1).bind fun action => (Key.ofText? entry.2).map fun key => (action, key)

def rebindAll (m : Keymap) (requests : List (Action × Key)) : Keymap :=
  requests.foldl (fun m r => m.rebind r.1 r.2) m

def keysOf (m : Keymap) (context : Context) (action : Action) : List Key :=
  (m.bindings.filter fun b => b.context = context ∧ b.action = action).map Binding.key

def rivals (context : Context) (action : Action) : List Action :=
  ((default.bindings.filter fun b => b.context = context ∧ b.action ≠ action).map
    Binding.action).dedup

/-- The keys that rivals of the action have asked for. -/
def taken (context : Context) (action : Action) (requests : List (Action × Key)) : List Key :=
  (requests.filter fun r => r.1 ∈ rivals context action).map Prod.snd

/-- The action has the key of its own request; without one, all its default keys but those that its
rivals have taken. -/
def Holds (m : Keymap) (context : Context) (action : Action)
    (requests : List (Action × Key)) : Prop :=
  (∃ key, (action, key) ∈ requests ∧ ⟨context, key, action⟩ ∈ m.bindings) ∨
    action ∉ requests.map Prod.fst ∧ ∀ key ∈ default.keysOf context action,
      key ∉ taken context action requests → ⟨context, key, action⟩ ∈ m.bindings

variable {m : Keymap} {context : Context} {action : Action} {key : Key}
  {requests : List (Action × Key)}

theorem requested?_eq_some_iff {entry : String × String} :
    requested? entry = some (action, key) ↔
      Action.ofName? entry.1 = some action ∧ Key.ofText? entry.2 = some key := by
  simp [requested?, Option.bind_eq_some_iff]

theorem applyOverrides_eq_rebindAll (m : Keymap) (entries : List (String × String)) :
    (m.applyOverrides entries).1 = m.rebindAll (entries.filterMap requested?) := by
  induction entries generalizing m with
  | nil => rfl
  | cons entry entries ih =>
    have hi := ih (m.applyOverride entry).1
    cases ha : Action.ofName? entry.1 with
    | none => simpa [applyOverrides, applyOverride, requested?, ha] using hi
    | some a =>
      cases hk : Key.ofText? entry.2 with
      | none => simpa [applyOverrides, applyOverride, requested?, ha, hk] using hi
      | some k => simpa [applyOverrides, applyOverride, requested?, ha, hk, rebindAll] using hi

theorem rebindAll_append_singleton (m : Keymap) (requests : List (Action × Key))
    (r : Action × Key) : m.rebindAll (requests ++ [r]) = (m.rebindAll requests).rebind r.1 r.2 := by
  simp [rebindAll]

theorem mem_keysOf : key ∈ m.keysOf context action ↔ ⟨context, key, action⟩ ∈ m.bindings := by
  constructor
  · intro hk
    obtain ⟨⟨c, k, a⟩, hb, rfl⟩ := List.mem_map.mp hk
    obtain ⟨hm, hca⟩ := List.mem_filter.mp hb
    obtain ⟨rfl, rfl⟩ : c = context ∧ a = action := by simpa using hca
    exact hm
  · intro hm
    exact List.mem_map.mpr ⟨_, List.mem_filter.mpr ⟨hm, by simp⟩, rfl⟩

theorem Coherent.keysOf_nodup (h : m.Coherent) (context : Context) (action : Action) :
    (m.keysOf context action).Nodup := by
  have hplaces : ((m.bindings.filter fun b => b.context = context ∧ b.action = action).map
      Binding.place).Nodup := h.places_nodup.sublist (List.filter_sublist.map Binding.place)
  refine List.Nodup.of_map (fun k => (context, k)) ?_
  have heq : (m.keysOf context action).map (fun k => (context, k)) =
      (m.bindings.filter fun b => b.context = context ∧ b.action = action).map Binding.place := by
    rw [keysOf, List.map_map]
    apply List.map_congr_left
    intro b hb
    obtain ⟨hc, _⟩ : b.context = context ∧ b.action = action := by
      simpa using (List.mem_filter.mp hb).2
    simp [Binding.place, hc]
  rwa [heq]

theorem mem_rivals {a : Action} :
    a ∈ rivals context action ↔ a ≠ action ∧ context ∈ default.contextsOf a := by
  rw [rivals, List.mem_dedup, mem_contextsOf]
  constructor
  · intro ha
    obtain ⟨⟨c, k, _⟩, hb, rfl⟩ := List.mem_map.mp ha
    obtain ⟨hm, hca⟩ := List.mem_filter.mp hb
    obtain ⟨rfl, hne⟩ : c = context ∧ _ := by simpa using hca
    exact ⟨hne, k, hm⟩
  · rintro ⟨hne, k, hm⟩
    exact List.mem_map.mpr ⟨_, List.mem_filter.mpr ⟨hm, by simp [hne]⟩, rfl⟩

theorem taken_append (requests requests' : List (Action × Key)) :
    taken context action (requests ++ requests') =
      taken context action requests ++ taken context action requests' := by
  simp [taken]

theorem length_taken_le (hactions : (requests.map Prod.fst).Nodup) :
    (taken context action requests).length ≤ (rivals context action).length := by
  have hnodup : ((requests.filter fun r => r.1 ∈ rivals context action).map Prod.fst).Nodup :=
    hactions.sublist (List.filter_sublist.map Prod.fst)
  have hsub : (requests.filter fun r => r.1 ∈ rivals context action).map Prod.fst ⊆
      rivals context action := by
    intro a ha
    obtain ⟨r, hr, rfl⟩ := List.mem_map.mp ha
    simpa using (List.mem_filter.mp hr).2
  have hlen := (List.subperm_of_subset hnodup hsub).length_le
  simpa only [taken, List.length_map] using hlen

theorem exists_key_left (hactions : (requests.map Prod.fst).Nodup)
    (hfew : (rivals context action).length < (default.keysOf context action).length) :
    ∃ key ∈ default.keysOf context action, key ∉ taken context action requests := by
  by_contra hall
  have hsub : default.keysOf context action ⊆ taken context action requests := by
    intro key hk
    by_contra hn
    exact hall ⟨key, hk, hn⟩
  have hnodup := coherent_default.keysOf_nodup context action
  have hlen := (List.subperm_of_subset hnodup hsub).length_le
  have htaken : (taken context action requests).length ≤ _ := length_taken_le hactions
  omega

theorem Coherent.rebindAll (h : m.Coherent) (requests : List (Action × Key)) :
    (m.rebindAll requests).Coherent := by
  induction requests generalizing m with
  | nil => exact h
  | cons r requests ih => exact ih (h.rebind r.1 r.2)

theorem Coherent.contextsOf_rebindAll_subset (h : m.Coherent) (requests : List (Action × Key))
    (a : Action) : (m.rebindAll requests).contextsOf a ⊆ m.contextsOf a := by
  induction requests generalizing m with
  | nil => exact List.Subset.refl _
  | cons r requests ih =>
    have hrest := ih (h.rebind r.1 r.2)
    exact List.Subset.trans hrest (h.contextsOf_rebind_subset r.1 a r.2)

theorem Coherent.unshifted_rebindAll (h : m.Coherent)
    (hm : ∀ b ∈ m.bindings, b.key.modifiers.shift = false)
    (hrequests : ∀ r ∈ requests, r.2.modifiers.shift = false) :
    ∀ b ∈ (m.rebindAll requests).bindings, b.key.modifiers.shift = false := by
  induction requests generalizing m with
  | nil => exact hm
  | cons r requests ih =>
    obtain ⟨hr, hrest⟩ := List.forall_mem_cons.mp hrequests
    refine ih (h.rebind r.1 r.2) ?_ hrest
    intro b hb
    rw [h.mem_rebind] at hb
    split at hb
    next hk => rw [hk.2, hr]
    next => exact hm b hb.1

theorem Holds.bound (h : m.Holds context action requests)
    (hactions : (requests.map Prod.fst).Nodup)
    (hfew : (rivals context action).length < (default.keysOf context action).length) :
    ∃ key, ⟨context, key, action⟩ ∈ m.bindings := by
  rcases h with ⟨key, _, hm⟩ | ⟨_, hkept⟩
  · exact ⟨key, hm⟩
  · obtain ⟨key, hk, hleft⟩ := exists_key_left hactions hfew
    exact ⟨key, hkept key hk hleft⟩

/-- A request for the action itself finds a key to replace; one for another action takes at most the
key that it names. -/
theorem Holds.rebind (hm : m.Coherent) (h : m.Holds context action requests)
    (hcontexts : ∀ a, m.contextsOf a ⊆ default.contextsOf a) {r : Action × Key}
    (hactions : ((requests ++ [r]).map Prod.fst).Nodup)
    (hkeys : ((requests ++ [r]).map Prod.snd).Nodup)
    (hfew : (rivals context action).length < (default.keysOf context action).length) :
    (m.rebind r.1 r.2).Holds context action (requests ++ [r]) := by
  obtain ⟨a, k⟩ := r
  obtain ⟨hbefore, hanew⟩ : (requests.map Prod.fst).Nodup ∧ a ∉ requests.map Prod.fst := by
    rw [List.map_append, List.nodup_append] at hactions
    exact ⟨hactions.1, fun ha => hactions.2.2 a ha a (by simp) rfl⟩
  have hknew : k ∉ requests.map Prod.snd := by
    rw [List.map_append, List.nodup_append] at hkeys
    exact fun hk => hkeys.2.2 k hk k (by simp) rfl
  by_cases ha : a = action
  · subst ha
    have hc : context ∈ m.contextsOf a := mem_contextsOf.mpr (h.bound hbefore hfew)
    exact .inl ⟨k, by simp, by simp [hm.mem_rebind, hc]⟩
  · rcases h with ⟨key, hr, hb⟩ | ⟨hnone, hkept⟩
    · have hne : key ≠ k := fun he => hknew (he ▸ List.mem_map_of_mem hr)
      exact .inl ⟨key, List.mem_append_left _ hr, by simp [hm.mem_rebind, hne, hb, Ne.symm ha]⟩
    · refine .inr ⟨by simp [hnone, Ne.symm ha], fun key hk hleft => ?_⟩
      rw [taken_append, List.mem_append, not_or] at hleft
      have hnot : ¬ (context ∈ m.contextsOf a ∧ key = k) := by
        rintro ⟨hc, rfl⟩
        have hrival : a ∈ rivals context action := mem_rivals.mpr ⟨ha, hcontexts a hc⟩
        exact hleft.2 (by simp [taken, hrival])
      simp [hm.mem_rebind, hnot, hkept key hk hleft.1, Ne.symm ha]

theorem holds_rebindAll (hactions : (requests.map Prod.fst).Nodup)
    (hkeys : (requests.map Prod.snd).Nodup)
    (hfew : (rivals context action).length < (default.keysOf context action).length) :
    (default.rebindAll requests).Holds context action requests := by
  induction requests using List.reverseRecOn with
  | nil => exact .inr ⟨by simp, fun key hk _ => mem_keysOf.mp hk⟩
  | append_singleton requests r ih =>
    have ha : (requests.map Prod.fst).Nodup :=
      hactions.sublist ((List.sublist_append_left requests [r]).map Prod.fst)
    have hk : (requests.map Prod.snd).Nodup :=
      hkeys.sublist ((List.sublist_append_left requests [r]).map Prod.snd)
    rw [rebindAll_append_singleton]
    exact (ih ha hk).rebind (coherent_default.rebindAll requests)
      (coherent_default.contextsOf_rebindAll_subset requests) hactions hkeys hfew

theorem exists_actionFor_applyOverrides {entries : List (String × String)}
    (hactions : entries.Pairwise fun e f =>
      Action.ofName? e.1 = Action.ofName? f.1 → Action.ofName? e.1 = none)
    (hkeys : entries.Pairwise fun e f =>
      Key.ofText? e.2 = Key.ofText? f.2 → Key.ofText? e.2 = none)
    (hfew : (rivals context action).length < (default.keysOf context action).length) :
    ∃ key, (default.applyOverrides entries).1.actionFor context key = some action := by
  have ha : ((entries.filterMap requested?).map Prod.fst).Nodup := by
    refine List.pairwise_map.mpr (List.pairwise_filterMap.mpr (hactions.imp ?_))
    rintro e f hef ⟨a, k⟩ he ⟨b, l⟩ hf rfl
    have hea := (requested?_eq_some_iff.mp he).1
    have hfa := (requested?_eq_some_iff.mp hf).1
    exact Option.some_ne_none a (hea.symm.trans (hef (hea.trans hfa.symm)))
  have hk : ((entries.filterMap requested?).map Prod.snd).Nodup := by
    refine List.pairwise_map.mpr (List.pairwise_filterMap.mpr (hkeys.imp ?_))
    rintro e f hef ⟨a, k⟩ he ⟨b, l⟩ hf rfl
    have hek := (requested?_eq_some_iff.mp he).2
    have hfk := (requested?_eq_some_iff.mp hf).2
    exact Option.some_ne_none k (hek.symm.trans (hef (hek.trans hfk.symm)))
  rw [applyOverrides_eq_rebindAll]
  have hcoherent := coherent_default.rebindAll (entries.filterMap requested?)
  obtain ⟨key, hm⟩ := (holds_rebindAll ha hk hfew).bound ha hfew
  have hshift : key.modifiers.shift = false := by
    refine coherent_default.unshifted_rebindAll (by decide) ?_ _ hm
    rintro ⟨a, k⟩ hr
    obtain ⟨e, _, he⟩ := List.mem_filterMap.mp hr
    exact Key.shift_of_ofText? (requested?_eq_some_iff.mp he).2
  refine ⟨key, hcoherent.actionFor_eq_some_iff.mpr (.inl ?_)⟩
  rwa [Key.normalized_of_shift hshift]

/-- Whatever a configuration rebinds, with one key for each action and one action for each key, there
is a key that confirms a deletion, one that calls it off, and one that closes the help. -/
theorem overlays_can_be_left (entries : List (String × String))
    (hactions : entries.Pairwise fun e f =>
      Action.ofName? e.1 = Action.ofName? f.1 → Action.ofName? e.1 = none)
    (hkeys : entries.Pairwise fun e f =>
      Key.ofText? e.2 = Key.ofText? f.2 → Key.ofText? e.2 = none) :
    let m := (default.applyOverrides entries).1
    (∃ key, m.actionFor .confirm key = some .confirmDelete) ∧
      (∃ key, m.actionFor .confirm key = some .cancelDelete) ∧
      ∃ key, m.actionFor .help key = some .closeHelp := by
  have hconfirm : (rivals .confirm .confirmDelete).length <
      (default.keysOf .confirm .confirmDelete).length := by decide
  have hcancel : (rivals .confirm .cancelDelete).length <
      (default.keysOf .confirm .cancelDelete).length := by decide
  have hclose : (rivals .help .closeHelp).length <
      (default.keysOf .help .closeHelp).length := by decide
  exact ⟨exists_actionFor_applyOverrides hactions hkeys hconfirm,
    exists_actionFor_applyOverrides hactions hkeys hcancel,
    exists_actionFor_applyOverrides hactions hkeys hclose⟩

/-- Every rival takes one of the keys that close the help, and the cancellation takes one of those
that confirm. -/
theorem last_key_closes_help :
    let entries := [("up", "q"), ("cancel", "Enter"), ("fly", "x"), ("down", "?")]
    let m := (default.applyOverrides entries).1
    entries.Pairwise (fun e f =>
      Action.ofName? e.1 = Action.ofName? f.1 → Action.ofName? e.1 = none) ∧
      entries.Pairwise (fun e f =>
        Key.ofText? e.2 = Key.ofText? f.2 → Key.ofText? e.2 = none) ∧
      m.keysOf .help .closeHelp = [{ code := .esc }] ∧
      (∃ key, m.actionFor .confirm key = some .confirmDelete) ∧
      (∃ key, m.actionFor .confirm key = some .cancelDelete) ∧
      ∃ key, m.actionFor .help key = some .closeHelp := by
  intro entries m
  have hactions : entries.Pairwise fun e f =>
      Action.ofName? e.1 = Action.ofName? f.1 → Action.ofName? e.1 = none := by decide +kernel
  have hkeys : entries.Pairwise fun e f =>
      Key.ofText? e.2 = Key.ofText? f.2 → Key.ofText? e.2 = none := by decide +kernel
  have hlast : m.keysOf .help .closeHelp = [{ code := .esc }] := by decide +kernel
  exact ⟨hactions, hkeys, hlast, overlays_can_be_left entries hactions hkeys⟩

end DeviceChannels.Keymap
