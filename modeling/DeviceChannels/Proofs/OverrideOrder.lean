import DeviceChannels.Proofs.KeymapCoherence

/-! Two overrides in either order. Which of them comes first matters exactly where one takes the last
key that the other's action has in a context of both: an action without a key there is not bound
there again. -/

namespace DeviceChannels

theorem Key.shift_of_ofText? {text : String} {key : Key} (h : Key.ofText? text = some key) :
    key.modifiers.shift = false := by
  unfold ofText? ofTrimmed? at h
  split at h
  · obtain ⟨c, _, rfl⟩ := Option.map_eq_some_iff.mp h
    rfl
  split at h
  · obtain rfl := Option.some.inj h
    rfl
  split at h
  · split at h
    · obtain rfl := Option.some.inj h
      rfl
    · cases h
  · obtain ⟨c, _, rfl⟩ := Option.map_eq_some_iff.mp h
    rfl

theorem Key.normalized_of_shift {key : Key} (h : key.modifiers.shift = false) :
    key.normalized = key := by
  obtain ⟨code, modifiers⟩ := key
  obtain ⟨ctrl, shift, alt, super⟩ := modifiers
  obtain rfl : shift = false := h
  cases code <;> simp [normalized]

namespace Keymap

/-- The key that `a` is about to take is all that `b` has in a context of both. -/
def TakesLast (m : Keymap) (a : Action) (key : Key) (b : Action) : Prop :=
  ∃ c ∈ m.contextsOf a, c ∈ m.contextsOf b ∧
    ∀ o ∈ m.bindings, o.context = c → o.action = b → o.key = key

instance (m : Keymap) (a : Action) (key : Key) (b : Action) : Decidable (m.TakesLast a key b) :=
  inferInstanceAs (Decidable (∃ c ∈ m.contextsOf a, _))

variable {m : Keymap} {a b : Action} {k l : Key} {c : Context}

theorem Coherent.mem_contextsOf_rebind (h : m.Coherent) (hab : a ≠ b) :
    c ∈ (m.rebind a k).contextsOf b ↔
      ∃ key, ⟨c, key, b⟩ ∈ m.bindings ∧ ¬ (c ∈ m.contextsOf a ∧ key = k) := by
  simp only [mem_contextsOf (m := m.rebind a k), h.mem_rebind]
  apply exists_congr
  intro key
  by_cases hk : c ∈ m.contextsOf a ∧ key = k <;> simp [hk, hab.symm]

/-- An action keeps all its contexts exactly if its last key is taken in none. -/
theorem Coherent.contextsOf_rebind_iff (h : m.Coherent) (hab : a ≠ b) :
    (∀ c, c ∈ (m.rebind a k).contextsOf b ↔ c ∈ m.contextsOf b) ↔ ¬ m.TakesLast a k b := by
  simp only [h.mem_contextsOf_rebind hab]
  constructor
  · rintro hkeep ⟨c, ha, hb, hlast⟩
    obtain ⟨key, hm, hk⟩ := (hkeep c).mpr hb
    exact hk ⟨ha, hlast _ hm rfl rfl⟩
  · intro hnot c
    refine Iff.trans ?_ mem_contextsOf.symm
    constructor
    · rintro ⟨key, hm, _⟩
      exact ⟨key, hm⟩
    · rintro ⟨key, hm⟩
      by_contra hlose
      have hlost (key : Key) (hm : ⟨c, key, b⟩ ∈ m.bindings) : c ∈ m.contextsOf a ∧ key = k := by
        by_contra hk
        exact hlose ⟨key, hm, hk⟩
      refine hnot ⟨c, (hlost key hm).1, mem_contextsOf.mpr ⟨key, hm⟩, ?_⟩
      rintro ⟨_, key', _⟩ ho rfl rfl
      exact (hlost key' ho).2

theorem Coherent.mem_rebind_rebind (h : m.Coherent) (hab : a ≠ b) {o : Binding} :
    o ∈ ((m.rebind a k).rebind b l).bindings ↔
      if o.context ∈ (m.rebind a k).contextsOf b ∧ o.key = l then o.action = b
      else if o.context ∈ m.contextsOf a ∧ o.key = k then o.action = a
      else o ∈ m.bindings ∧ o.action ≠ a ∧ o.action ≠ b := by
  rw [(h.rebind a k).mem_rebind, h.mem_rebind]
  by_cases hl : o.context ∈ (m.rebind a k).contextsOf b ∧ o.key = l
  · simp [hl]
  by_cases hk : o.context ∈ m.contextsOf a ∧ o.key = k
  · rw [if_neg hl, if_neg hl, if_pos hk, if_pos hk]
    exact and_iff_left_of_imp fun ha => ha ▸ hab
  · simp [hl, hk, and_assoc]

theorem Coherent.actionFor_congr {m' : Keymap} (h : m.Coherent) (h' : m'.Coherent)
    (hmem : ∀ o, o ∈ m.bindings ↔ o ∈ m'.bindings) (context : Context) (key : Key) :
    m.actionFor context key = m'.actionFor context key := by
  apply Option.ext
  intro action
  rw [h.actionFor_eq_some_iff, h'.actionFor_eq_some_iff]
  simp only [hmem]

theorem Coherent.mem_rebind_comm (h : m.Coherent) (hab : a ≠ b) (hkl : k ≠ l)
    (hb : ¬ m.TakesLast a k b) (ha : ¬ m.TakesLast b l a) (o : Binding) :
    o ∈ ((m.rebind a k).rebind b l).bindings ↔ o ∈ ((m.rebind b l).rebind a k).bindings := by
  have hkeepb := (h.contextsOf_rebind_iff hab).mpr hb o.context
  have hkeepa := (h.contextsOf_rebind_iff hab.symm).mpr ha o.context
  simp only [h.mem_rebind_rebind hab, h.mem_rebind_rebind hab.symm, hkeepb, hkeepa]
  by_cases hk : o.context ∈ m.contextsOf a ∧ o.key = k
  · have hl : ¬ (o.context ∈ m.contextsOf b ∧ o.key = l) := fun hl => hkl (hk.2.symm.trans hl.2)
    rw [if_neg hl, if_pos hk, if_pos hk]
  · rw [if_neg hk, if_neg hk]
    rw [and_comm (a := o.action ≠ a)]

theorem Coherent.contextsOf_rebind_subset (h : m.Coherent) (a b : Action) (k : Key) :
    (m.rebind a k).contextsOf b ⊆ m.contextsOf b := by
  intro c hc
  obtain ⟨key, hm⟩ := mem_contextsOf.mp hc
  rw [h.mem_rebind] at hm
  split at hm
  next hk =>
    have hb : b = a := hm
    exact hb ▸ hk.1
  next => exact mem_contextsOf.mpr ⟨key, hm.1⟩

theorem contextsOf_overridden_subset (configs : List (List (String × String))) (a : Action) :
    (overridden configs).contextsOf a ⊆ default.contextsOf a := by
  have hrun : (overridden configs).Coherent ∧
      (overridden configs).contextsOf a ⊆ default.contextsOf a := by
    apply overridden_induction
      (P := fun m => m.Coherent ∧ m.contextsOf a ⊆ default.contextsOf a)
    · rintro m action key _ _ ⟨h, hsub⟩
      exact ⟨h.rebind action key,
        List.Subset.trans (h.contextsOf_rebind_subset action a key) hsub⟩
    · exact ⟨coherent_default, List.Subset.refl _⟩
  exact hrun.2

theorem eq_deleteChannel_of_channelList {configs : List (List (String × String))}
    (h : .channelList ∈ (overridden configs).contextsOf a) : a = .deleteChannel := by
  have hdefault : ∀ o ∈ default.bindings, o.context = .channelList → o.action = .deleteChannel := by
    decide
  obtain ⟨key, hm⟩ := mem_contextsOf.mp (contextsOf_overridden_subset configs a h)
  exact hdefault _ hm rfl

theorem actionFor_ne_of_takesLast (configs : List (List (String × String))) (hab : a ≠ b)
    (hkl : k ≠ l) (hl : l.normalized = l) (ht : (overridden configs).TakesLast a k b) :
    let m := overridden configs
    ∃ c, ((m.rebind a k).rebind b l).actionFor c l ≠ some b ∧
      ((m.rebind b l).rebind a k).actionFor c l = some b := by
  intro m
  have h : m.Coherent := coherent_overridden configs
  obtain ⟨c, ha, hb, hlast⟩ : m.TakesLast a k b := ht
  refine ⟨c, ?_, ?_⟩
  · rw [ne_eq, ((h.rebind a k).rebind b l).actionFor_eq_some_iff, hl]
    rintro (hm | ⟨rfl, _⟩)
    · have hlost : c ∉ (m.rebind a k).contextsOf b := by
        rw [h.mem_contextsOf_rebind hab]
        rintro ⟨key, hm, hk⟩
        exact hk ⟨ha, hlast _ hm rfl rfl⟩
      rw [h.mem_rebind_rebind hab] at hm
      simp [hlost, hkl.symm] at hm
    · have hda := eq_deleteChannel_of_channelList ha
      have hdb := eq_deleteChannel_of_channelList hb
      exact hab (hda.trans hdb.symm)
  · rw [((h.rebind b l).rebind a k).actionFor_eq_some_iff, hl, h.mem_rebind_rebind hab.symm]
    left
    simp [hkl.symm, hb]

theorem applyOverrides_pair {m : Keymap} {e f : String × String}
    (ha : Action.ofName? e.1 = some a) (hk : Key.ofText? e.2 = some k)
    (hb : Action.ofName? f.1 = some b) (hl : Key.ofText? f.2 = some l) :
    m.applyOverrides [e, f] = ((m.rebind a k).rebind b l, []) := by
  simp [applyOverrides, applyOverride, ha, hk, hb, hl]

/-- Two entries for different actions with different keys have the same effect in either order
exactly if neither takes the last key that the other's action has in a context of both. -/
theorem overrides_commute_iff (configs : List (List (String × String))) {e f : String × String}
    (ha : Action.ofName? e.1 = some a) (hk : Key.ofText? e.2 = some k)
    (hb : Action.ofName? f.1 = some b) (hl : Key.ofText? f.2 = some l) (hab : a ≠ b)
    (hkl : k ≠ l) :
    let m := overridden configs
    (∀ context key, (m.applyOverrides [e, f]).1.actionFor context key =
      (m.applyOverrides [f, e]).1.actionFor context key) ↔
      ¬ m.TakesLast a k b ∧ ¬ m.TakesLast b l a := by
  intro m
  rw [applyOverrides_pair ha hk hb hl, applyOverrides_pair hb hl ha hk]
  constructor
  · intro hsame
    constructor
    · intro ht
      obtain ⟨c, hne, heq⟩ := actionFor_ne_of_takesLast configs hab hkl
        (Key.normalized_of_shift (Key.shift_of_ofText? hl)) ht
      exact hne ((hsame c l).trans heq)
    · intro ht
      obtain ⟨c, hne, heq⟩ := actionFor_ne_of_takesLast configs hab.symm hkl.symm
        (Key.normalized_of_shift (Key.shift_of_ofText? hk)) ht
      exact hne ((hsame c k).symm.trans heq)
  · rintro ⟨hnb, hna⟩ context key
    have h : m.Coherent := coherent_overridden configs
    have hmem := h.mem_rebind_comm hab hkl hnb hna
    exact ((h.rebind a k).rebind b l).actionFor_congr ((h.rebind b l).rebind a k) hmem context key

/-- The refresh has one key by default. An entry that gives it to another action comes either after
the refresh got a new key, or before, and then the refresh is left without any. -/
theorem refresh_lost_or_kept :
    let e := ("quit", "r")
    let f := ("refresh", "x")
    let x : Key := { code := .char 'x' }
    default.TakesLast .quit { code := .char 'r' } .refresh ∧
      (default.applyOverrides [e, f]).1.actionFor .global x = none ∧
      (default.applyOverrides [f, e]).1.actionFor .global x = some .refresh ∧
      ¬ ∀ context key, (default.applyOverrides [e, f]).1.actionFor context key =
        (default.applyOverrides [f, e]).1.actionFor context key := by
  intro e f x
  have ha : Action.ofName? e.1 = some .quit := by decide +kernel
  have hb : Action.ofName? f.1 = some .refresh := by decide +kernel
  have hk : Key.ofText? e.2 = some { code := .char 'r' } := by decide +kernel
  have hl : Key.ofText? f.2 = some x := by decide +kernel
  have ht : default.TakesLast .quit { code := .char 'r' } .refresh := by decide +kernel
  have hiff := overrides_commute_iff [] ha hk hb hl (by decide) (by decide)
  refine ⟨ht, ?_, ?_, fun hsame => (hiff.mp hsame).1 ht⟩
  · rw [applyOverrides_pair ha hk hb hl]
    decide +kernel
  · rw [applyOverrides_pair hb hl ha hk]
    decide +kernel

end Keymap

end DeviceChannels
