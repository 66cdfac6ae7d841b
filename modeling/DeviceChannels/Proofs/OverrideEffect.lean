import DeviceChannels.Proofs.KeymapCoherence

/-! What one override changes. The action gives up all its keys and has the new one instead, in each
context that it had a key in; whatever the new key did there before, it does no longer. -/

namespace DeviceChannels

namespace Keymap

variable {m : Keymap}

theorem Coherent.lookup_rebind (h : m.Coherent) (action : Action) (key : Key) (c : Context)
    (k : Key) :
    (m.rebind action key).table.lookup (c, k) =
      if c ∈ m.contextsOf action ∧ k = key then some action
      else if m.table.lookup (c, k) = some action then none
      else m.table.lookup (c, k) := by
  apply Option.ext
  intro a
  rw [(h.rebind action key).lookup_eq_some_iff, h.mem_rebind]
  by_cases hnew : c ∈ m.contextsOf action ∧ k = key
  · simp [hnew, eq_comm]
  · rw [if_neg hnew, if_neg hnew, ← h.lookup_eq_some_iff]
    by_cases hold : m.table.lookup (c, k) = some action
    · simp only [hold, Option.some.injEq, if_true, reduceCtorEq, iff_false]
      rintro ⟨rfl, hne⟩
      exact hne rfl
    · rw [if_neg hold]
      exact and_iff_left_of_imp fun ha he => hold (he ▸ ha)

theorem length_warnings (m : Keymap) (entries : List (String × String)) :
    (m.applyOverrides entries).2.length =
      entries.countP fun e => Action.ofName? e.1 = none ∨ Key.ofText? e.2 = none := by
  induction entries generalizing m with
  | nil => rfl
  | cons e entries ih =>
    rw [List.countP_cons, ← ih (m.applyOverride e).1]
    cases ha : Action.ofName? e.1 with
    | none => simp [applyOverrides, applyOverride, ha, Nat.add_comm]
    | some a =>
      cases hk : Key.ofText? e.2 with
      | none => simp [applyOverrides, applyOverride, ha, hk, Nat.add_comm]
      | some k => simp [applyOverrides, applyOverride, ha, hk]

/-- An entry that can be read gives its action the key in each context that the action had one in, in
order of first appearance, and nothing else of the action or at these places is left; all other
bindings stay. An entry that cannot be read changes nothing. Each of these, and no other, is warned
of once. -/
theorem override_replaces_keys (configs : List (List (String × String)))
    (entry : String × String) :
    (∀ entries, ((overridden configs).applyOverrides entries).2.length =
      entries.countP fun e => Action.ofName? e.1 = none ∨ Key.ofText? e.2 = none) ∧
    let m := overridden configs
    let after := (m.applyOverrides [entry]).1
    let warnings := (m.applyOverrides [entry]).2
    (∀ action key, Action.ofName? entry.1 = some action → Key.ofText? entry.2 = some key →
      let contexts :=
        ((m.bindings.filter fun b => b.action = action).map Binding.context).eraseDups
      warnings = [] ∧
        (∀ c k, after.table.lookup (c, k) =
          if c ∈ contexts ∧ k = key then some action
          else if m.table.lookup (c, k) = some action then none
          else m.table.lookup (c, k)) ∧
        after.bindings =
          (m.bindings.filter fun b =>
            b.action ≠ action ∧ ¬ (b.context ∈ contexts ∧ b.key = key)) ++
            contexts.map fun c => ⟨c, key, action⟩) ∧
      (Action.ofName? entry.1 = none ∨ Key.ofText? entry.2 = none →
        after = m ∧ warnings.length = 1) := by
  refine ⟨length_warnings _, ?_⟩
  intro m after warnings
  have h : m.Coherent := coherent_overridden configs
  refine ⟨?_, ?_⟩
  · intro action key ha hk contexts
    have hc : contexts = m.contextsOf action := (m.contextsOf_eq action).symm
    have hafter : after = m.rebind action key := by
      simp [after, applyOverrides, applyOverride, ha, hk]
    refine ⟨by simp [warnings, applyOverrides, applyOverride, ha, hk], ?_, ?_⟩
    · intro c k
      rw [hafter, hc]
      exact h.lookup_rebind action key c k
    · rw [hafter, hc]
      exact h.bindings_rebind action key
  · intro hbad
    have hone : warnings.length = 1 :=
      (length_warnings m [entry]).trans (List.countP_eq_length.mpr (by simpa using hbad))
    refine ⟨?_, hone⟩
    rcases hbad with ha | hk
    · simp [after, applyOverrides, applyOverride, ha]
    · cases ha : Action.ofName? entry.1 <;> simp [after, applyOverrides, applyOverride, ha, hk]

/-- The key that one action got by an override goes to another, in both contexts they share. -/
theorem override_takes_key_over :
    let m := overridden [[("down", "x")]]
    let x : Key := { code := .char 'x' }
    let after := (m.applyOverrides [("nav_up", " x ")]).1
    Action.ofName? "nav_up" = some .navUp ∧ Key.ofText? " x " = some x ∧
      m.table.lookup (.help, x) = some .navDown ∧ after.table.lookup (.help, x) = some .navUp ∧
      after.table.lookup (.help, { code := .up }) = none ∧
      after.bindings.drop 19 = [⟨.global, x, .navUp⟩, ⟨.help, x, .navUp⟩] ∧
      (m.applyOverrides [("fly", "x"), ("quit", "F13"), ("top", "t")]).2.length = 2 := by
  intro m x after
  have ha : Action.ofName? "nav_up" = some .navUp := by decide +kernel
  have hk : Key.ofText? " x " = some x := by decide +kernel
  obtain ⟨hcount, heffect, _⟩ := override_replaces_keys [[("down", "x")]] ("nav_up", " x ")
  obtain ⟨_, hlookup, hbindings⟩ := heffect .navUp x ha hk
  refine ⟨ha, hk, by decide +kernel, ?_, ?_, ?_, ?_⟩
  · exact (hlookup .help x).trans (by decide +kernel)
  · exact (hlookup .help { code := .up }).trans (by decide +kernel)
  · rw [hbindings]
    decide +kernel
  · exact (hcount [("fly", "x"), ("quit", "F13"), ("top", "t")]).trans (by decide +kernel)

end Keymap

end DeviceChannels
