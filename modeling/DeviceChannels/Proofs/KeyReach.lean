import DeviceChannels.Proofs.KeyText
import DeviceChannels.Proofs.OverrideOrder

/-! Presses that reach an override. A key that is bound is reached as it is written; with the shift
key held a character reaches it only if it is an ASCII capital. -/

namespace DeviceChannels

theorem Key.normalized_char_eq_iff {x : Char} {modifiers : Modifiers} :
    Key.normalized ⟨.char x, modifiers⟩ = { code := .char x } ↔
      modifiers = {} ∨ x.isUpper = true ∧ modifiers = { shift := true } := by
  obtain ⟨ctrl, shift, alt, super⟩ := modifiers
  cases hx : x.isUpper with
  | true => cases shift <;> simp [normalized, hx]
  | false => simp [normalized, hx]

theorem Key.normalized_char_of_not_upper {x : Char} (hx : x.isUpper = false)
    (modifiers : Modifiers) : Key.normalized ⟨.char x, modifiers⟩ = ⟨.char x, modifiers⟩ := by
  simp [normalized, hx]

namespace Keymap

theorem shift_of_mem (configs : List (List (String × String))) :
    ∀ b ∈ (overridden configs).bindings, b.key.modifiers.shift = false :=
  fun b hb => Key.shift_of_ofText? (ofText?_text_of_mem configs b hb)

variable {m : Keymap} {configs : List (List (String × String))} {action : Action} {c : Context}

theorem actionFor_of_mem {key : Key} (h : ⟨c, key, action⟩ ∈ (overridden configs).bindings) :
    (overridden configs).actionFor c key = some action := by
  have hkey : key.normalized = key := Key.normalized_of_shift (shift_of_mem configs _ h)
  exact (coherent_overridden configs).actionFor_eq_some_iff.mpr (.inl (by rwa [hkey]))

theorem actionFor_eq_none_of_shift {key : Key} (h : key.normalized.modifiers.shift = true) :
    (overridden configs).actionFor c key = none := by
  have hout (context : Context) (a : Action) :
      ⟨context, key.normalized, a⟩ ∉ (overridden configs).bindings := by
    intro hb
    exact Bool.false_ne_true ((shift_of_mem configs _ hb).symm.trans h)
  apply Option.eq_none_iff_forall_ne_some.mpr
  intro a ha
  rcases (coherent_overridden configs).actionFor_eq_some_iff.mp ha with hb | ⟨_, _, hb⟩
  · exact hout c a hb
  · exact hout .global a hb

theorem Coherent.mem_rebind_self_iff (h : m.Coherent) {key pressed : Key} :
    ⟨c, pressed, action⟩ ∈ (m.rebind action key).bindings ↔
      c ∈ m.contextsOf action ∧ pressed = key := by
  rw [h.mem_rebind]
  by_cases hnew : c ∈ m.contextsOf action ∧ pressed = key <;> simp [hnew]

/-- Where an action was bound, only its new key leads to it; no other context lends it another. -/
theorem Coherent.actionFor_rebind_iff (h : m.Coherent) (hc : c ∈ m.contextsOf action)
    {key pressed : Key} :
    (m.rebind action key).actionFor c pressed = some action ↔ pressed.normalized = key := by
  rw [(h.rebind action key).actionFor_eq_some_iff, h.mem_rebind_self_iff, h.mem_rebind_self_iff]
  constructor
  · rintro (⟨_, hkey⟩ | ⟨_, _, _, hkey⟩) <;> exact hkey
  · exact fun hkey => .inl ⟨hc, hkey⟩

/-- The configurations, and after them one more with a single entry. -/
theorem applyOverrides_overridden (configs : List (List (String × String)))
    (entries : List (String × String)) :
    ((overridden configs).applyOverrides entries).1 = overridden (configs ++ [entries]) := by
  simp [overridden]

/-- An override with a plain character is reached, wherever its action was bound, by the bare
character, and by an ASCII capital with the shift key too. Nothing else reaches it; any other
character, a capital or not, does nothing at all while the shift key is held. -/
theorem character_override_reached_iff (configs : List (List (String × String)))
    {name text : String} {x : Char} (ha : Action.ofName? name = some action)
    (hx : Key.ofText? text = some { code := .char x })
    (hbound : ∃ key, ⟨c, key, action⟩ ∈ (overridden configs).bindings) :
    let after := ((overridden configs).applyOverrides [(name, text)]).1
    (∀ modifiers, after.actionFor c ⟨.char x, modifiers⟩ = some action ↔
      modifiers = {} ∨ x.isUpper = true ∧ modifiers = { shift := true }) ∧
      (x.isUpper = false → ∀ context modifiers, modifiers.shift = true →
        after.actionFor context ⟨.char x, modifiers⟩ = none) := by
  intro after
  have h : (overridden configs).Coherent := coherent_overridden configs
  have hc : c ∈ (overridden configs).contextsOf action := mem_contextsOf.mpr hbound
  refine ⟨fun modifiers => ?_, fun hupper context modifiers hshift => ?_⟩
  · have hafter : after = (overridden configs).rebind action { code := .char x } := by
      simp [after, applyOverrides, applyOverride, ha, hx]
    rw [hafter, h.actionFor_rebind_iff hc]
    exact Key.normalized_char_eq_iff
  · have hafter : after = overridden (configs ++ [[(name, text)]]) :=
      applyOverrides_overridden configs [(name, text)]
    rw [hafter]
    apply actionFor_eq_none_of_shift
    rwa [Key.normalized_char_of_not_upper hupper]

/-- Of two capitals that are bound to the refresh one after the other, the second is the one that
the shift key takes away. -/
theorem accented_capital_unreached :
    let m := overridden [[("refresh", " Z ")]]
    let plain : Key := { code := .char 'É' }
    let shifted : Key := ⟨.char 'É', { shift := true }⟩
    let after := (m.applyOverrides [("refresh", "É")]).1
    m.actionFor .channelList ⟨.char 'Z', { shift := true }⟩ = some .refresh ∧
      Action.ofName? "refresh" = some .refresh ∧ Key.ofText? "É" = some plain ∧
      (∃ key, ⟨.global, key, .refresh⟩ ∈ m.bindings) ∧
      after.actionFor .global plain = some .refresh ∧
      after.actionFor .global shifted ≠ some .refresh ∧
      ∀ context, after.actionFor context shifted = none := by
  intro m plain shifted after
  have ha : Action.ofName? "refresh" = some .refresh := by decide +kernel
  have hx : Key.ofText? "É" = some plain := by decide +kernel
  have hbound : ∃ key, ⟨.global, key, .refresh⟩ ∈ m.bindings :=
    ⟨{ code := .char 'Z' }, by decide +kernel⟩
  obtain ⟨hreached, hlost⟩ := character_override_reached_iff [[("refresh", " Z ")]] ha hx hbound
  refine ⟨by decide +kernel, ha, hx, hbound, ?_, ?_, ?_⟩
  · exact (hreached {}).mpr (.inl rfl)
  · exact fun h => absurd ((hreached { shift := true }).mp h) (by decide)
  · exact fun context => hlost (by decide) context { shift := true } rfl

end Keymap

end DeviceChannels
