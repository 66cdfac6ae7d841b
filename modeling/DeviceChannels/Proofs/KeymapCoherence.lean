import DeviceChannels.Keymap
import DeviceChannels.Proofs.Lists

/-! The table of a keymap and the list of its bindings always say the same. So it is enough to know
which bindings each change of a keymap leaves, and in which order. -/

namespace DeviceChannels

theorem Binding.eq_iff {b o : Binding} : o = b ↔ o.place = b.place ∧ o.action = b.action := by
  cases b
  cases o
  simp [place, and_assoc]

namespace Keymap

structure Coherent (m : Keymap) : Prop where
  keys_nodup : (m.table.map Prod.fst).Nodup
  places_nodup : (m.bindings.map Binding.place).Nodup
  mem_iff : ∀ b, b ∈ m.bindings ↔ (b.place, b.action) ∈ m.table

theorem Coherent.empty : Coherent {} := by
  constructor <;> simp

variable {m : Keymap}

theorem Coherent.lookup_eq_some_iff (h : m.Coherent) {context : Context} {key : Key}
    {action : Action} :
    m.table.lookup (context, key) = some action ↔ ⟨context, key, action⟩ ∈ m.bindings :=
  (lookup_eq_some_iff_mem h.keys_nodup).trans (h.mem_iff ⟨context, key, action⟩).symm

theorem Coherent.bindings_bind (h : m.Coherent) (b : Binding) :
    (m.bind b).bindings = (m.bindings.filter fun o => o.place != b.place) ++ [b] := by
  cases hl : m.table.lookup b.place with
  | some action => simp [bind, hl]
  | none =>
    have hkeep : ∀ o ∈ m.bindings, (o.place != b.place) = true := by
      intro o ho
      have hne := List.lookup_eq_none_iff.mp hl _ ((h.mem_iff o).mp ho)
      rwa [bne_comm]
    simp [bind, hl, List.filter_eq_self.mpr hkeep]

theorem Coherent.mem_bind (h : m.Coherent) {b o : Binding} :
    o ∈ (m.bind b).bindings ↔ o = b ∨ o ∈ m.bindings ∧ o.place ≠ b.place := by
  simp [h.bindings_bind, or_comm]

theorem Coherent.bind (h : m.Coherent) (b : Binding) : (m.bind b).Coherent where
  keys_nodup := by
    have hrest : ((m.table.filter fun e => e.1 != b.place).map Prod.fst).Nodup :=
      h.keys_nodup.sublist (List.filter_sublist.map Prod.fst)
    simpa [Keymap.bind] using hrest
  places_nodup := by
    have hrest : ((m.bindings.filter fun o => o.place != b.place).map Binding.place).Nodup :=
      h.places_nodup.sublist (List.filter_sublist.map Binding.place)
    have hout : b.place ∉ (m.bindings.filter fun o => o.place != b.place).map Binding.place := by
      simp
    rw [h.bindings_bind, List.map_append]
    exact List.nodup_append.mpr ⟨hrest, by simp, by
      rintro p hp q hq rfl
      exact hout (List.mem_singleton.mp hq ▸ hp)⟩
  mem_iff o := by
    rw [h.mem_bind, h.mem_iff, Binding.eq_iff]
    by_cases hp : o.place = b.place <;> simp [Keymap.bind, hp]

theorem Coherent.unbind (h : m.Coherent) (action : Action) : (m.unbind action).Coherent where
  keys_nodup := h.keys_nodup.sublist (List.filter_sublist.map Prod.fst)
  places_nodup := h.places_nodup.sublist (List.filter_sublist.map Binding.place)
  mem_iff b := by simp [Keymap.unbind, h.mem_iff]

theorem Coherent.bindAll (h : m.Coherent) (bs : List Binding) : (m.bindAll bs).Coherent := by
  induction bs generalizing m with
  | nil => exact h
  | cons b bs ih => exact ih (h.bind b)

theorem Coherent.rebind (h : m.Coherent) (action : Action) (key : Key) :
    (m.rebind action key).Coherent :=
  (h.unbind action).bindAll _

theorem coherent_default : default.Coherent :=
  Coherent.empty.bindAll defaultBindings

theorem contextsOf_eq (m : Keymap) (action : Action) :
    m.contextsOf action =
      ((m.bindings.filter fun b => b.action = action).map Binding.context).eraseDups := by
  have hfold (cs : List Context) :
      cs.foldl (fun seen c => if c ∈ seen then seen else seen ++ [c]) [] = cs.eraseDups := by
    induction cs using List.reverseRecOn with
    | nil => rfl
    | append_singleton cs c ih =>
      rw [List.foldl_append, ih, eraseDups_concat]
      simp
  rw [contextsOf, hfold]
  congr 1
  induction m.bindings with
  | nil => rfl
  | cons b bs ih => by_cases hb : b.action = action <;> simp [hb, ih]

theorem nodup_contextsOf (m : Keymap) (action : Action) : (m.contextsOf action).Nodup := by
  rw [contextsOf_eq]
  exact nodup_eraseDups _

theorem mem_contextsOf {action : Action} {context : Context} :
    context ∈ m.contextsOf action ↔ ∃ key, ⟨context, key, action⟩ ∈ m.bindings := by
  simp only [contextsOf_eq, List.mem_eraseDups, List.mem_map, List.mem_filter, decide_eq_true_eq]
  constructor
  · rintro ⟨⟨c, key, a⟩, ⟨hb, rfl⟩, rfl⟩
    exact ⟨key, hb⟩
  · rintro ⟨key, hb⟩
    exact ⟨_, ⟨hb, rfl⟩, rfl⟩

theorem Coherent.bindings_bindAll (h : m.Coherent) {contexts : List Context}
    (hn : contexts.Nodup) (key : Key) (action : Action) :
    (m.bindAll (contexts.map fun c => ⟨c, key, action⟩)).bindings =
      (m.bindings.filter fun b => ¬ (b.context ∈ contexts ∧ b.key = key)) ++
        contexts.map fun c => ⟨c, key, action⟩ := by
  induction contexts generalizing m with
  | nil => simp [Keymap.bindAll]
  | cons c cs ih =>
    obtain ⟨hc, hcs⟩ := List.nodup_cons.mp hn
    have hi := ih (h.bind ⟨c, key, action⟩) hcs
    rw [h.bindings_bind, List.filter_append, List.filter_filter] at hi
    simp only [Keymap.bindAll, List.map_cons, List.foldl_cons] at hi ⊢
    have hnew : [(⟨c, key, action⟩ : Binding)].filter
        (fun b => ¬ (b.context ∈ cs ∧ b.key = key)) = [⟨c, key, action⟩] := by simp [hc]
    have hold : ∀ b ∈ m.bindings,
        ((decide ¬ (b.context ∈ cs ∧ b.key = key)) && b.place != (c, key)) =
          decide ¬ (b.context ∈ c :: cs ∧ b.key = key) := by
      intro b _
      by_cases hk : b.key = key <;> by_cases hb : b.context = c <;> simp [Binding.place, hk, hb]
    rw [hi, hnew, ← List.filter_congr hold, List.append_assoc]
    rfl

/-- The bindings that an override leaves keep their order; the new ones come after them. -/
theorem Coherent.bindings_rebind (h : m.Coherent) (action : Action) (key : Key) :
    (m.rebind action key).bindings =
      (m.bindings.filter fun b =>
        b.action ≠ action ∧ ¬ (b.context ∈ m.contextsOf action ∧ b.key = key)) ++
        (m.contextsOf action).map fun c => ⟨c, key, action⟩ := by
  rw [Keymap.rebind, (h.unbind action).bindings_bindAll (m.nodup_contextsOf action)]
  congr 1
  simp only [Keymap.unbind, List.filter_filter]
  apply List.filter_congr
  intro b _
  by_cases ha : b.action = action <;> simp [ha]

theorem Coherent.mem_rebind (h : m.Coherent) {action : Action} {key : Key} {o : Binding} :
    o ∈ (m.rebind action key).bindings ↔
      if o.context ∈ m.contextsOf action ∧ o.key = key then o.action = action
      else o ∈ m.bindings ∧ o.action ≠ action := by
  obtain ⟨c, k, a⟩ := o
  simp only [h.bindings_rebind, List.mem_append, List.mem_filter, List.mem_map, Binding.mk.injEq,
    decide_eq_true_eq]
  by_cases hnew : c ∈ m.contextsOf action ∧ k = key
  · obtain ⟨hc, rfl⟩ := hnew
    simp [hc, eq_comm]
  · have hout : ¬ ∃ c' ∈ m.contextsOf action, c' = c ∧ key = k ∧ action = a := by
      rintro ⟨c', hc, rfl, rfl, _⟩
      exact hnew ⟨hc, rfl⟩
    rw [or_iff_left hout, if_neg hnew]
    exact and_congr_right fun _ => and_iff_left hnew

theorem Coherent.actionFor_eq_some_iff (h : m.Coherent) {context : Context} {key : Key}
    {action : Action} :
    m.actionFor context key = some action ↔
      ⟨context, key.normalized, action⟩ ∈ m.bindings ∨
        context = .channelList ∧ (∀ a, ⟨.channelList, key.normalized, a⟩ ∉ m.bindings) ∧
          ⟨.global, key.normalized, action⟩ ∈ m.bindings := by
  have hnone (c : Context) : m.table.lookup (c, key.normalized) = none ↔
      ∀ a, ⟨c, key.normalized, a⟩ ∉ m.bindings := by
    simp only [Option.eq_none_iff_forall_ne_some, ne_eq, h.lookup_eq_some_iff]
  rw [actionFor, ← h.lookup_eq_some_iff, ← h.lookup_eq_some_iff, ← hnone]
  cases hl : m.table.lookup (context, key.normalized) with
  | some a =>
    constructor
    · exact .inl
    · rintro (ha | ⟨rfl, hn, _⟩)
      · exact ha
      · exact absurd (hl.symm.trans hn) (Option.some_ne_none a)
  | none =>
    by_cases hc : context = .channelList
    · subst hc
      simp [Context.fallsBackToGlobal, hl]
    · simp [Context.fallsBackToGlobal, hc]

theorem applyOverride_cases (m : Keymap) (entry : String × String) :
    (m.applyOverride entry).1 = m ∨ ∃ action key, Action.ofName? entry.1 = some action ∧
      Key.ofText? entry.2 = some key ∧ (m.applyOverride entry).1 = m.rebind action key := by
  cases ha : Action.ofName? entry.1 with
  | none => simp [applyOverride, ha]
  | some action =>
    cases hk : Key.ofText? entry.2 with
    | none => simp [applyOverride, ha, hk]
    | some key => simp [applyOverride, ha, hk]

/-- The default keymap after any number of configurations, the entries of each in any order. -/
def overridden (configs : List (List (String × String))) : Keymap :=
  configs.foldl (fun m entries => (m.applyOverrides entries).1) default

section

variable {P : Keymap → Prop}
  (step : ∀ m action key text, Key.ofText? text = some key → P m → P (m.rebind action key))

include step

theorem applyOverrides_induction (start : P m) (entries : List (String × String)) :
    P (m.applyOverrides entries).1 := by
  induction entries generalizing m with
  | nil => exact start
  | cons entry entries ih =>
    have hone : P (m.applyOverride entry).1 := by
      rcases m.applyOverride_cases entry with hm | ⟨action, key, _, hk, hm⟩
      · rwa [hm]
      · rw [hm]
        exact step m action key entry.2 hk start
    exact ih hone

theorem overridden_induction (start : P default) (configs : List (List (String × String))) :
    P (overridden configs) := by
  induction configs using List.reverseRecOn with
  | nil => exact start
  | append_singleton configs entries ih =>
    rw [overridden, List.foldl_append]
    exact applyOverrides_induction step ih entries

end

theorem coherent_overridden (configs : List (List (String × String))) :
    (overridden configs).Coherent :=
  overridden_induction (fun _ action key _ _ h => h.rebind action key) coherent_default configs

end Keymap

end DeviceChannels
