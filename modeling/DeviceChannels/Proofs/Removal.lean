import DeviceChannels.Store

/-! Content taken off a collection, one channel at a time or for a set of ids at once. The two agree
where only the first channel of an id has content. -/

namespace DeviceChannels

namespace Channel

def IsBare (c : Channel) : Prop := c.onDeviceResources = 0 ∧ c.onDeviceFileSize = 0

instance (c : Channel) : Decidable c.IsBare := inferInstanceAs (Decidable (_ ∧ _))

@[simp] theorem withoutContent_id (c : Channel) : c.withoutContent.id = c.id := rfl

theorem isBare_withoutContent (c : Channel) : c.withoutContent.IsBare := ⟨rfl, rfl⟩

theorem withoutContent_eq_self_iff {c : Channel} : c.withoutContent = c ↔ c.IsBare := by
  constructor
  · intro h
    exact h ▸ c.isBare_withoutContent
  · rintro ⟨hr, hs⟩
    cases c
    simp_all [withoutContent]

@[simp] theorem withoutContent_withoutContent (c : Channel) :
    c.withoutContent.withoutContent = c.withoutContent := rfl

def afterRemovals (removed : List String) (c : Channel) : Channel :=
  if c.id ∈ removed then c.withoutContent else c

@[simp] theorem afterRemovals_id (removed : List String) (c : Channel) :
    (c.afterRemovals removed).id = c.id := by
  by_cases h : c.id ∈ removed <;> simp [afterRemovals, h]

end Channel

theorem applyRemovals_eq_map (removed : List String) (cs : List Channel) :
    applyRemovals removed cs = cs.map (Channel.afterRemovals removed) := by
  simp [applyRemovals, Channel.afterRemovals]

theorem map_id_applyRemovals (removed : List String) (cs : List Channel) :
    (applyRemovals removed cs).map Channel.id = cs.map Channel.id := by
  simp [applyRemovals_eq_map]

theorem map_id_takeContentOff (id : String) (cs : List Channel) :
    (takeContentOff id cs).map Channel.id = cs.map Channel.id := by
  induction cs with
  | nil => rfl
  | cons c cs ih =>
    by_cases h : c.id = id
    · simp [takeContentOff, h]
    · simp [takeContentOff, h, ih]

theorem applyRemovals_nil (cs : List Channel) : applyRemovals [] cs = cs := by
  simp [applyRemovals]

theorem applyRemovals_cons (removed : List String) (c : Channel) (cs : List Channel) :
    applyRemovals removed (c :: cs) =
      (if c.id ∈ removed then c.withoutContent else c) :: applyRemovals removed cs := by
  simp [applyRemovals]

theorem applyRemovals_congr {removed removed' : List String} {cs : List Channel}
    (h : ∀ id ∈ cs.map Channel.id, id ∈ removed ↔ id ∈ removed') :
    applyRemovals removed cs = applyRemovals removed' cs := by
  apply List.map_congr_left
  intro c hc
  have hi := h c.id (List.mem_map_of_mem hc)
  by_cases hr : c.id ∈ removed
  · simp [hr, hi.mp hr]
  · simp [hr, mt hi.mpr hr]

theorem applyRemovals_applyRemovals (removed removed' : List String) (cs : List Channel) :
    applyRemovals removed (applyRemovals removed' cs) = applyRemovals (removed ++ removed') cs := by
  induction cs with
  | nil => rfl
  | cons c cs ih =>
    simp only [applyRemovals_cons, ih, List.mem_append]
    by_cases h : c.id ∈ removed <;> by_cases h' : c.id ∈ removed' <;> simp [h, h']

theorem applyRemovals_of_subset {removed removed' : List String} (h : removed' ⊆ removed)
    (cs : List Channel) :
    applyRemovals removed (applyRemovals removed' cs) = applyRemovals removed cs := by
  rw [applyRemovals_applyRemovals]
  apply applyRemovals_congr
  intro id _
  rw [List.mem_append]
  exact ⟨fun hi => hi.elim (fun hr => hr) (fun hr => h hr), .inl⟩

theorem applyRemovals_eq_self_iff {removed : List String} {cs : List Channel} :
    applyRemovals removed cs = cs ↔ ∀ c ∈ cs, c.id ∈ removed → c.IsBare := by
  induction cs with
  | nil => simp [applyRemovals]
  | cons c cs ih =>
    rw [applyRemovals_cons, List.cons.injEq, ih, List.forall_mem_cons]
    by_cases h : c.id ∈ removed
    · simp [h, Channel.withoutContent_eq_self_iff]
    · simp [h]

theorem applyRemovals_takeContentOff {removed : List String} {id : String} (h : id ∈ removed)
    (cs : List Channel) :
    applyRemovals removed (takeContentOff id cs) = applyRemovals removed cs := by
  induction cs with
  | nil => rfl
  | cons c cs ih =>
    by_cases hc : c.id = id
    · simp [takeContentOff, applyRemovals_cons, hc, h]
    · simp [takeContentOff, applyRemovals_cons, hc, ih]

/-- Only the first channel of an id has content. -/
def RepeatsBare (cs : List Channel) : Prop := cs.Pairwise fun a b => a.id = b.id → b.IsBare

instance (cs : List Channel) : Decidable (RepeatsBare cs) :=
  inferInstanceAs (Decidable (cs.Pairwise _))

theorem repeatsBare_of_nodup {cs : List Channel} (h : (cs.map Channel.id).Nodup) :
    RepeatsBare cs := by
  have hp := List.pairwise_map.mp h
  exact hp.imp fun hne he => absurd he hne

theorem takeContentOff_eq_applyRemovals_iff {id : String} {cs : List Channel} :
    takeContentOff id cs = applyRemovals [id] cs ↔
      cs.Pairwise fun a b => a.id = id → b.id = id → b.IsBare := by
  induction cs with
  | nil => simp [takeContentOff, applyRemovals]
  | cons c cs ih =>
    rw [applyRemovals_cons, List.pairwise_cons]
    by_cases hc : c.id = id
    · have hrest : cs = applyRemovals [id] cs ↔ ∀ b ∈ cs, b.id = id → b.IsBare := by
        rw [eq_comm, applyRemovals_eq_self_iff]
        simp
      simp only [takeContentOff, hc, if_true, List.mem_singleton, List.cons.injEq, true_and, hrest,
        forall_const]
      constructor
      · intro h
        exact ⟨h, List.pairwise_of_forall_mem_list fun _ _ b hb _ he => h b hb he⟩
      · exact fun h => h.1
    · simp [takeContentOff, hc, ih]

theorem repeatsBare_iff {cs : List Channel} :
    RepeatsBare cs ↔ ∀ id ∈ cs.map Channel.id, takeContentOff id cs = applyRemovals [id] cs := by
  constructor
  · intro h id _
    exact takeContentOff_eq_applyRemovals_iff.mpr (h.imp fun hb ha hb' => hb (ha.trans hb'.symm))
  · intro h
    apply List.pairwise_iff_forall_sublist.mpr
    intro a b hab he
    have ha : a ∈ cs := hab.subset List.mem_cons_self
    have hp := takeContentOff_eq_applyRemovals_iff.mp (h a.id (List.mem_map_of_mem ha))
    exact List.pairwise_iff_forall_sublist.mp hp hab rfl he.symm

theorem RepeatsBare.applyRemovals {cs : List Channel} (h : RepeatsBare cs)
    (removed : List String) : RepeatsBare (applyRemovals removed cs) := by
  rw [applyRemovals_eq_map]
  apply List.pairwise_map.mpr
  refine h.imp ?_
  intro a b hb he
  have hbare : b.IsBare := hb (by simpa using he)
  by_cases hr : b.id ∈ removed
  · simpa only [Channel.afterRemovals, hr, if_true] using b.isBare_withoutContent
  · simpa only [Channel.afterRemovals, hr, if_false] using hbare

namespace Store

theorem find?_isSome_iff {s : Store} {id : String} :
    (s.find? id).isSome ↔ id ∈ s.channels.map Channel.id := by
  simp [find?, List.find?_isSome]

theorem mem_ids_of_find? {s : Store} {id : String} {c : Channel} (h : s.find? id = some c) :
    id ∈ s.channels.map Channel.id :=
  find?_isSome_iff.mp (by rw [h]; rfl)

theorem find?_eq_none_iff {s : Store} {id : String} :
    s.find? id = none ↔ id ∉ s.channels.map Channel.id := by
  rw [← find?_isSome_iff, Option.not_isSome_iff_eq_none]

theorem removeContent_of_some {s : Store} {id : String} {c : Channel} (h : s.find? id = some c) :
    s.removeContent id = (.ok c.withoutContent,
      { s with
        channels := takeContentOff id s.channels
        removed := s.removed.insert id
        versions := s.versions + 1 }) := by
  simp [removeContent, h]

theorem removeContent_of_none {s : Store} {id : String} (h : s.find? id = none) :
    s.removeContent id = (.error (.unknownChannel id), s) := by
  simp [removeContent, h]

end Store

end DeviceChannels
