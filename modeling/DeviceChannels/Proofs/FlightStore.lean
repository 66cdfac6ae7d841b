import DeviceChannels.Proofs.Flight

/-! The collection that a store is on its way to while refreshes and deletions are in flight. It is
the one that the refreshes read, with the content off that has been removed or is to be; without a
refresh, what the store has with the content off that is to be removed. -/

namespace DeviceChannels

def Job.removal : Job → Option String
  | .task (.deletion id) => some id
  | _ => none

namespace Flight

def due (f : Flight) : List String := f.jobs.filterMap Job.removal

/-- A refresh in flight holds the collection or will read it as things stand. -/
def WillPublish (f : Flight) (read : List Channel) : Prop :=
  .publishing read ∈ f.jobs ∨
    .task .refresh ∈ f.jobs ∧ f.session.store.readAnew f.session.file = .ok read

structure Stores (f : Flight) (last : List Channel) : Prop where
  distinct : (f.session.store.channels.map Channel.id).Nodup
  distinct_last : (last.map Channel.id).Nodup
  publishes : ∀ read, f.WillPublish read →
    applyRemovals (f.session.store.removed ++ f.due) read = last
  -- Else a deletion could be refused now whose channel the refresh brings back.
  known : ∀ read, f.WillPublish read → ∀ id ∈ f.due, id ∈ last.map Channel.id →
    id ∈ f.session.store.channels.map Channel.id
  keeps : (∀ read, ¬ f.WillPublish read) → applyRemovals f.due f.session.store.channels = last

section

variable {f g : Flight} {last : List Channel}

theorem Rearranged.willPublish_iff (h : f.Rearranged g) (read : List Channel) :
    g.WillPublish read ↔ f.WillPublish read := by
  cases h with
  | mk jobs_perm events_perm => simp only [WillPublish, jobs_perm.mem_iff]

theorem Rearranged.mem_due_iff (h : f.Rearranged g) (id : String) : id ∈ g.due ↔ id ∈ f.due := by
  cases h with
  | mk jobs_perm events_perm => exact (jobs_perm.filterMap _).mem_iff

theorem Rearranged.store_eq (h : f.Rearranged g) : g.session.store = f.session.store := by
  cases h; rfl

theorem Rearranged.stores (h : f.Rearranged g) (hs : f.Stores last) : g.Stores last where
  distinct := by rw [h.store_eq]; exact hs.distinct
  distinct_last := hs.distinct_last
  publishes := by
    intro read hr
    rw [← hs.publishes read ((h.willPublish_iff read).mp hr), h.store_eq]
    apply applyRemovals_congr
    intro id _
    simp only [List.mem_append, h.mem_due_iff]
  known := by
    intro read hr id hid
    rw [h.store_eq]
    exact hs.known read ((h.willPublish_iff read).mp hr) id ((h.mem_due_iff id).mp hid)
  keeps := by
    intro hn
    rw [← hs.keeps fun read hr => hn read ((h.willPublish_iff read).mpr hr), h.store_eq]
    apply applyRemovals_congr
    intro id _
    exact h.mem_due_iff id

theorem willPublish_publishing {s : Session} {rest : List Job} {read read' : List Channel} :
    WillPublish ⟨s, .publishing read :: rest⟩ read' ↔
      read' = read ∨ WillPublish ⟨s, rest⟩ read' := by
  simp [WillPublish, or_assoc]

theorem willPublish_refresh {s : Session} {rest : List Job} {read : List Channel} :
    WillPublish ⟨s, .task .refresh :: rest⟩ read ↔
      s.store.readAnew s.file = .ok read ∨ WillPublish ⟨s, rest⟩ read := by
  simp only [WillPublish, List.mem_cons, reduceCtorEq, false_or, true_or, true_and]
  constructor
  · rintro (hp | hr)
    · exact .inr (.inl hp)
    · exact .inl hr
  · rintro (hr | hp | ⟨_, hr⟩)
    · exact .inr hr
    · exact .inl hp
    · exact .inr hr

theorem willPublish_deletion {s : Session} {rest : List Job} {id : String} {read : List Channel} :
    WillPublish ⟨s, .task (.deletion id) :: rest⟩ read ↔ WillPublish ⟨s, rest⟩ read := by
  simp [WillPublish]

/-- Only a store without a file lets its own collection be read. -/
theorem WillPublish.of_backed {s s' : Session} {jobs : List Job} {read : List Channel}
    (h : WillPublish ⟨s', jobs⟩ read) (hb : s'.store.backed = s.store.backed)
    (hf : s'.file = s.file) :
    WillPublish ⟨s, jobs⟩ read ∨
      read = s'.store.channels ∧ WillPublish ⟨s, jobs⟩ s.store.channels := by
  rcases h with hp | ⟨hm, hr⟩
  · exact .inl (.inl hp)
  · simp only [Store.readAnew, hb, hf] at hr
    by_cases hbacked : s.store.backed = true
    · exact .inl (.inr ⟨hm, by simpa only [Store.readAnew, hbacked, if_true] using hr⟩)
    · rw [if_neg hbacked] at hr
      refine .inr ⟨(Except.ok.inj hr).symm, .inr ⟨hm, ?_⟩⟩
      simp only [Store.readAnew, hbacked]
      rfl

theorem Stores.of_store {s s' : Session} {jobs : List Job} (hs : Stores ⟨s, jobs⟩ last)
    (hstore : s'.store = s.store) (hfile : s'.file = s.file) : Stores ⟨s', jobs⟩ last := by
  obtain ⟨distinct, distinct_last, publishes, known, keeps⟩ := hs
  simp only [WillPublish] at publishes known keeps
  constructor <;> simpa only [WillPublish, hstore, hfile]

theorem exists_willPublish_iff {s s' : Session} {jobs : List Job}
    (hb : s'.store.backed = s.store.backed) (hf : s'.file = s.file) :
    (∃ read, WillPublish ⟨s', jobs⟩ read) ↔ ∃ read, WillPublish ⟨s, jobs⟩ read := by
  constructor
  · rintro ⟨read, h⟩
    exact (h.of_backed hb hf).elim (fun h => ⟨_, h⟩) fun h => ⟨_, h.2⟩
  · rintro ⟨read, h⟩
    exact (h.of_backed hb.symm hf.symm).elim (fun h => ⟨_, h⟩) fun h => ⟨_, h.2⟩

theorem Stores.read {s : Session} {rest : List Job} {read : List Channel}
    (readable : s.store.readAnew s.file = .ok read)
    (hs : Stores ⟨s, .task .refresh :: rest⟩ last) : Stores ⟨s, .publishing read :: rest⟩ last := by
  have held {read' : List Channel} (h : WillPublish ⟨s, .publishing read :: rest⟩ read') :
      WillPublish ⟨s, .task .refresh :: rest⟩ read' := by
    rcases willPublish_publishing.mp h with rfl | h
    · exact willPublish_refresh.mpr (.inl readable)
    · exact willPublish_refresh.mpr (.inr h)
  refine ⟨hs.distinct, hs.distinct_last, fun read' h => hs.publishes read' (held h),
    fun read' h => hs.known read' (held h), fun hn => ?_⟩
  exact absurd (willPublish_publishing.mpr (.inl rfl)) (hn read)

theorem Stores.unreadable {s : Session} {rest : List Job} {fault : StoreFault}
    (unreadable : s.store.readAnew s.file = .error fault)
    (hs : Stores ⟨s, .task .refresh :: rest⟩ last) : Stores ⟨s, rest⟩ last := by
  have held {read : List Channel} :
      WillPublish ⟨s, .task .refresh :: rest⟩ read ↔ WillPublish ⟨s, rest⟩ read := by
    simp [willPublish_refresh, unreadable]
  exact ⟨hs.distinct, hs.distinct_last, fun read h => hs.publishes read (held.mpr h),
    fun read h => hs.known read (held.mpr h), fun hn => hs.keeps fun read h => hn read (held.mp h)⟩

theorem Stores.published {s : Session} {rest : List Job} {read : List Channel}
    (hs : Stores ⟨s, .publishing read :: rest⟩ last) :
    Stores ⟨{ s with store := s.store.publish read }, rest⟩ last := by
  have hread : applyRemovals (s.store.removed ++ due ⟨s, rest⟩) read = last :=
    hs.publishes read (willPublish_publishing.mpr (.inl rfl))
  have hids : (applyRemovals s.store.removed read).map Channel.id = last.map Channel.id := by
    rw [← hread, map_id_applyRemovals, map_id_applyRemovals]
  refine ⟨?_, hs.distinct_last, ?_, ?_, ?_⟩
  · exact hids ▸ hs.distinct_last
  · intro read' h
    rcases h.of_backed (s := s) rfl rfl with h | ⟨rfl, _⟩
    · exact hs.publishes read' (willPublish_publishing.mpr (.inr h))
    · rw [← hread]
      exact applyRemovals_of_subset (List.subset_append_left _ _) read
  · intro _ _ id _ hid
    exact hids ▸ hid
  · intro _
    rw [← hread]
    refine (applyRemovals_applyRemovals _ _ _).trans (applyRemovals_congr ?_)
    intro id _
    simp only [List.mem_append]
    exact or_comm

theorem Stores.removed {s : Session} {rest : List Job} {id : String} {c : Channel}
    (found : s.store.find? id = some c)
    (hs : Stores ⟨s, .task (.deletion id) :: rest⟩ last) :
    Stores ⟨{ s with store := (s.store.removeContent id).2 }, rest⟩ last := by
  have htake : takeContentOff id s.store.channels = applyRemovals [id] s.store.channels :=
    repeatsBare_iff.mp (repeatsBare_of_nodup hs.distinct) id (Store.mem_ids_of_find? found)
  rw [Store.removeContent_of_some found]
  have hwill {read : List Channel} (h : WillPublish ⟨s, rest⟩ read) :
      applyRemovals (s.store.removed.insert id ++ due ⟨s, rest⟩) read = last := by
    rw [← hs.publishes read (willPublish_deletion.mpr h)]
    apply applyRemovals_congr
    intro id' _
    have hdue : id' ∈ due ⟨s, .task (.deletion id) :: rest⟩ ↔ id' = id ∨ id' ∈ due ⟨s, rest⟩ :=
      List.mem_cons
    simp only [List.mem_append, List.mem_insert_iff, hdue]
    tauto
  refine ⟨?_, hs.distinct_last, ?_, ?_, ?_⟩
  · rw [map_id_takeContentOff]
    exact hs.distinct
  · intro read h
    rcases h.of_backed (s := s) rfl rfl with h | ⟨rfl, hheld⟩
    · exact hwill h
    · rw [← hwill hheld]
      exact applyRemovals_takeContentOff (by simp) _
  · intro read h id' hdue hlast
    rw [map_id_takeContentOff]
    obtain ⟨read', h'⟩ := (exists_willPublish_iff (s := s) (by rfl) (by rfl)).mp ⟨read, h⟩
    exact hs.known read' (willPublish_deletion.mpr h') id' (List.mem_cons_of_mem id hdue) hlast
  · intro hn
    have hkeep : applyRemovals (id :: due ⟨s, rest⟩) s.store.channels = last := by
      apply hs.keeps
      intro read h
      exact not_exists.mpr hn
        ((exists_willPublish_iff (by rfl) (by rfl)).mpr ⟨read, willPublish_deletion.mp h⟩)
    rw [htake, ← hkeep]
    refine (applyRemovals_applyRemovals _ _ _).trans (applyRemovals_congr ?_)
    intro id' _
    simp only [List.mem_append, List.mem_cons, List.not_mem_nil, or_false]
    exact or_comm

theorem Stores.refused {s : Session} {rest : List Job} {id : String}
    (unknown : s.store.find? id = none)
    (hs : Stores ⟨s, .task (.deletion id) :: rest⟩ last) : Stores ⟨s, rest⟩ last := by
  have hid : id ∉ s.store.channels.map Channel.id := Store.find?_eq_none_iff.mp unknown
  refine ⟨hs.distinct, hs.distinct_last, ?_, ?_, ?_⟩
  · intro read h
    have hp : WillPublish ⟨s, .task (.deletion id) :: rest⟩ read := willPublish_deletion.mpr h
    have hread := hs.publishes read hp
    rw [← hread]
    apply applyRemovals_congr
    intro id' hid'
    have hne : id' ≠ id := by
      rintro rfl
      refine hid (hs.known read hp id' List.mem_cons_self ?_)
      rwa [← hread, map_id_applyRemovals]
    have hdue : id' ∈ due ⟨s, .task (.deletion id) :: rest⟩ ↔ id' ∈ due ⟨s, rest⟩ := by
      exact List.mem_cons.trans (or_iff_right hne)
    simp only [List.mem_append, hdue]
  · intro read h id' hdue
    exact hs.known read (willPublish_deletion.mpr h) id' (List.mem_cons_of_mem id hdue)
  · intro hn
    rw [← hs.keeps fun read h => hn read (willPublish_deletion.mp h)]
    apply applyRemovals_congr
    intro id' hid'
    have hne : id' ≠ id := by
      rintro rfl
      exact hid hid'
    exact (List.mem_cons.trans (or_iff_right hne)).symm

theorem Stores.step (hs : f.Stores last) (h : f.Step g) : g.Stores last := by
  cases h with
  | read readable => exact hs.read readable
  | unreadable unreadable => exact (hs.unreadable unreadable).of_store rfl rfl
  | published read count => exact hs.published.of_store rfl rfl
  | removed found => exact (hs.removed found).of_store rfl rfl
  | refused fault unknown => exact (hs.refused unknown).of_store rfl rfl
  | handled event events => exact hs.of_store rfl rfl

end

end Flight

namespace Session

variable {s : Session}

theorem readAnew_of_willPublish {read : List Channel} (h : s.flight.WillPublish read) :
    s.store.readAnew s.file = .ok read := by
  rcases h with hp | ⟨_, hr⟩
  · obtain ⟨_, _, he⟩ := List.mem_map.mp hp
    cases he
  · exact hr

theorem deletion_of_mem_due {id : String} (h : id ∈ s.flight.due) : .deletion id ∈ s.tasks := by
  obtain ⟨job, hm, he⟩ := List.mem_filterMap.mp h
  obtain ⟨task, ht, rfl⟩ := List.mem_map.mp hm
  cases task with
  | refresh | watch _ _ => cases he
  | deletion _ =>
    cases he
    exact ht

theorem exists_stores (hdistinct : (s.store.channels.map Channel.id).Nodup)
    (hread : ∀ read, s.store.readAnew s.file = .ok read → (read.map Channel.id).Nodup)
    (hpresent : ∀ id, .deletion id ∈ s.tasks → id ∈ s.store.channels.map Channel.id) :
    ∃ last, s.flight.Stores last := by
  have hknown : ∀ id ∈ s.flight.due, id ∈ s.store.channels.map Channel.id :=
    fun id h => hpresent id (deletion_of_mem_due h)
  by_cases h : ∃ read, s.flight.WillPublish read
  · obtain ⟨read, hr⟩ := h
    refine ⟨applyRemovals (s.store.removed ++ s.flight.due) read, hdistinct, ?_, ?_,
      fun _ _ id hd _ => hknown id hd, fun hn => absurd hr (hn read)⟩
    · rw [map_id_applyRemovals]
      exact hread read (readAnew_of_willPublish hr)
    · intro read' hr'
      have he := (readAnew_of_willPublish hr').symm.trans (readAnew_of_willPublish hr)
      rw [Except.ok.inj he]
      rfl
  · refine ⟨applyRemovals s.flight.due s.store.channels, hdistinct, ?_,
      fun read hr => absurd ⟨read, hr⟩ h, fun read hr => absurd ⟨read, hr⟩ h, fun _ => rfl⟩
    rw [map_id_applyRemovals]
    exact hdistinct

theorem nodup_readAnew (hdistinct : (s.store.channels.map Channel.id).Nodup)
    (hfile : ∀ read, Catalog.load s.file = .ok read → (read.map Channel.id).Nodup)
    {read : List Channel} (hr : s.store.readAnew s.file = .ok read) :
    (read.map Channel.id).Nodup := by
  by_cases hb : s.store.backed = true
  · rw [Store.readAnew, if_pos hb] at hr
    exact hfile read hr
  · rw [Store.readAnew, if_neg hb] at hr
    cases hr
    exact hdistinct

end Session

end DeviceChannels
