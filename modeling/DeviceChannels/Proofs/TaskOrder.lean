import DeviceChannels.Proofs.FlightStore

/-! Background tasks end the same way in every order. What they leave can be told from the jobs
still to do and the reports still to handle; no step of a job and no report handled changes that. -/

namespace DeviceChannels

structure Outcome where
  stored : List Channel
  shown : List Channel
  display : List Channel
  loading : Bool
  deriving DecidableEq

def Session.outcome (s : Session) : Outcome :=
  ⟨s.store.channels, s.app.grid.channels, s.app.grid.display, s.app.grid.loading⟩

def Event.Syncs : Event → Prop
  | .channelsRefreshed _ | .channelDeleted _ _ => True
  | _ => False

def Event.EndsRefresh : Event → Prop
  | .channelsRefreshed _ | .refreshFailed _ | .taskPanicked .refresh _ => True
  | _ => False

def Job.EndsRefresh : Job → Prop
  | .task .refresh | .publishing _ => True
  | _ => False

namespace App

variable {event : Event} (a : App) (now : Nat) (snapshot : List Channel)

theorem handle_of_syncs (h : event.Syncs) :
    (a.handle now snapshot event).grid.channels = snapshot ∧
      (a.handle now snapshot event).grid.display = displayList snapshot := by
  cases event with
  | channelsRefreshed _ | channelDeleted _ _ => exact ⟨rfl, rfl⟩
  | refreshFailed _ | channelDeleteFailed _ _ | taskPanicked _ _ => exact h.elim

theorem handle_of_not_syncs (h : ¬ event.Syncs) :
    (a.handle now snapshot event).grid.channels = a.grid.channels ∧
      (a.handle now snapshot event).grid.display = a.grid.display := by
  cases event with
  | channelsRefreshed _ | channelDeleted _ _ => exact absurd trivial h
  | refreshFailed _ | channelDeleteFailed _ _ => exact ⟨rfl, rfl⟩
  | taskPanicked task _ => cases task <;> exact ⟨rfl, rfl⟩

theorem handle_of_endsRefresh (h : event.EndsRefresh) :
    (a.handle now snapshot event).grid.loading = false := by
  cases event with
  | channelsRefreshed _ | refreshFailed _ => rfl
  | channelDeleted _ _ | channelDeleteFailed _ _ => exact h.elim
  | taskPanicked task _ =>
    cases task with
    | refresh => rfl
    | deleteChannel | other => exact h.elim

theorem handle_of_not_endsRefresh (h : ¬ event.EndsRefresh) :
    (a.handle now snapshot event).grid.loading = a.grid.loading := by
  cases event with
  | channelsRefreshed _ | refreshFailed _ => exact absurd trivial h
  | channelDeleted _ _ | channelDeleteFailed _ _ => rfl
  | taskPanicked task _ =>
    cases task with
    | refresh => exact absurd trivial h
    | deleteChannel | other => rfl

end App

namespace Flight

def WillSync (f : Flight) : Prop :=
  (∃ event ∈ f.session.events, event.Syncs) ∨ (∃ read, f.WillPublish read) ∨
    ∃ id ∈ f.due, id ∈ f.session.store.channels.map Channel.id

def WillSettle (f : Flight) : Prop :=
  (∃ event ∈ f.session.events, event.EndsRefresh) ∨ ∃ job ∈ f.jobs, job.EndsRefresh

structure HeadsFor (f : Flight) (o : Outcome) : Prop where
  unwatched : f.Unwatched
  stores : f.Stores o.stored
  stale : f.WillSync → o.shown = o.stored ∧ o.display = displayList o.stored
  fresh : ¬ f.WillSync →
    f.session.app.grid.channels = o.shown ∧ f.session.app.grid.display = o.display
  settles : f.WillSettle → o.loading = false
  settled : ¬ f.WillSettle → f.session.app.grid.loading = o.loading

section

variable {f g : Flight} {o : Outcome} {last : List Channel}

theorem Rearranged.grid_eq (h : f.Rearranged g) : g.session.app.grid = f.session.app.grid := by
  cases h; rfl

theorem Rearranged.willSync_iff (h : f.Rearranged g) : g.WillSync ↔ f.WillSync := by
  have hp := h.willPublish_iff
  have hd := h.mem_due_iff
  cases h with
  | mk jobs_perm events_perm => simp only [WillSync, hp, hd, events_perm.mem_iff]

theorem Rearranged.willSettle_iff (h : f.Rearranged g) : g.WillSettle ↔ f.WillSettle := by
  cases h with
  | mk jobs_perm events_perm => simp only [WillSettle, jobs_perm.mem_iff, events_perm.mem_iff]

theorem HeadsFor.of_grid (ho : f.HeadsFor o) (hw : g.Unwatched) (hs : g.Stores o.stored)
    (hgrid : g.session.app.grid = f.session.app.grid) (hsync : g.WillSync ↔ f.WillSync)
    (hsettle : g.WillSettle ↔ f.WillSettle) : g.HeadsFor o where
  unwatched := hw
  stores := hs
  stale := by rw [hsync]; exact ho.stale
  fresh := by rw [hsync, hgrid]; exact ho.fresh
  settles := by rw [hsettle]; exact ho.settles
  settled := by rw [hsettle, hgrid]; exact ho.settled

theorem HeadsFor.rearranged (ho : f.HeadsFor o) (h : f.Rearranged g) : g.HeadsFor o := by
  have hw : g.Unwatched := by
    intro id result hm
    apply ho.unwatched id result
    cases h with
    | mk jobs_perm events_perm => exact jobs_perm.mem_iff.mp hm
  exact ho.of_grid hw (h.stores ho.stores) h.grid_eq h.willSync_iff h.willSettle_iff

theorem Step.unwatched (h : f.Step g) (hw : f.Unwatched) : g.Unwatched := by
  intro id result hm
  cases h with
  | read readable =>
    rcases List.mem_cons.mp hm with he | hm
    · cases he
    · exact hw id result (List.mem_cons_of_mem _ hm)
  | unreadable _ | published _ _ | removed _ | refused _ _ =>
    exact hw id result (List.mem_cons_of_mem _ hm)
  | handled event events => exact hw id result hm

theorem Stores.channels_eq (hs : f.Stores last) (hn : ¬ f.WillSync) :
    f.session.store.channels = last := by
  have hdue : ∀ id ∈ f.session.store.channels.map Channel.id, id ∈ [] ↔ id ∈ f.due := by
    intro id hid
    exact iff_of_false List.not_mem_nil fun hd => hn (.inr (.inr ⟨id, hd, hid⟩))
  calc f.session.store.channels
      = applyRemovals [] f.session.store.channels := (applyRemovals_nil _).symm
    _ = applyRemovals f.due f.session.store.channels := applyRemovals_congr hdue
    _ = last := hs.keeps fun read hr => hn (.inr (.inl ⟨read, hr⟩))

section

variable {s : Session} {jobs : List Job} {event : Event} {events : List Event}

theorem willSync_iff_of_handled :
    WillSync ⟨{ s with events := event :: events }, jobs⟩ ↔
      event.Syncs ∨ WillSync ⟨({ s with events } : Session).handle event, jobs⟩ := by
  simp only [WillSync, List.mem_cons, or_and_right, exists_or, exists_eq_left, or_assoc]
  rfl

theorem willSettle_iff_of_handled :
    WillSettle ⟨{ s with events := event :: events }, jobs⟩ ↔
      event.EndsRefresh ∨ WillSettle ⟨({ s with events } : Session).handle event, jobs⟩ := by
  simp only [WillSettle, List.mem_cons, or_and_right, exists_or, exists_eq_left, or_assoc]
  rfl

theorem HeadsFor.handled (ho : HeadsFor ⟨{ s with events := event :: events }, jobs⟩ o) :
    HeadsFor ⟨({ s with events } : Session).handle event, jobs⟩ o := by
  have hstores : Stores ⟨({ s with events } : Session).handle event, jobs⟩ o.stored :=
    ho.stores.of_store rfl rfl
  refine ⟨ho.unwatched, hstores, fun h => ho.stale (willSync_iff_of_handled.mpr (.inr h)), ?_,
    fun h => ho.settles (willSettle_iff_of_handled.mpr (.inr h)), ?_⟩
  · intro hn
    by_cases he : event.Syncs
    · obtain ⟨hshown, hdisplay⟩ := ho.stale (willSync_iff_of_handled.mpr (.inl he))
      have hchannels : s.store.channels = o.stored := hstores.channels_eq hn
      obtain ⟨hc, hd⟩ := s.app.handle_of_syncs s.clock s.store.channels he
      exact ⟨hc.trans (hchannels.trans hshown.symm), hd.trans (hchannels ▸ hdisplay.symm)⟩
    · obtain ⟨hc, hd⟩ := s.app.handle_of_not_syncs s.clock s.store.channels he
      have hold : ¬ WillSync ⟨{ s with events := event :: events }, jobs⟩ :=
        mt willSync_iff_of_handled.mp (not_or.mpr ⟨he, hn⟩)
      obtain ⟨hshown, hdisplay⟩ := ho.fresh hold
      exact ⟨hc.trans hshown, hd.trans hdisplay⟩
  · intro hn
    by_cases he : event.EndsRefresh
    · have hl := s.app.handle_of_endsRefresh s.clock s.store.channels he
      exact hl.trans (ho.settles (willSettle_iff_of_handled.mpr (.inl he))).symm
    · have hl := s.app.handle_of_not_endsRefresh s.clock s.store.channels he
      have hold : ¬ WillSettle ⟨{ s with events := event :: events }, jobs⟩ :=
        mt willSettle_iff_of_handled.mp (not_or.mpr ⟨he, hn⟩)
      exact hl.trans (ho.settled hold)

end

theorem HeadsFor.step (ho : f.HeadsFor o) (h : f.Step g) : g.HeadsFor o := by
  have hw := h.unwatched ho.unwatched
  have hs := ho.stores.step h
  cases h with
  | read readable =>
    refine ho.of_grid hw hs rfl ?_ ?_
    · exact iff_of_true (.inr (.inl ⟨_, willPublish_publishing.mpr (.inl rfl)⟩))
        (.inr (.inl ⟨_, willPublish_refresh.mpr (.inl readable)⟩))
    · exact iff_of_true (.inr ⟨_, List.mem_cons_self, trivial⟩)
        (.inr ⟨_, List.mem_cons_self, trivial⟩)
  | unreadable unreadable =>
    refine ho.of_grid hw hs rfl ?_ ?_
    · simp [WillSync, WillPublish, due, Job.removal, Event.Syncs, unreadable]
    · exact iff_of_true (.inl ⟨_, List.mem_append_right _ List.mem_cons_self, trivial⟩)
        (.inr ⟨_, List.mem_cons_self, trivial⟩)
  | published read count =>
    refine ho.of_grid hw hs rfl ?_ ?_
    · exact iff_of_true (.inl ⟨_, List.mem_append_right _ List.mem_cons_self, trivial⟩)
        (.inr (.inl ⟨read, willPublish_publishing.mpr (.inl rfl)⟩))
    · exact iff_of_true (.inl ⟨_, List.mem_append_right _ List.mem_cons_self, trivial⟩)
        (.inr ⟨_, List.mem_cons_self, trivial⟩)
  | removed found =>
    refine ho.of_grid hw hs rfl ?_ ?_
    · exact iff_of_true (.inl ⟨_, List.mem_append_right _ List.mem_cons_self, trivial⟩)
        (.inr (.inr ⟨_, List.mem_cons_self, Store.mem_ids_of_find? found⟩))
    · simp [WillSettle, Event.EndsRefresh, Job.EndsRefresh]
  | refused fault unknown =>
    refine ho.of_grid hw hs rfl ?_ ?_
    · have hid := Store.find?_eq_none_iff.mp unknown
      rw [List.mem_map] at hid
      simp [WillSync, WillPublish, due, Job.removal, Event.Syncs, hid]
    · simp [WillSettle, Event.EndsRefresh, Job.EndsRefresh]
  | handled event events => exact ho.handled

theorem HeadsFor.move (ho : f.HeadsFor o) (m : Move) : (f.move m).HeadsFor o := by
  rcases step_move ho.unwatched m with he | ⟨g, hr, hstep⟩
  · rwa [he]
  · exact (ho.rearranged hr).step hstep

theorem HeadsFor.run (ho : f.HeadsFor o) (ms : List Move) : (f.run ms).HeadsFor o := by
  induction ms generalizing f with
  | nil => exact ho
  | cons m ms ih => exact ih (ho.move m)

theorem HeadsFor.outcome_eq (ho : f.HeadsFor o) (hc : f.Complete) : f.session.outcome = o := by
  have hsync : ¬ f.WillSync := by simp [WillSync, WillPublish, due, hc.jobs, hc.events]
  have hsettle : ¬ f.WillSettle := by simp [WillSettle, hc.jobs, hc.events]
  obtain ⟨hshown, hdisplay⟩ := ho.fresh hsync
  obtain ⟨stored, shown, display, loading⟩ := o
  simp only [Session.outcome, Outcome.mk.injEq]
  exact ⟨ho.stores.channels_eq hsync, hshown, hdisplay, ho.settled hsettle⟩

end

end Flight

namespace Session

variable {s : Session}

open Classical in
theorem exists_headsFor (hw : s.flight.Unwatched) {last : List Channel}
    (hs : s.flight.Stores last) : ∃ o, s.flight.HeadsFor o := by
  let grid := s.app.grid
  refine ⟨⟨last, if s.flight.WillSync then last else grid.channels,
    if s.flight.WillSync then displayList last else grid.display,
    if s.flight.WillSettle then false else grid.loading⟩, hw, hs, ?_, ?_, ?_, ?_⟩
  · intro h
    exact ⟨if_pos h, if_pos h⟩
  · intro h
    exact ⟨(if_neg h).symm, (if_neg h).symm⟩
  · intro h
    exact if_pos h
  · intro h
    exact (if_neg h).symm

/-- Tasks in flight can be settled in one order, and in whatever order they are carried out and
their reports handled, the store and the grid end as they do in that one. -/
theorem tasks_settle_alike (hdistinct : (s.store.channels.map Channel.id).Nodup)
    (hfile : ∀ read, Catalog.load s.file = .ok read → (read.map Channel.id).Nodup)
    (htasks : ∀ task ∈ s.tasks,
      task = .refresh ∨ ∃ id ∈ s.store.channels.map Channel.id, task = .deletion id) :
    (∃ ms, (s.flight.run ms).Complete ∧ (s.flight.run ms).session = s.settle.2) ∧
      ∀ ms, (s.flight.run ms).Complete →
        (s.flight.run ms).session.outcome = s.settle.2.outcome := by
  have hw : s.flight.Unwatched := by
    intro id result hm
    obtain ⟨task, ht, he⟩ := List.mem_map.mp hm
    obtain rfl : task = .watch id result := Job.task.inj he
    rcases htasks _ ht with h | ⟨_, _, h⟩ <;> cases h
  have hpresent : ∀ id, .deletion id ∈ s.tasks → id ∈ s.store.channels.map Channel.id := by
    intro id hm
    rcases htasks _ hm with h | ⟨id', hid, h⟩
    · cases h
    · cases h
      exact hid
  obtain ⟨last, hs⟩ := exists_stores hdistinct (fun _ => nodup_readAnew hdistinct hfile) hpresent
  obtain ⟨o, ho⟩ := exists_headsFor hw hs
  obtain ⟨ms, hsettle, hc⟩ := s.settle_is_an_order
  refine ⟨⟨ms, hc, hsettle⟩, fun ms' hc' => ?_⟩
  rw [← hsettle, (ho.run ms).outcome_eq hc, (ho.run ms').outcome_eq hc']

/-- The file is gone; the channel's content goes between reading and publishing that. -/
theorem deletion_between_reading_and_publishing :
    let s : Session := { start {} .missing ⟨true, [.ofCounts "a" "A" 2 2], [], 0⟩ with
      tasks := [.refresh, .deletion "a"] }
    let ms : List Flight.Move := [.advance 0, .advance 1, .handle 0, .advance 0, .handle 0]
    (s.flight.run ms).Complete ∧ (s.flight.run ms).session.outcome = s.settle.2.outcome := by
  intro s ms
  have hc : (s.flight.run ms).Complete := by
    constructor
    · rfl
    · rfl
  refine ⟨hc, (tasks_settle_alike ?_ ?_ ?_).2 ms hc⟩
  · decide
  · intro read hr
    cases hr
    decide
  · intro task ht
    have hm : task ∈ [Task.refresh, .deletion "a"] := ht
    rcases List.mem_cons.mp hm with rfl | hm
    · exact .inl rfl
    · exact .inr ⟨"a", by decide, List.mem_singleton.mp hm⟩

end Session

end DeviceChannels
