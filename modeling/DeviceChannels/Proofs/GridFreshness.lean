import DeviceChannels.Proofs.FlightRun
import DeviceChannels.Proofs.TaskOrder

/-! The view never stays behind the store. A task that changes the store reports it, and handling
that report shows the collection as it is by then; so while the view is behind, a report is still to
be handled that brings it up to date. -/

namespace DeviceChannels

namespace Session

structure SameCollections (s s' : Session) : Prop where
  channels : s'.app.grid.channels = s.app.grid.channels
  display : s'.app.grid.display = s.app.grid.display
  store : s'.store = s.store
  events : s'.events = s.events

theorem Aside.sameCollections {s s' : Session} (h : Aside s s') : SameCollections s s' := by
  obtain ⟨_, _, _, _, happ⟩ := h.app
  exact ⟨by rw [happ], by rw [happ], h.store, h.events⟩

theorem spawnRefresh_sameCollections (s : Session) : SameCollections s s.spawnRefresh := by
  by_cases h : s.app.grid.loading <;> simp only [spawnRefresh, h] <;> exact ⟨rfl, rfl, rfl, rfl⟩

theorem Pressed.sameCollections {s s' : Session} (h : s.Pressed s') : SameCollections s s' := by
  cases h with
  | refreshed _ => exact s.spawnRefresh_sameCollections
  | _ => exact ⟨rfl, rfl, rfl, rfl⟩

/-- A job that changes the store reports what makes the view follow. -/
theorem carryOn_reports (s : Session) (job : Job) :
    ((s.carryOn job).1.store = s.store ∧ s.events ⊆ (s.carryOn job).1.events) ∨
      ∃ e ∈ (s.carryOn job).1.events, e.Syncs := by
  cases job with
  | publishing read => exact .inr ⟨_, List.mem_append_right _ List.mem_cons_self, trivial⟩
  | task task =>
    cases task with
    | refresh =>
      cases hr : s.store.readAnew s.file with
      | ok read => simp [carryOn, hr]
      | error fault => simp [carryOn, hr]
    | watch id result => exact .inl ⟨rfl, List.subset_append_left _ _⟩
    | deletion id =>
      cases hf : s.store.find? id with
      | none => simp [carryOn, finish_deletion_of_none hf]
      | some c =>
        simp only [carryOn, finish_deletion_of_some hf]
        exact .inr ⟨_, List.mem_append_right _ List.mem_cons_self, trivial⟩

end Session

namespace App

def Listed (a : App) : Prop := a.grid.display = displayList a.grid.channels

theorem Listed.handle {a : App} (ha : a.Listed) (now : Nat) (snapshot : List Channel)
    (event : Event) : (a.handle now snapshot event).Listed := by
  by_cases he : event.Syncs
  · obtain ⟨hc, hd⟩ := a.handle_of_syncs now snapshot he
    exact hd.trans (congrArg displayList hc.symm)
  · obtain ⟨hc, hd⟩ := a.handle_of_not_syncs now snapshot he
    exact hd.trans (ha.trans (congrArg displayList hc.symm))

end App

namespace Session

variable {s s' : Session} {t : Turn}

theorem SameCollections.listed (h : SameCollections s s') (hs : s.app.Listed) : s'.app.Listed := by
  rw [App.Listed, h.display, h.channels]
  exact hs

theorem Turned.listed (h : Turned s t s') (hs : s.app.Listed) : s'.app.Listed := by
  cases h with
  | aside aside => exact aside.sameCollections.listed hs
  | pressed _ _ pressed => exact pressed.sameCollections.listed hs
  | refreshed _ => exact s.spawnRefresh_sameCollections.listed hs
  | handled event left _ => exact hs.handle s.clock s.store.channels event
  | shown channels _ _ => rfl

/-- Where no report is left that shows the store's collection, that one is shown. -/
def Current (s : Session) : Prop :=
  (∀ event ∈ s.events, ¬ event.Syncs) → s.app.grid.channels = s.store.channels

theorem SameCollections.current (h : SameCollections s s') (hs : s.Current) : s'.Current := by
  rw [Current, h.events, h.channels, h.store]
  exact hs

theorem Current.of_store (hs : s.Current) (happ : s'.app = s.app) (hstore : s'.store = s.store)
    (hevents : s.events ⊆ s'.events) : s'.Current := by
  intro hn
  rw [happ, hstore]
  exact hs fun event he => hn event (hevents he)

theorem Current.handle {event : Event} {left : List Event} (hs : s.Current)
    (hleft : ∀ e ∈ s.events, e = event ∨ e ∈ left) :
    (({ s with events := left } : Session).handle event).Current := by
  intro hn
  by_cases he : event.Syncs
  · exact (s.app.handle_of_syncs s.clock s.store.channels he).1
  · -- This report shows nothing, so there was none before it that does.
    have hold : ∀ e ∈ s.events, ¬ e.Syncs := by
      intro e hm
      rcases hleft e hm with rfl | hm'
      · exact he
      · exact hn e hm'
    exact (s.app.handle_of_not_syncs s.clock s.store.channels he).1.trans (hs hold)

theorem Turned.current (h : Turned s t s') (ht : ∀ channels, t ≠ .publish channels)
    (hs : s.Current) : s'.Current := by
  cases h with
  | aside aside => exact aside.sameCollections.current hs
  | pressed _ _ pressed => exact pressed.sameCollections.current hs
  | refreshed _ => exact s.spawnRefresh_sameCollections.current hs
  | shown channels _ source => exact fun _ => source.resolve_right (ht channels)
  | handled event left source =>
    apply hs.handle
    intro e he
    rcases source with ⟨n, hn, rfl⟩ | ⟨_, rfl⟩
    · exact List.mem_cons.mp ((perm_of_getElem? hn).mem_iff.mpr he)
    · exact .inr he

end Session

namespace Flight

variable {f : Flight}

theorem listed_act (hf : f.session.tasks = []) (a : Act) (hl : f.session.app.Listed) :
    (f.act a).session.app.Listed := by
  rcases f.act_cases a with ⟨t, rfl⟩ | ⟨happ, _⟩
  · exact (f.session.turned_turn hf t).listed hl
  · rw [happ]
    exact hl

theorem current_act (hf : f.session.tasks = []) {a : Act}
    (hpublish : ∀ channels, a ≠ .turn (.publish channels))
    (hlate : ∀ n message, a ≠ .panic n true message) (hc : f.session.Current) :
    (f.act a).session.Current := by
  cases a with
  | turn t => exact (f.session.turned_turn hf t).current (fun cs h => hpublish cs (by rw [h])) hc
  | advance n =>
    cases hn : f.jobs[n]? with
    | none => simpa only [act, move, hn] using hc
    | some job =>
      simp only [act, move, hn]
      rcases f.session.carryOn_reports job with ⟨hstore, hevents⟩ | ⟨e, he, hsyncs⟩
      · exact hc.of_store (f.session.carryOn_app job).1 hstore hevents
      · exact fun hno => absurd hsyncs (hno e he)
  | panic n late message =>
    cases hn : f.jobs[n]? with
    | none => simpa only [act, hn] using hc
    | some job =>
      cases late with
      | true => exact absurd rfl (hlate n message)
      | false =>
        simp only [act, hn]
        exact hc.of_store rfl rfl (List.subset_append_left _ _)
  | replace file => exact hc.of_store rfl rfl (List.Subset.refl _)

theorem current_play (hf : f.session.tasks = []) {acts : List Act}
    (hpublish : ∀ channels, .turn (.publish channels) ∉ acts)
    (hlate : ∀ n message, .panic n true message ∉ acts) (hc : f.session.Current) :
    (f.play acts).session.Current := by
  apply play_induction (P := fun g => g.session.Current) hf hc
  intro g a ha hg
  apply current_act hg
  · rintro channels rfl
    exact hpublish channels ha
  · rintro n message rfl
    exact hlate n message ha

end Flight

/-- Whatever happens in a run of the application, the list on the screen is that of the collection
shown; and once all tasks are done and all reports handled, that collection is the one in the store,
even if the store's own publications never reach the view. -/
theorem Session.view_catches_up (config : Config) (file : FileState) (store : Store)
    (acts : List Flight.Act) :
    let f := (start config file store).flight.play acts
    f.session.app.grid.display = displayList f.session.app.grid.channels ∧
      ((∀ channels, .turn (.publish channels) ∉ acts) →
        (∀ n message, .panic n true message ∉ acts) → f.Complete →
          f.session.app.grid.channels = f.session.store.channels ∧
            f.session.app.grid.display = displayList f.session.store.channels) := by
  intro f
  have hlisted : f.session.app.Listed :=
    Flight.play_induction (P := fun g => g.session.app.Listed) rfl rfl
      fun _ a _ hg => Flight.listed_act hg a
  refine ⟨hlisted, fun hpublish hlate hdone => ?_⟩
  have hcurrent : f.session.Current := Flight.current_play rfl hpublish hlate fun _ => rfl
  have hshown := hcurrent (by simp [hdone.events])
  exact ⟨hshown, hlisted.trans (congrArg displayList hshown)⟩

/-- A deletion is done while a refresh holds the collection it has read, and the reports are handled
the other way round. -/
theorem Session.view_catches_up_with_refresh :
    let acts : List Flight.Act := [.turn (.press { code := .char 'd' }),
      .turn (.press { code := .char 'y' }), .turn .refresh, .advance 1, .advance 1, .advance 0,
      .turn (.handle 1), .turn (.handle 0)]
    let f := (start {} .missing
      (.inMemory [.ofCounts "a" "A" 2 2, .ofCounts "b" "B" 0 3])).flight.play acts
    f.session.store.removed = ["a"] ∧ f.Complete ∧
      f.session.app.grid.channels = f.session.store.channels ∧
        f.session.app.grid.display = displayList f.session.store.channels := by
  intro acts f
  have hdone : f.Complete := by
    constructor
    · decide +kernel
    · decide +kernel
  refine ⟨by decide +kernel, hdone, (view_catches_up {} .missing _ acts).2 ?_ ?_ hdone⟩
  · intro channels
    simp [acts]
  · intro n message
    simp [acts]

end DeviceChannels
