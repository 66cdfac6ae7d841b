import DeviceChannels.Proofs.FlightRun

/-! Overlays take all keys and never lie on top of each other. A deletion is staged only from the
rows, with no overlay open, and while it is staged no key reaches what opens the help or starts a
refresh. -/

namespace DeviceChannels

namespace App

variable (a : App) (now : Nat) (snapshot : List Channel) (event : Event)

theorem handle_helpOpen : (a.handle now snapshot event).helpOpen = a.helpOpen := by
  cases event with
  | taskPanicked task _ => cases task <;> rfl
  | _ => rfl

theorem loading_of_handle (h : (a.handle now snapshot event).grid.loading = true) :
    a.grid.loading = true := by
  cases event with
  | channelsRefreshed _ | refreshFailed _ => cases h
  | channelDeleted _ _ | channelDeleteFailed _ _ => exact h
  | taskPanicked task _ =>
    cases task with
    | refresh => cases h
    | deleteChannel | other => exact h

end App

namespace Session

structure Exclusive (s : Session) : Prop where
  help : s.app.helpOpen = true → s.app.grid.pending = none
  loading : s.app.grid.loading = true → s.app.grid.pending = none

/-- No overlay opens or closes, and nothing starts to load. -/
structure KeepsOverlays (s s' : Session) : Prop where
  help : s'.app.helpOpen = s.app.helpOpen
  pending : s'.app.grid.pending = s.app.grid.pending
  loading : s'.app.grid.loading = true → s.app.grid.loading = true

variable {s s' : Session}

theorem Exclusive.of_pending (h : s.app.grid.pending = none) : s.Exclusive :=
  ⟨fun _ => h, fun _ => h⟩

theorem Exclusive.help_closed (hs : s.Exclusive) {id : String}
    (hp : s.app.grid.pending = some id) : s.app.helpOpen = false := by
  cases hh : s.app.helpOpen with
  | false => rfl
  | true => simp [hs.help hh] at hp

theorem Exclusive.keeps (hs : s.Exclusive) (h : KeepsOverlays s s') : s'.Exclusive where
  help := by
    rw [h.help, h.pending]
    exact hs.help
  loading := by
    rw [h.pending]
    exact fun hl => hs.loading (h.loading hl)

theorem KeepsOverlays.of_app (h : s'.app = s.app) : KeepsOverlays s s' := by
  constructor <;> simp [h]

theorem KeepsOverlays.of_handle {now : Nat} {snapshot : List Channel} {event : Event}
    (h : s'.app = s.app.handle now snapshot event) : KeepsOverlays s s' where
  help := by rw [h, App.handle_helpOpen]
  pending := by rw [h, App.handle_pending]
  loading := by
    rw [h]
    exact s.app.loading_of_handle now snapshot event

theorem Turned.keepsOverlays {t : Turn} (h : Turned s t s') (hpress : ∀ key, t ≠ .press key)
    (hrefresh : t ≠ .refresh) : KeepsOverlays s s' := by
  cases h with
  | aside aside =>
    obtain ⟨_, _, _, _, happ⟩ := aside.app
    constructor <;> simp [happ]
  | pressed key turn _ => exact absurd turn (hpress key)
  | refreshed turn => exact absurd turn hrefresh
  | handled event left _ => exact .of_handle rfl
  | shown channels _ _ => exact ⟨rfl, rfl, id⟩

theorem spawnRefresh_keeps (s : Session) : s.spawnRefresh.app.helpOpen = s.app.helpOpen ∧
    s.spawnRefresh.app.grid.pending = s.app.grid.pending := by
  by_cases h : s.app.grid.loading <;> simp only [spawnRefresh, h] <;> exact ⟨rfl, rfl⟩

theorem not_loading_of_rows {g : Grid} (h : g.primaryState = .rows) : g.loading = false := by
  cases hl : g.loading with
  | false => rfl
  | true => simp [Grid.primaryState, hl] at h

theorem Pressed.exclusive (h : s.Pressed s') (hs : s.Exclusive) : s'.Exclusive := by
  cases h with
  | ignored => exact hs
  | help helpOpen helpScroll is_open => exact .of_pending (hs.help is_open)
  | confirmed _ _ _ _ _ _ | cancelled _ _ => exact .of_pending rfl
  | moved selected uncovered | helpOpened uncovered => exact .of_pending uncovered.idle
  | refreshed uncovered => exact .of_pending (s.spawnRefresh_keeps.2.trans uncovered.idle)
  | requested id uncovered rows =>
    refine ⟨fun hh => ?_, fun hl => ?_⟩
    · exact absurd (uncovered.help_closed.symm.trans hh) Bool.false_ne_true
    · exact absurd ((not_loading_of_rows rows).symm.trans hl) Bool.false_ne_true

/-- While a deletion is staged a key leaves all alone but the stage and what hangs on it. -/
structure Captured (s s' : Session) : Prop where
  selected : s'.app.selected = s.app.selected
  help : s'.app.helpOpen = s.app.helpOpen
  loading : s'.app.grid.loading = s.app.grid.loading
  held : s'.app.refreshHeld = s.app.refreshHeld
  tasks : ∃ started, .refresh ∉ started ∧ s'.tasks = s.tasks ++ started
  stage : s'.app.grid.pending = s.app.grid.pending ∨ s'.app.grid.pending = none

/-- What a key can do about the staged deletion. -/
inductive Settled (s : Session) (id : String) (s' : Session) : Prop
  | ignored (same : s' = s)
  | cancelled (after : s' = s.afterCancel)
  | confirmed (status : Option StatusMessage) (started : List Task)
      (no_refresh : .refresh ∉ started) (after : s' = s.handedOver id status started)

theorem Pressed.settled (h : s.Pressed s') {id : String} (hh : s.app.helpOpen = false)
    (hp : s.app.grid.pending = some id) : s.Settled id s' := by
  have covered : ¬ s.Uncovered := not_uncovered_of_pending hp
  cases h with
  | ignored => exact .ignored rfl
  | help _ _ is_open => exact absurd (hh.symm.trans is_open) Bool.false_ne_true
  | confirmed id' status started _ staged no_refresh =>
    obtain rfl : id' = id := Option.some.inj (staged.symm.trans hp)
    exact .confirmed status started no_refresh rfl
  | cancelled _ _ => exact .cancelled rfl
  | moved _ uncovered | refreshed uncovered | requested _ uncovered _ | helpOpened uncovered =>
    exact absurd uncovered covered

theorem Settled.captured {id : String} (h : s.Settled id s') : s.Captured s' := by
  cases h with
  | ignored same =>
    subst same
    exact ⟨rfl, rfl, rfl, rfl, ⟨[], by simp, by simp⟩, .inl rfl⟩
  | cancelled after =>
    subst after
    exact ⟨rfl, rfl, rfl, rfl, ⟨[], by simp, by simp [afterCancel]⟩, .inr rfl⟩
  | confirmed status started no_refresh after =>
    subst after
    exact ⟨rfl, rfl, rfl, rfl, ⟨started, no_refresh, rfl⟩, .inr rfl⟩

theorem Pressed.help_only (h : s.Pressed s') (hh : s.app.helpOpen = true) :
    ∃ helpOpen helpScroll, s' = { s with app := { s.app with helpOpen, helpScroll } } := by
  have covered : ¬ s.Uncovered := not_uncovered_of_help hh
  cases h with
  | ignored => exact ⟨s.app.helpOpen, s.app.helpScroll, rfl⟩
  | help helpOpen helpScroll _ => exact ⟨helpOpen, helpScroll, rfl⟩
  | confirmed _ _ _ help_closed _ _ | cancelled help_closed _ =>
    exact absurd (help_closed.symm.trans hh) Bool.false_ne_true
  | moved _ uncovered | refreshed uncovered | requested _ uncovered _ | helpOpened uncovered =>
    exact absurd uncovered covered

end Session

namespace Flight

variable {f : Flight}

theorem pending_act (hf : f.session.tasks = []) {a : Act} (hpress : ∀ key, a ≠ .turn (.press key))
    (hp : f.session.app.grid.pending = none) : (f.act a).session.app.grid.pending = none := by
  rcases f.act_cases a with ⟨t, rfl⟩ | ⟨happ, _⟩
  · by_cases hr : t = .refresh
    · rw [hr]
      exact f.session.spawnRefresh_keeps.2.trans hp
    · have hk := (f.session.turned_turn hf t).keepsOverlays (fun key h => hpress key (by rw [h])) hr
      exact hk.pending.trans hp
  · rw [happ]
    exact hp

theorem exclusive_act (hf : f.session.tasks = []) {a : Act} (hrefresh : a ≠ .turn .refresh)
    (hx : f.session.Exclusive) : (f.act a).session.Exclusive := by
  rcases f.act_cases a with ⟨t, rfl⟩ | ⟨happ, _⟩
  · suffices ht : (f.session.turn t).Exclusive from ht.keeps (.of_app rfl)
    by_cases hp : ∃ key, t = .press key
    · obtain ⟨key, rfl⟩ := hp
      exact (f.session.pressed_press key).exclusive hx
    · have hr : t ≠ .refresh := fun h => hrefresh (by rw [h])
      exact hx.keeps ((f.session.turned_turn hf t).keepsOverlays (not_exists.mp hp) hr)
  · exact hx.keeps (.of_app happ)

theorem exclusive_play (hf : f.session.tasks = []) {early late : List Act}
    (hearly : ∀ key, .turn (.press key) ∉ early) (hlate : .turn .refresh ∉ late)
    (hp : f.session.app.grid.pending = none) : (f.play (early ++ late)).session.Exclusive := by
  have hbefore : (f.play early).session.app.grid.pending = none := by
    apply play_induction (P := fun g => g.session.app.grid.pending = none) hf hp
    intro g a ha hg
    apply pending_act hg
    rintro key rfl
    exact hearly key ha
  rw [play_append]
  apply play_induction (P := fun g => g.session.Exclusive) (play_tasks hf early)
    (.of_pending hbefore)
  intro g a ha hg
  apply exclusive_act hg
  rintro rfl
  exact hlate ha

end Flight

/-- Where refreshes are started by keys, or before the first key, the help never lies over a staged
deletion, and none is staged while the view loads. Open help leaves a key nothing but itself to
change; a staged deletion is all that a key can settle; and a key quits if it is the interrupt or,
with no overlay open, the list quits on it. -/
theorem Session.overlays_take_all_keys (trigger : Trigger) (config : Config) (file : FileState)
    (store : Store) (early late : List Flight.Act) (hearly : ∀ key, .turn (.press key) ∉ early)
    (hlate : .turn .refresh ∉ late) :
    let s := ((startWith trigger config file store).flight.play (early ++ late)).session
    s.Exclusive ∧ ∀ key,
      (s.app.helpOpen = true → ∃ helpOpen helpScroll,
        (s.press key).1 = { s with app := { s.app with helpOpen, helpScroll } }) ∧
      (∀ id, s.app.grid.pending = some id →
        s.Settled id (s.press key).1 ∧ s.Captured (s.press key).1) ∧
      ((s.press key).2 = true ↔ isInterrupt key = true ∨
        s.Uncovered ∧ s.app.keymap.actionFor .channelList key = some .quit) := by
  intro s
  have hs : s.Exclusive := Flight.exclusive_play rfl hearly hlate rfl
  refine ⟨hs, fun key => ⟨(s.pressed_press key).help_only, fun id hp => ?_, press_quits_iff⟩⟩
  have hsettled := (s.pressed_press key).settled (hs.help_closed hp) hp
  exact ⟨hsettled, hsettled.captured⟩

/-- A refresh came to its end before the first key. After the row's deletion is asked for, the key of
the help is pressed; after the help is opened, the key of the deletion. -/
theorem Session.staged_deletion_takes_help_key :
    let early : List Flight.Act := [.turn .refresh, .advance 0, .advance 0, .turn (.handle 0)]
    let press (c : Char) : Flight.Act := .turn (.press { code := .char c })
    let after (c : Char) := ((startWith .onStore {} .missing
      (.inMemory [.ofCounts "a" "A" 2 2])).flight.play (early ++ [press c])).session
    (∀ key, .turn (.press key) ∉ early) ∧ (∀ c, .turn .refresh ∉ [press c]) ∧
      (after 'd').app.grid.pending = some "a" ∧ (after 'd').Exclusive ∧
      (after 'd').Settled "a" ((after 'd').press { code := .char '?' }).1 ∧
      (after 'd').Captured ((after 'd').press { code := .char '?' }).1 ∧
      (after '?').app.helpOpen = true ∧
      ∃ helpOpen helpScroll, ((after '?').press { code := .char 'd' }).1 =
        { after '?' with app := { (after '?').app with helpOpen, helpScroll } } := by
  intro early press after
  have hearly : ∀ key, .turn (.press key) ∉ early := by simp [early]
  have hlate (c : Char) : .turn .refresh ∉ [press c] := by simp [press]
  have hrun (c : Char) := overlays_take_all_keys .onStore {} .missing
    (.inMemory [.ofCounts "a" "A" 2 2]) early [press c] hearly (hlate c)
  have hp : (after 'd').app.grid.pending = some "a" := by decide +kernel
  have hh : (after '?').app.helpOpen = true := by decide +kernel
  obtain ⟨hsettled, hcaptured⟩ := ((hrun 'd').2 { code := .char '?' }).2.1 "a" hp
  have honly := ((hrun '?').2 { code := .char 'd' }).1 hh
  exact ⟨hearly, hlate, hp, (hrun 'd').1, hsettled, hcaptured, hh, honly⟩

end DeviceChannels
