import DeviceChannels.Proofs.GridFreshness
import DeviceChannels.Proofs.OverlayExclusion
import DeviceChannels.Proofs.DisplayOrder

/-! The selection never leaves the display list. Keys move it within the list, and whatever replaces
the list brings it back; so the row whose deletion a key asks for is there. -/

namespace DeviceChannels

namespace App

/-- The selection is on a row; in an empty list it is at the top. -/
def OnList (a : App) : Prop := a.selected ≤ a.listLength - 1

variable {a : App}

theorem OnList.of_nil (h : a.OnList) (hd : a.grid.display = []) :
    a.selected = 0 ∧ a.selectedChannel = none := by
  have hlen : a.listLength = 0 := by simp [listLength, hd]
  have hzero : a.selected = 0 := by
    have hle : a.selected ≤ a.listLength - 1 := h
    omega
  exact ⟨hzero, by simp [selectedChannel, hd]⟩

theorem OnList.lt (h : a.OnList) (hd : a.grid.display ≠ []) : a.selected < a.listLength := by
  have hpos : 0 < a.listLength := List.length_pos_iff.mpr hd
  have hle : a.selected ≤ a.listLength - 1 := h
  omega

theorem onList_syncChannels (a : App) (channels : List Channel) :
    (a.syncChannels channels).OnList :=
  Nat.min_le_right _ _

theorem OnList.handle (h : a.OnList) (now : Nat) (snapshot : List Channel) (event : Event) :
    (a.handle now snapshot event).OnList := by
  cases event with
  | channelsRefreshed _ => exact a.refreshSettled.onList_syncChannels snapshot
  | channelDeleted _ _ => exact a.onList_syncChannels snapshot
  | refreshFailed _ | channelDeleteFailed _ _ => exact h
  | taskPanicked task _ => cases task <;> exact h

theorem selected_navDown_le (a : App) :
    a.navDown.selected ≤ max a.selected (a.listLength - 1) := by
  by_cases hl : 0 < a.listLength
  · simp only [navDown, hl, if_true]
    omega
  · simp only [navDown, hl, if_false]
    omega

theorem selected_requestDeleteSelected (a : App) :
    a.requestDeleteSelected.selected = a.selected := by
  by_cases hr : a.grid.primaryState = .rows
  · cases hc : a.selectedChannel <;> simp [requestDeleteSelected, hr, hc]
  · simp [requestDeleteSelected, hr]

end App

namespace Session

variable {s s' : Session} {t : Turn} {key : Key}

theorem selected_spawnRefresh (s : Session) : s.spawnRefresh.app.selected = s.app.selected := by
  by_cases hl : s.app.grid.loading <;> simp only [spawnRefresh, hl] <;> rfl

theorem selected_pressInList_le (s : Session) (key : Key) :
    (s.pressInList key).1.app.selected ≤ max s.app.selected (s.app.listLength - 1) := by
  have same : s.app.selected ≤ max s.app.selected (s.app.listLength - 1) := Nat.le_max_left _ _
  cases hk : s.app.keymap.actionFor .channelList key with
  | none => simpa only [pressInList, hk] using same
  | some action =>
    cases action with
    | navDown => simpa only [pressInList, hk] using s.app.selected_navDown_le
    | navUp =>
      simp only [pressInList, hk, App.navUp]
      omega
    | navTop => simp only [pressInList, hk, App.navTop, Nat.zero_le]
    | navBottom => simpa only [pressInList, hk, App.navBottom] using Nat.le_max_right _ _
    | refresh => simpa only [pressInList, hk, selected_spawnRefresh] using same
    | deleteChannel =>
      simpa only [pressInList, hk, App.selected_requestDeleteSelected] using same
    | _ => simpa only [pressInList, hk] using same

theorem selected_press_le (s : Session) (key : Key) :
    (s.press key).1.app.selected ≤ max s.app.selected (s.app.listLength - 1) := by
  by_cases hh : s.app.helpOpen = true
  · obtain ⟨_, _, he⟩ := (s.pressed_press key).help_only hh
    rw [he]
    exact Nat.le_max_left _ _
  have hh' : s.app.helpOpen = false := by simpa using hh
  cases hp : s.app.grid.pending with
  | some id =>
    have hcaptured := ((s.pressed_press key).settled hh' hp).captured
    rw [hcaptured.selected]
    exact Nat.le_max_left _ _
  | none =>
    by_cases hi : isInterrupt key = true
    · simp only [press, hi, if_true]
      exact Nat.le_max_left _ _
    · simpa [press, hi, hh', hp] using s.selected_pressInList_le key

theorem onList_press (h : s.app.OnList) (key : Key) : (s.press key).1.app.OnList := by
  have hle := s.selected_press_le key
  have hon : s.app.selected ≤ s.app.listLength - 1 := h
  have hlen : (s.press key).1.app.listLength = s.app.listLength := by
    rw [App.listLength, (s.pressed_press key).sameCollections.display]
    rfl
  have hgoal : (s.press key).1.app.selected ≤ (s.press key).1.app.listLength - 1 := by omega
  exact hgoal

theorem Turned.onList (h : Turned s t s') (hpress : ∀ key, t ≠ .press key)
    (hs : s.app.OnList) : s'.app.OnList := by
  cases h with
  | aside aside =>
    obtain ⟨_, _, _, _, happ⟩ := aside.app
    rw [happ]
    exact hs
  | pressed key turn _ => exact absurd turn (hpress key)
  | refreshed _ =>
    have hlen : s.spawnRefresh.app.listLength = s.app.listLength := by
      rw [App.listLength, s.spawnRefresh_sameCollections.display]
      rfl
    rw [App.OnList, selected_spawnRefresh, hlen]
    exact hs
  | handled event left _ => exact hs.handle s.clock s.store.channels event
  | shown channels _ _ => exact s.app.onList_syncChannels channels

def Stages (s : Session) (key : Key) (id : String) : Prop :=
  s.app.grid.pending ≠ some id ∧ (s.press key).1.app.grid.pending = some id

/-- Only the press that asks for a row's deletion stages an id. -/
theorem stages_iff {id : String} : s.Stages key id ↔ s.Requests key id := by
  constructor
  · rintro ⟨hbefore, hafter⟩
    by_cases hr : ∃ id', s.Requests key id'
    · obtain ⟨id', hr⟩ := hr
      rw [press_requests hr] at hafter
      obtain rfl : id' = id := Option.some.inj hafter
      exact hr
    have answered {id' : String} (hh : s.app.helpOpen = false)
        (hp : s.app.grid.pending = some id') : False := by
      have hcaptured := ((s.pressed_press key).settled hh hp).captured
      rcases hcaptured.stage with he | he
      · exact hbefore (he.symm.trans hafter)
      · exact Option.some_ne_none id (hafter.symm.trans he)
    by_cases ha : s.Answers key
    · rcases ha with ⟨id', hc⟩ | hx
      · exact (answered hc.help_closed hc.staged).elim
      · obtain ⟨id', hp⟩ := Option.isSome_iff_exists.mp hx.staged
        exact (answered hx.help_closed hp).elim
    · have hsame := (press_undisturbed (fun id' h => hr ⟨id', h⟩) ha).pending
      exact absurd (hsame.symm.trans hafter) hbefore
  · intro hr
    refine ⟨by simp [hr.idle], ?_⟩
    rw [press_requests hr]
    rfl

end Session

namespace Flight

variable {f : Flight}

theorem onList_act (hf : f.session.tasks = []) (a : Act) (hs : f.session.app.OnList) :
    (f.act a).session.app.OnList := by
  rcases f.act_cases a with ⟨t, rfl⟩ | ⟨happ, _⟩
  · by_cases hp : ∃ key, t = .press key
    · obtain ⟨key, rfl⟩ := hp
      exact Session.onList_press hs key
    · exact (f.session.turned_turn hf t).onList (not_exists.mp hp) hs
  · rw [happ]
    exact hs

end Flight

/-- In a run of the application, whatever it shows and whatever its keys are, the selection is on a row
or, where there is none, at the top. A key stages an id exactly if it asks for a deletion on the
rows, and the id is that of the selected row. -/
theorem Session.selection_in_list (trigger : Trigger) (config : Config) (file : FileState)
    (store : Store) (acts : List Flight.Act) :
    let s := ((startWith trigger config file store).flight.play acts).session
    (s.app.grid.display = [] → s.app.selected = 0 ∧ s.app.selectedChannel = none) ∧
      (s.app.grid.display ≠ [] →
        s.app.selected < s.app.grid.display.length ∧ s.app.selectedChannel.isSome) ∧
      ∀ key id, s.Stages key id ↔ s.Requests key id ∧
        ∃ c, s.app.grid.display[s.app.selected]? = some c ∧ c.id = id := by
  intro s
  have hs : s.app.OnList := by
    apply Flight.play_induction (P := fun g => g.session.app.OnList) rfl
    · exact Nat.zero_le _
    · exact fun _ a _ hg => Flight.onList_act hg a
  refine ⟨hs.of_nil, fun hd => ?_, fun key id => ?_⟩
  · have hlt : s.app.selected < s.app.grid.display.length := hs.lt hd
    exact ⟨hlt, by simp [App.selectedChannel, hlt]⟩
  · rw [stages_iff]
    constructor
    · intro hr
      exact ⟨hr, Option.map_eq_some_iff.mp hr.selected⟩
    · exact fun h => h.1

/-- The last of three rows is selected. Then two other channels are shown, and after them none. -/
theorem Session.selection_follows_the_list :
    let config : Config := {}
    let store : Store := .inMemory [.ofCounts "a" "A" 1 1, .ofCounts "b" "B" 1 1,
      .ofCounts "c" "C" 1 1]
    let acts : List Flight.Act := [.turn (.press { code := .endKey }),
      .turn (.publish [.ofCounts "y" "Y" 1 1, .ofCounts "x" "X" 1 1])]
    let s := ((startWith .onStore config .missing store).flight.play acts).session
    let empty := ((startWith .onStore config .missing store).flight.play
      (acts ++ [.turn (.publish [])])).session
    s.app.grid.display ≠ [] ∧ s.app.selected < s.app.grid.display.length ∧
      s.app.selectedChannel.isSome ∧ s.Stages { code := .char 'd' } "y" ∧
      (∃ c, s.app.grid.display[s.app.selected]? = some c ∧ c.id = "y") ∧
      empty.app.grid.display = [] ∧ empty.app.selected = 0 ∧ empty.app.selectedChannel = none := by
  intro config store acts s empty
  obtain ⟨_, hrow, hstages⟩ := selection_in_list .onStore config .missing store acts
  obtain ⟨hnone, _, _⟩ :=
    selection_in_list .onStore config .missing store (acts ++ [.turn (.publish [])])
  have hbefore : displayList store.channels = store.channels :=
    displayList_of_ordered (by unfold Ordered; decide)
  have hdisplay : s.app.grid.display = [.ofCounts "x" "X" 1 1, .ofCounts "y" "Y" 1 1] := by
    symm
    change _ = displayList [.ofCounts "y" "Y" 1 1, .ofCounts "x" "X" 1 1]
    rw [eq_displayList_iff]
    refine ⟨by unfold Ordered; decide, fun name => ?_⟩
    by_cases hx : "X" = name
    · subst hx
      decide
    · simp [named, Channel.ofCounts, Channel.isOnDevice, List.filter_cons, hx]
  have hselected : s.app.selected = 1 := by
    have hclamped : s.app.selected =
        min ((displayList store.channels).length - 1) (s.app.grid.display.length - 1) := rfl
    rw [hclamped, hbefore, hdisplay]
    rfl
  have hd : s.app.grid.display ≠ [] := by simp [hdisplay]
  have hempty : empty.app.grid.display = [] := by decide +kernel
  have hrows : s.app.grid.primaryState = .rows := by
    rw [Grid.primaryState, hdisplay]
    rfl
  have hy : s.Stages { code := .char 'd' } "y" := by
    refine stages_iff.mpr ⟨by decide, rfl, rfl, by decide +kernel, hrows, ?_⟩
    rw [App.selectedChannel, hdisplay, hselected]
    rfl
  obtain ⟨hlt, hsome⟩ := hrow hd
  exact ⟨hd, hlt, hsome, hy, ((hstages _ _).mp hy).2, hempty, hnone hempty⟩

end DeviceChannels
