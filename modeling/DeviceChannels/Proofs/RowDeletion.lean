import DeviceChannels.Proofs.DeletionPassage
import DeviceChannels.Proofs.DisplayOrder
import Mathlib.Data.List.Nodup

/-! A confirmed deletion takes out the selected row and nothing else. Where ids are distinct, taking a
channel's content off changes one place of the collection and erases one row of the display list. -/

namespace DeviceChannels

section

variable {cs : List Channel} {c : Channel} {id : String}

theorem takeContentOff_eq_set (hids : (cs.map Channel.id).Nodup) {i : Nat}
    (hi : cs[i]? = some c) : takeContentOff c.id cs = cs.set i c.withoutContent := by
  induction cs generalizing i with
  | nil => simp at hi
  | cons d cs ih =>
    obtain ⟨hd, hrest⟩ := List.nodup_cons.mp hids
    cases i with
    | zero =>
      obtain rfl : d = c := by simpa using hi
      simp [takeContentOff]
    | succ i =>
      have hc : cs[i]? = some c := by simpa using hi
      have hne : d.id ≠ c.id := by
        intro he
        exact hd (he ▸ List.mem_map_of_mem (List.mem_of_getElem? hc))
      simp [takeContentOff, hne, ih hrest hc]

theorem isOnDevice_withoutContent (c : Channel) : c.withoutContent.isOnDevice = false := rfl

theorem filter_isOnDevice_takeContentOff (hids : (cs.map Channel.id).Nodup) :
    (takeContentOff id cs).filter Channel.isOnDevice =
      (cs.filter Channel.isOnDevice).filter fun d => d.id ≠ id := by
  induction cs with
  | nil => rfl
  | cons d cs ih =>
    obtain ⟨hd, hrest⟩ := List.nodup_cons.mp hids
    by_cases he : d.id = id
    · have hothers : ∀ d' ∈ cs.filter Channel.isOnDevice, decide (d'.id ≠ id) = true := by
        intro d' hm
        rw [decide_eq_true_eq]
        intro he'
        have hcs : d' ∈ cs := (List.mem_filter.mp hm).1
        exact hd (he.trans he'.symm ▸ List.mem_map_of_mem hcs)
      have hkeep := List.filter_eq_self.mpr hothers
      by_cases hon : d.isOnDevice = true
      · simp only [takeContentOff, he, if_true, List.filter_cons, isOnDevice_withoutContent, hon]
        simpa [he] using hkeep.symm
      · simp only [takeContentOff, he, if_true, List.filter_cons, isOnDevice_withoutContent, hon]
        simpa using hkeep.symm
    · by_cases hon : d.isOnDevice = true
      · simpa [takeContentOff, he, hon] using ih hrest
      · simpa [takeContentOff, he, hon] using ih hrest

theorem displayList_takeContentOff (hids : (cs.map Channel.id).Nodup) :
    displayList (takeContentOff id cs) = (displayList cs).filter fun d => d.id ≠ id := by
  symm
  rw [eq_displayList_iff]
  constructor
  · exact (ordered_displayList cs).sublist List.filter_sublist
  · intro name
    rw [filter_isOnDevice_takeContentOff hids, named_filter, named_filter, named_displayList]

theorem nodup_displayList (hids : (cs.map Channel.id).Nodup) :
    ((displayList cs).map Channel.id).Nodup := by
  have hshown : ((cs.filter Channel.isOnDevice).map Channel.id).Nodup :=
    hids.sublist (List.filter_sublist.map Channel.id)
  exact ((perm_displayList cs).map Channel.id).nodup_iff.mpr hshown

theorem eraseIdx_eq_filter (hids : (cs.map Channel.id).Nodup) {i : Nat} (hi : cs[i]? = some c) :
    cs.eraseIdx i = cs.filter fun d => d.id ≠ c.id := by
  obtain ⟨hlt, rfl⟩ := List.getElem?_eq_some_iff.mp hi
  have hnodup : cs.Nodup := List.Nodup.of_map Channel.id hids
  rw [← hnodup.erase_getElem i hlt, hnodup.erase_eq_filter]
  apply List.filter_congr
  intro d hd
  by_cases he : d = cs[i]
  · simp [he]
  · have hne : d.id ≠ cs[i].id := fun hid =>
      he (List.inj_on_of_nodup_map hids hd (List.getElem_mem hlt) hid)
    simp [he, hne]

theorem find?_eq_some_of_mem (hids : (cs.map Channel.id).Nodup) (hc : c ∈ cs) :
    cs.find? (fun d => d.id == c.id) = some c := by
  cases hf : cs.find? fun d => d.id == c.id with
  | none => simpa using List.find?_eq_none.mp hf c hc
  | some d =>
    have hid : d.id = c.id := by simpa using List.find?_some hf
    rw [List.inj_on_of_nodup_map hids (List.mem_of_find?_eq_some hf) hc hid]

end

namespace Session

/-- The view is in step with a store of distinct ids, this channel's row is selected, and nothing is
open, staged or under way. -/
structure AtRow (s : Session) (c : Channel) : Prop where
  trigger : s.runner.trigger = .onStore
  tasks : s.tasks = []
  help_closed : s.app.helpOpen = false
  idle : s.app.grid.pending = none
  rows : s.app.grid.primaryState = .rows
  channels : s.app.grid.channels = s.store.channels
  display : s.app.grid.display = displayList s.store.channels
  distinct : (s.store.channels.map Channel.id).Nodup
  selected : s.app.selectedChannel = some c

variable {s : Session} {c : Channel} {request confirm : Key}

theorem AtRow.requests (h : s.AtRow c) (hfree : isInterrupt request = false)
    (hresolves : s.app.keymap.actionFor .channelList request = some .deleteChannel) :
    s.Requests request c.id :=
  ⟨hfree, h.help_closed, h.idle, hresolves, h.rows, by simp [h.selected]⟩

theorem AtRow.confirms (h : s.AtRow c) (hfree : isInterrupt confirm = false)
    (hresolves : s.app.keymap.actionFor .confirm confirm = some .confirmDelete) :
    (s.afterRequest c.id).Confirms confirm c.id :=
  ⟨hfree, h.help_closed, rfl, hresolves⟩

theorem AtRow.mem (h : s.AtRow c) : c ∈ s.store.channels := by
  have hrow : c ∈ s.app.grid.display := List.mem_of_getElem? h.selected
  rw [h.display] at hrow
  exact ((mem_displayList _).mp hrow).1

theorem AtRow.find?_eq (h : s.AtRow c) : s.store.find? c.id = some c :=
  find?_eq_some_of_mem h.distinct h.mem

theorem AtRow.display_takeContentOff (h : s.AtRow c) :
    displayList (takeContentOff c.id s.store.channels) =
      s.app.grid.display.eraseIdx s.app.selected := by
  have hdisplay : (s.app.grid.display.map Channel.id).Nodup := by
    rw [h.display]
    exact nodup_displayList h.distinct
  rw [eraseIdx_eq_filter hdisplay h.selected, displayList_takeContentOff h.distinct, h.display]

theorem AtRow.pressed (h : s.AtRow c) (hrequest : isInterrupt request = false)
    (hdelete : s.app.keymap.actionFor .channelList request = some .deleteChannel)
    (hconfirm : isInterrupt confirm = false)
    (hyes : s.app.keymap.actionFor .confirm confirm = some .confirmDelete) :
    s.run [.press request, .press confirm] = (s.afterRequest c.id).afterConfirm c.id := by
  have hfirst : s.turn (.press request) = s.afterRequest c.id :=
    press_requests (h.requests hrequest hdelete)
  have hsecond : (s.afterRequest c.id).turn (.press confirm) =
      (s.afterRequest c.id).afterConfirm c.id :=
    press_confirms (h.confirms hconfirm hyes) h.trigger
  simp only [run, List.foldl_cons, List.foldl_nil, hfirst, hsecond]

theorem finish_only_deletion {s : Session} (ht : s.tasks = [.deletion c.id])
    (hf : s.store.find? c.id = some c) :
    s.turn (.finish 0) = { s with
      store := (s.store.removeContent c.id).2
      tasks := []
      events := s.events ++ [.channelDeleted c.id c.name] } := by
  simp only [turn, ht, List.getElem?_cons_zero, List.eraseIdx_cons_zero]
  exact finish_deletion_of_some hf

theorem handle_last {s : Session} {events : List Event} {event : Event}
    (he : s.events = events ++ [event]) :
    s.turn (.handle events.length) = ({ s with events } : Session).handle event := by
  have hget : s.events[events.length]? = some event := by simp [he]
  have herase : s.events.eraseIdx events.length = events := by
    simp [he, List.eraseIdx_append_of_length_le]
  simp only [turn, hget, herase]

/-- Where the first key asks for the deletion of the selected row and the second confirms it, one task
is started. Once it is done and its report handled, that row is gone from the display list; in the
store that channel has no content, and nothing else has changed. -/
theorem confirmed_deletion_removes_row (h : s.AtRow c) (hrequest : isInterrupt request = false)
    (hdelete : s.app.keymap.actionFor .channelList request = some .deleteChannel)
    (hconfirm : isInterrupt confirm = false)
    (hyes : s.app.keymap.actionFor .confirm confirm = some .confirmDelete) :
    let pressed := s.run [.press request, .press confirm]
    let finished := pressed.turn (.finish 0)
    let shown := finished.turn (.handle s.events.length)
    pressed.tasks = [.deletion c.id] ∧
      finished.events = s.events ++ [.channelDeleted c.id c.name] ∧
      shown.tasks = [] ∧ shown.events = s.events ∧
      shown.app.grid.display = s.app.grid.display.eraseIdx s.app.selected ∧
      shown.app.grid.channels = shown.store.channels ∧
      (∃ i, s.store.channels[i]? = some c ∧ shown.store.channels =
        s.store.channels.set i { c with onDeviceResources := 0, onDeviceFileSize := 0 }) ∧
      shown.app.grid.pending = none ∧
      shown.app.selected = min s.app.selected (shown.app.grid.display.length - 1) := by
  intro pressed finished shown
  have hpressed : pressed = (s.afterRequest c.id).afterConfirm c.id :=
    h.pressed hrequest hdelete hconfirm hyes
  have htasks : pressed.tasks = [.deletion c.id] := by
    rw [hpressed]
    simp [afterConfirm, afterRequest, h.tasks]
  have hstore : pressed.store = s.store := by
    rw [hpressed]
    rfl
  have hfinished : finished = _ := finish_only_deletion htasks (hstore ▸ h.find?_eq)
  have hevents : finished.events = s.events ++ [.channelDeleted c.id c.name] := by
    rw [hfinished, hpressed]
    rfl
  have hshown : shown = _ := handle_last hevents
  have hremoved : shown.store.channels = takeContentOff c.id s.store.channels := by
    rw [hshown, hfinished, hstore, Store.removeContent_of_some h.find?_eq]
    rfl
  have hinstep : shown.app.grid.channels = shown.store.channels := by
    rw [hshown]
    rfl
  have hdisplay : shown.app.grid.display = displayList shown.store.channels := by
    rw [hshown]
    rfl
  obtain ⟨i, hi⟩ := List.mem_iff_getElem?.mp h.mem
  refine ⟨htasks, hevents, ?_, ?_, ?_, hinstep, ⟨i, hi, ?_⟩, ?_, ?_⟩
  · rw [hshown, hfinished]
    rfl
  · rw [hshown]
    rfl
  · rw [hdisplay, hremoved, h.display_takeContentOff]
  · exact hremoved.trans (takeContentOff_eq_set h.distinct hi)
  · rw [hshown, hfinished, hpressed]
    rfl
  · rw [hshown, hfinished, hpressed]
    rfl

/-- Two channels of one name are on the device and one between them in the collection is not. The lower
row is selected, and the key that by default calls a deletion off confirms it. -/
theorem lower_of_two_rows_deleted :
    let c : Channel := .ofCounts "b" "N" 2 2
    let opened : Session := start { keybindings := [("confirm", "n")] } .missing
      (.inMemory [.ofCounts "a" "N" 1 1, .ofCounts "x" "M" 0 1, c])
    let s : Session := { opened with app := { opened.app with selected := 1 } }
    let request : Key := { code := .delete }
    let confirm : Key := { code := .char 'n' }
    let finished := (s.run [.press request, .press confirm]).turn (.finish 0)
    let shown := finished.turn (.handle 0)
    s.AtRow c ∧ isInterrupt request = false ∧
      s.app.keymap.actionFor .channelList request = some .deleteChannel ∧
      isInterrupt confirm = false ∧
      s.app.keymap.actionFor .confirm confirm = some .confirmDelete ∧
      finished.events = [.channelDeleted "b" "N"] ∧
      shown.app.grid.display = s.app.grid.display.eraseIdx 1 ∧
      (∃ i, s.store.channels[i]? = some c ∧
        shown.store.channels = s.store.channels.set i (.ofCounts "b" "N" 0 2)) ∧
      shown.app.selected = min 1 (shown.app.grid.display.length - 1) := by
  intro c opened s request confirm finished shown
  have hlisted : s.app.grid.display = [.ofCounts "a" "N" 1 1, c] :=
    displayList_of_ordered (by unfold Ordered; decide)
  have hrows : s.app.grid.primaryState = .rows := by
    rw [Grid.primaryState, hlisted]
    rfl
  have hcursor : s.app.selectedChannel = some c := by
    rw [App.selectedChannel, hlisted]
    rfl
  have hrow : s.AtRow c := ⟨rfl, rfl, rfl, rfl, hrows, rfl, rfl, by decide, hcursor⟩
  have hrequest : isInterrupt request = false := by decide
  have hconfirm : isInterrupt confirm = false := by decide
  have hdelete : s.app.keymap.actionFor .channelList request = some .deleteChannel := by
    decide +kernel
  have hyes : s.app.keymap.actionFor .confirm confirm = some .confirmDelete := by decide +kernel
  obtain ⟨_, hevents, _, _, hdisplay, _, hstore, _, hselected⟩ :=
    confirmed_deletion_removes_row hrow hrequest hdelete hconfirm hyes
  exact ⟨hrow, hrequest, hdelete, hconfirm, hyes, hevents, hdisplay, hstore, hselected⟩

end Session

end DeviceChannels
