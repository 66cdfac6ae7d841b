import DeviceChannels.Proofs.DeletionPassage

/-! All that a key can do to the session, whatever it is bound to and whatever the runner answers:
which overlay has the keys decides, and each of them reaches only a part of the state. -/

namespace DeviceChannels.Session

/-- No overlay is open, so the channel list has the keys. -/
structure Uncovered (s : Session) : Prop where
  help_closed : s.app.helpOpen = false
  idle : s.app.grid.pending = none

/-- The staged id was handed over; the status bar tells how that went, and `started` is what now
runs because of it. -/
def handedOver (s : Session) (id : String) (status : Option StatusMessage)
    (started : List Task) : Session :=
  { s with
    app := { s.app with grid := { s.app.grid with workflow := .idle }, status }
    runner := { s.runner with calls := s.runner.calls ++ [id] }
    tasks := s.tasks ++ started }

inductive Pressed (s : Session) : Session → Prop
  | ignored : Pressed s s
  | help (helpOpen : Bool) (helpScroll : Nat) (is_open : s.app.helpOpen = true) :
      Pressed s { s with app := { s.app with helpOpen, helpScroll } }
  | confirmed (id : String) (status : Option StatusMessage) (started : List Task)
      (help_closed : s.app.helpOpen = false) (staged : s.app.grid.pending = some id)
      (no_refresh : .refresh ∉ started) : Pressed s (s.handedOver id status started)
  | cancelled (help_closed : s.app.helpOpen = false) (staged : s.app.grid.pending.isSome) :
      Pressed s s.afterCancel
  | moved (selected : Nat) (uncovered : s.Uncovered) :
      Pressed s { s with app := { s.app with selected } }
  | refreshed (uncovered : s.Uncovered) : Pressed s s.spawnRefresh
  | requested (id : String) (uncovered : s.Uncovered) (rows : s.app.grid.primaryState = .rows) :
      Pressed s (s.afterRequest id)
  | helpOpened (uncovered : s.Uncovered) :
      Pressed s { s with app := { s.app with helpOpen := true, helpScroll := 0 } }

variable {s : Session} {key : Key}

theorem not_uncovered_of_help (h : s.app.helpOpen = true) : ¬ s.Uncovered :=
  fun hu => Bool.false_ne_true (hu.help_closed.symm.trans h)

theorem not_uncovered_of_pending {id : String} (h : s.app.grid.pending = some id) :
    ¬ s.Uncovered :=
  fun hu => Option.some_ne_none id (h.symm.trans hu.idle)

theorem confirmDelete_eq {id : String} (hp : s.app.grid.pending = some id) :
    ∃ status, s.confirmDelete =
      ((s.runner.trigger s.runner.calls id).toOption, s.handedOver id status []) := by
  have hw : s.app.grid.workflow.pending = some id := hp
  cases ht : s.runner.trigger s.runner.calls id with
  | ok completion =>
    simp [confirmDelete, App.confirmDelete, Grid.confirmSurface, hp, Grid.confirmDelete,
      Workflow.confirm_eq, hw, ht, Except.map, handedOver, App.setStatus, Except.toOption]
  | error fault =>
    simp [confirmDelete, App.confirmDelete, Grid.confirmDelete, Workflow.confirm_eq, hw, ht,
      Except.map, handedOver, App.setStatus, Except.toOption]

theorem watch_eq (s : Session) (completion : Completion) :
    ∃ task, task ≠ .refresh ∧ s.watch completion = { s with tasks := s.tasks ++ [task] } := by
  cases hc : completion.result? with
  | none => exact ⟨.deletion completion.channelId, by simp, by simp only [watch, hc]⟩
  | some result => exact ⟨.watch completion.channelId result, by simp, by simp only [watch, hc]⟩

theorem pressed_pressInHelp (h : s.app.helpOpen = true) : s.Pressed (s.pressInHelp key) := by
  cases hk : s.app.keymap.actionFor .help key with
  | none => simpa only [pressInHelp, hk] using .ignored
  | some action =>
    cases action with
    | closeHelp => simpa only [pressInHelp, hk] using .help false 0 h
    | navDown => simpa only [pressInHelp, hk] using .help s.app.helpOpen (s.app.helpScroll + 1) h
    | navUp => simpa only [pressInHelp, hk] using .help s.app.helpOpen (s.app.helpScroll - 1) h
    | _ => simpa only [pressInHelp, hk] using .ignored

theorem pressed_pressInConfirm {id : String} (hh : s.app.helpOpen = false)
    (hp : s.app.grid.pending = some id) : s.Pressed (s.pressInConfirm key) := by
  unfold pressInConfirm
  split
  · obtain ⟨status, he⟩ := s.confirmDelete_eq hp
    cases ht : s.runner.trigger s.runner.calls id with
    | ok completion =>
      obtain ⟨task, htask, hw⟩ := (s.handedOver id status []).watch_eq completion
      simp only [he, ht, Except.toOption, hw]
      have hs : s.Pressed (s.handedOver id status [task]) :=
        .confirmed id status [task] hh hp (by simpa using htask.symm)
      simpa only [handedOver, List.append_nil] using hs
    | error fault =>
      simp only [he, ht, Except.toOption]
      exact .confirmed id status [] hh hp (by simp)
  · have hs : s.app.grid.pending.isSome := by simp [hp]
    rw [App.cancelDelete_of_pending s.clock hs]
    exact .cancelled hh hs
  · exact .ignored

theorem pressed_requestDeleteSelected (h : s.Uncovered) :
    s.Pressed { s with app := s.app.requestDeleteSelected } := by
  by_cases hr : s.app.grid.primaryState = .rows
  · cases hc : s.app.selectedChannel with
    | some c => simpa only [App.requestDeleteSelected, hr, if_true, hc] using .requested c.id h hr
    | none => simpa only [App.requestDeleteSelected, hr, if_true, hc] using .ignored
  · simpa only [App.requestDeleteSelected, hr, if_false] using .ignored

theorem pressed_navDown (h : s.Uncovered) : s.Pressed { s with app := s.app.navDown } := by
  by_cases hl : 0 < s.app.listLength
  · simpa only [App.navDown, hl, if_true] using .moved _ h
  · simpa only [App.navDown, hl, if_false] using .ignored

theorem pressed_pressInList (h : s.Uncovered) : s.Pressed (s.pressInList key).1 := by
  cases hk : s.app.keymap.actionFor .channelList key with
  | none => simpa only [pressInList, hk] using .ignored
  | some action =>
    cases action with
    | navDown => simpa only [pressInList, hk] using pressed_navDown h
    | navUp => simpa only [pressInList, hk] using .moved (s.app.selected - 1) h
    | navTop => simpa only [pressInList, hk] using .moved 0 h
    | navBottom => simpa only [pressInList, hk] using .moved (s.app.listLength - 1) h
    | refresh => simpa only [pressInList, hk] using .refreshed h
    | deleteChannel => simpa only [pressInList, hk] using pressed_requestDeleteSelected h
    | showHelp => simpa only [pressInList, hk] using .helpOpened h
    | _ => simpa only [pressInList, hk] using .ignored

theorem pressed_press (s : Session) (key : Key) : s.Pressed (s.press key).1 := by
  unfold press
  split
  · exact .ignored
  split
  · exact pressed_pressInHelp (by assumption)
  rename_i hh
  have hh' : s.app.helpOpen = false := by simpa using hh
  cases hp : s.app.grid.pending with
  | some id => exact pressed_pressInConfirm hh' hp
  | none => exact pressed_pressInList ⟨hh', hp⟩

theorem pressInList_quits_iff :
    (s.pressInList key).2 = true ↔ s.app.keymap.actionFor .channelList key = some .quit := by
  cases hk : s.app.keymap.actionFor .channelList key with
  | none => simp [pressInList, hk]
  | some action => cases action <;> simp [pressInList, hk]

/-- Besides the interrupt, a key quits only on the channel list. -/
theorem press_quits_iff : (s.press key).2 = true ↔ isInterrupt key = true ∨
    s.Uncovered ∧ s.app.keymap.actionFor .channelList key = some .quit := by
  by_cases hi : isInterrupt key = true
  · simp [press, hi]
  by_cases hh : s.app.helpOpen = true
  · simp [press, hi, hh, not_uncovered_of_help hh]
  cases hp : s.app.grid.pending with
  | some id => simp [press, hi, hh, hp, not_uncovered_of_pending hp]
  | none =>
    have hu : s.Uncovered := ⟨by simpa using hh, hp⟩
    simp [press, hi, hh, hp, hu, pressInList_quits_iff]

end DeviceChannels.Session
