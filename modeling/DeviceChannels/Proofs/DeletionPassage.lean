import DeviceChannels.Proofs.SessionRun

/-! What a single turn does to a deletion: it stages the selected row, hands the staged id to the
runner, calls the deletion off or ends its task. Every other turn leaves all of that alone. -/

namespace DeviceChannels.Session

structure Requests (s : Session) (key : Key) (id : String) : Prop where
  free : isInterrupt key = false
  help_closed : s.app.helpOpen = false
  idle : s.app.grid.pending = none
  resolves : s.app.keymap.actionFor .channelList key = some .deleteChannel
  rows : s.app.grid.primaryState = .rows
  selected : s.app.selectedChannel.map Channel.id = some id

structure Confirms (s : Session) (key : Key) (id : String) : Prop where
  free : isInterrupt key = false
  help_closed : s.app.helpOpen = false
  staged : s.app.grid.pending = some id
  resolves : s.app.keymap.actionFor .confirm key = some .confirmDelete

structure Cancels (s : Session) (key : Key) : Prop where
  free : isInterrupt key = false
  help_closed : s.app.helpOpen = false
  staged : s.app.grid.pending.isSome
  resolves : s.app.keymap.actionFor .confirm key = some .cancelDelete

def Answers (s : Session) (key : Key) : Prop := (∃ id, s.Confirms key id) ∨ s.Cancels key

def afterRequest (s : Session) (id : String) : Session :=
  { s with app := { s.app with grid := s.app.grid.requestDelete id } }

def afterConfirm (s : Session) (id : String) : Session :=
  { s with
    app := ({ s.app with grid := { s.app.grid with workflow := .idle } } : App).setStatus s.clock
      ("Deleting " ++ (ConfirmSurface.mk id (s.app.grid.channels.find? fun c => c.id == id)).label
        ++ "...")
    runner := { s.runner with calls := s.runner.calls ++ [id] }
    tasks := s.tasks ++ [.deletion id] }

def afterCancel (s : Session) : Session :=
  { s with
    app := ({ s.app with grid := { s.app.grid with workflow := .idle } } : App).setStatus s.clock
      "Cancelled" }

theorem press_requests {s : Session} {key : Key} {id : String} (h : s.Requests key id) :
    (s.press key).1 = s.afterRequest id := by
  have hp : s.app.grid.pending.isSome = false := by simp [h.idle]
  obtain ⟨c, hc, hid⟩ := Option.map_eq_some_iff.mp h.selected
  simp only [press, h.free, h.help_closed, hp, Bool.false_eq_true, if_false, pressInList,
    h.resolves, App.requestDeleteSelected, h.rows, if_true, hc, hid, afterRequest]

theorem press_confirms {s : Session} {key : Key} {id : String} (h : s.Confirms key id)
    (ht : s.runner.trigger = .onStore) : (s.press key).1 = s.afterConfirm id := by
  have hp : s.app.grid.pending.isSome := by simp [h.staged]
  simp only [press, h.free, h.help_closed, hp, Bool.false_eq_true, if_false, if_true,
    pressInConfirm, h.resolves, confirmDelete, App.confirmDelete_of_pending s.clock h.staged ht,
    afterConfirm]
  rfl

theorem press_cancels {s : Session} {key : Key} (h : s.Cancels key) :
    (s.press key).1 = s.afterCancel := by
  simp only [press, h.free, h.help_closed, h.staged, Bool.false_eq_true, if_false, if_true,
    pressInConfirm, h.resolves, App.cancelDelete_of_pending s.clock h.staged, afterCancel]

/-- Of the deletions, at most tasks in flight differ. -/
structure Undisturbed (s s' : Session) (kept : List Task) : Prop where
  pending : s'.app.grid.pending = s.app.grid.pending
  runner : s'.runner = s.runner
  store : s'.store = s.store
  tasks : s'.tasks = kept ∨ s'.tasks = kept ++ [.refresh]

theorem pressInHelp_undisturbed (s : Session) (key : Key) :
    Undisturbed s (s.pressInHelp key) s.tasks := by
  cases hk : s.app.keymap.actionFor .help key with
  | none => simp only [pressInHelp, hk]; exact ⟨rfl, rfl, rfl, .inl rfl⟩
  | some action => cases action <;> simp only [pressInHelp, hk] <;> exact ⟨rfl, rfl, rfl, .inl rfl⟩

theorem spawnRefresh_undisturbed (s : Session) : Undisturbed s s.spawnRefresh s.tasks := by
  by_cases h : s.app.grid.loading
  · simp only [spawnRefresh, h, if_true]
    exact ⟨rfl, rfl, rfl, .inl rfl⟩
  · simp only [spawnRefresh, h]
    exact ⟨rfl, rfl, rfl, .inr rfl⟩

theorem pressInConfirm_undisturbed {s : Session} {key : Key}
    (hc : s.app.keymap.actionFor .confirm key ≠ some .confirmDelete)
    (hx : s.app.keymap.actionFor .confirm key ≠ some .cancelDelete) : s.pressInConfirm key = s := by
  cases hk : s.app.keymap.actionFor .confirm key with
  | none => simp only [pressInConfirm, hk]
  | some action =>
    cases action with
    | confirmDelete => exact absurd hk hc
    | cancelDelete => exact absurd hk hx
    | _ => simp only [pressInConfirm, hk]

theorem pressInList_undisturbed {s : Session} {key : Key}
    (h : s.app.keymap.actionFor .channelList key = some .deleteChannel →
      s.app.grid.primaryState = .rows → s.app.selectedChannel = none) :
    Undisturbed s (s.pressInList key).1 s.tasks := by
  have same : Undisturbed s s s.tasks := ⟨rfl, rfl, rfl, .inl rfl⟩
  cases hk : s.app.keymap.actionFor .channelList key with
  | none => simpa only [pressInList, hk] using same
  | some action =>
    cases action with
    | deleteChannel =>
      by_cases hr : s.app.grid.primaryState = .rows
      · simpa only [pressInList, hk, App.requestDeleteSelected, hr, if_true, h hk hr] using same
      · simpa only [pressInList, hk, App.requestDeleteSelected, hr, if_false] using same
    | refresh => simpa only [pressInList, hk] using s.spawnRefresh_undisturbed
    | navDown =>
      simp only [pressInList, hk, App.navDown]
      split <;> exact ⟨rfl, rfl, rfl, .inl rfl⟩
    | _ => simp only [pressInList, hk]; exact ⟨rfl, rfl, rfl, .inl rfl⟩

theorem press_undisturbed {s : Session} {key : Key} (hr : ∀ id, ¬ s.Requests key id)
    (ha : ¬ s.Answers key) : Undisturbed s (s.press key).1 s.tasks := by
  by_cases hf : isInterrupt key = true
  · simp only [press, hf, if_true]
    exact ⟨rfl, rfl, rfl, .inl rfl⟩
  have hf' : isInterrupt key = false := by simpa using hf
  by_cases hh : s.app.helpOpen = true
  · simpa only [press, hf', hh, Bool.false_eq_true, if_false, if_true] using
      s.pressInHelp_undisturbed key
  have hh' : s.app.helpOpen = false := by simpa using hh
  cases hp : s.app.grid.pending with
  | some id =>
    have hc : s.app.keymap.actionFor .confirm key ≠ some .confirmDelete :=
      fun hk => ha (.inl ⟨id, hf', hh', hp, hk⟩)
    have hx : s.app.keymap.actionFor .confirm key ≠ some .cancelDelete :=
      fun hk => ha (.inr ⟨hf', hh', by simp [hp], hk⟩)
    simp only [press, hf', hh', hp, Bool.false_eq_true, if_false, Option.isSome_some, if_true,
      pressInConfirm_undisturbed hc hx]
    exact ⟨rfl, rfl, rfl, .inl rfl⟩
  | none =>
    simp only [press, hf', hh', hp, Bool.false_eq_true, if_false, Option.isSome_none]
    apply pressInList_undisturbed
    intro hk hrows
    cases hs : s.app.selectedChannel with
    | none => rfl
    | some c => exact absurd ⟨hf', hh', hp, hk, hrows, by simp [hs]⟩ (hr c.id)

def Turn.kept (tasks : List Task) : Turn → List Task
  | .finish n | .panic n _ => tasks.eraseIdx n
  | _ => tasks

/-- All that a turn can do to a deletion: stage it, hand it over, call it off, end its task. -/
inductive Passage (s : Session) (t : Turn) (s' : Session) : Prop
  | quiet (quiet : ∀ key, t = .press key → ¬ s.Answers key)
      (undisturbed : Undisturbed s s' (t.kept s.tasks))
  | requested (key : Key) (id : String) (press : t = .press key) (requests : s.Requests key id)
      (after : s' = s.afterRequest id)
  | confirmed (key : Key) (id : String) (press : t = .press key) (confirms : s.Confirms key id)
      (after : s' = s.afterConfirm id)
  | cancelled (key : Key) (press : t = .press key) (cancels : s.Cancels key)
      (after : s' = s.afterCancel)
  | finished (n : Nat) (task : Task) (finish : t = .finish n) (task_eq : s.tasks[n]? = some task)
      (after : s' = ({ s with tasks := s.tasks.eraseIdx n } : Session).finish task)

theorem passage_press {s : Session} (ht : s.runner.trigger = .onStore) (key : Key) :
    Passage s (.press key) (s.press key).1 := by
  by_cases hr : ∃ id, s.Requests key id
  · obtain ⟨id, hr⟩ := hr
    exact .requested key id rfl hr (press_requests hr)
  by_cases hc : ∃ id, s.Confirms key id
  · obtain ⟨id, hc⟩ := hc
    exact .confirmed key id rfl hc (press_confirms hc ht)
  by_cases hx : s.Cancels key
  · exact .cancelled key rfl hx (press_cancels hx)
  have ha : ¬ s.Answers key := fun h => h.elim hc hx
  refine .quiet ?_ (press_undisturbed (fun id h => hr ⟨id, h⟩) ha)
  rintro _ ⟨⟩
  exact ha

theorem passage_turn {s : Session} (ht : s.runner.trigger = .onStore) (t : Turn) :
    Passage s t (s.turn t) := by
  cases t with
  | press key => exact passage_press ht key
  | refresh => exact .quiet (by simp) s.spawnRefresh_undisturbed
  | finish n =>
    cases hn : s.tasks[n]? with
    | some task => exact .finished n task rfl hn (by simp only [turn, hn])
    | none =>
      have hk : s.tasks.eraseIdx n = s.tasks :=
        List.eraseIdx_of_length_le (List.getElem?_eq_none_iff.mp hn)
      simp only [turn, hn]
      exact .quiet (by simp) ⟨rfl, rfl, rfl, .inl hk.symm⟩
  | panic n message =>
    cases hn : s.tasks[n]? with
    | some task =>
      simp only [turn, hn]
      exact .quiet (by simp) ⟨rfl, rfl, rfl, .inl rfl⟩
    | none =>
      have hk : s.tasks.eraseIdx n = s.tasks :=
        List.eraseIdx_of_length_le (List.getElem?_eq_none_iff.mp hn)
      simp only [turn, hn]
      exact .quiet (by simp) ⟨rfl, rfl, rfl, .inl hk.symm⟩
  | handle n =>
    cases hn : s.events[n]? with
    | some event =>
      simp only [turn, hn]
      exact .quiet (by simp) ⟨App.handle_pending _ _ _ _, rfl, rfl, .inl rfl⟩
    | none =>
      simp only [turn, hn]
      exact .quiet (by simp) ⟨rfl, rfl, rfl, .inl rfl⟩
  | report event => exact .quiet (by simp) ⟨App.handle_pending _ _ _ _, rfl, rfl, .inl rfl⟩
  | sync =>
    by_cases hv : s.shownVersion = s.store.versions <;> simp only [turn, sync, hv] <;>
      exact .quiet (by simp) ⟨rfl, rfl, rfl, .inl rfl⟩
  | publish channels => exact .quiet (by simp) ⟨rfl, rfl, rfl, .inl rfl⟩
  | tick => exact .quiet (by simp) ⟨congrArg Grid.pending s.app.tick_grid, rfl, rfl, .inl rfl⟩
  | pass milliseconds =>
    refine .quiet (by simp) ⟨?_, rfl, rfl, .inl rfl⟩
    exact congrArg Grid.pending (s.app.clearExpiredStatus_grid _)
  | write file => exact .quiet (by simp) ⟨rfl, rfl, rfl, .inl rfl⟩

end DeviceChannels.Session
