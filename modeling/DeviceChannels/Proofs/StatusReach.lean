import DeviceChannels.Proofs.StatusText

/-! Runs that bring the name or the id of a channel to the status bar. Whatever collection its row is
in and whatever collection there is later, a press asks for the deletion, a refresh brings the later
collection, and a second press lets the status bar tell of the deletion. -/

namespace DeviceChannels

open Text

theorem Store.readAnew_of_open {file : FileState} {store : Store}
    (h : Store.open file = .ok store ∨ ∃ channels, store = .inMemory channels) :
    store.readAnew file = .ok store.channels ∧ store.removed = [] := by
  rcases h with h | ⟨channels, rfl⟩
  · cases hload : Catalog.load file with
    | error fault => simp [Store.open, hload] at h
    | ok channels =>
      obtain rfl : { backed := true, channels } = store := by simpa [Store.open, hload] using h
      exact ⟨hload, rfl⟩
  · exact ⟨rfl, rfl⟩

namespace Flight

/-- Some run of the application leads to that message. -/
def Shows (files : Set FileState) (f : Flight) (text : String) : Prop :=
  ∃ acts message, (∀ a ∈ acts, Act.Own files a) ∧
    (f.play acts).session.app.status = some message ∧ message.text = text

variable {files : Set FileState} {f : Flight} {text : String}

theorem Shows.after {acts : List Act} (ha : ∀ a ∈ acts, a.Own files)
    (h : (f.play acts).Shows files text) : f.Shows files text := by
  obtain ⟨later, message, hlater, hstatus, htext⟩ := h
  refine ⟨acts ++ later, message, List.forall_mem_append.mpr ⟨ha, hlater⟩, ?_, htext⟩
  rw [play_append]
  exact hstatus

theorem play_cons (f : Flight) (a : Act) (acts : List Act) :
    f.play (a :: acts) = (f.act a).play acts := rfl

section

variable {s : Session} {jobs : List Job}

theorem launch_of_tasks (h : s.tasks = []) : s.launch jobs = ⟨s, jobs⟩ := by
  cases s
  simp_all [Session.launch]

theorem act_refresh (ht : s.tasks = []) (hl : s.app.grid.loading = false) :
    (⟨s, []⟩ : Flight).act (.turn .refresh) = ⟨{ s with
      app := { s.app with
        grid := s.app.grid.setLoading true, needsRedraw := true, refreshHeld := true } },
      [.task .refresh]⟩ := by
  simp [act, Session.turn, Session.spawnRefresh, hl, Session.launch, ht]

theorem act_read {read : List Channel} (h : s.store.readAnew s.file = .ok read) :
    (⟨s, [.task .refresh]⟩ : Flight).act (.advance 0) = ⟨s, [.publishing read]⟩ := by
  simp [act, move, Session.carryOn, h]

theorem act_handle {event : Event} (ht : s.tasks = []) (he : s.events = [event]) :
    (⟨s, jobs⟩ : Flight).act (.turn (.handle 0)) =
      ⟨({ s with events := [] } : Session).handle event, jobs⟩ := by
  have hturn : s.turn (.handle 0) = ({ s with events := [] } : Session).handle event := by
    simp [Session.turn, he]
  rw [act, hturn]
  exact launch_of_tasks ht

end

end Flight

namespace Session

/-- Nothing is under way: the view shows that collection, the store has no other, and at most a
deletion is staged. -/
structure Rests (opened : Store) (channels : List Channel) (stage : Option String) (s : Session) :
    Prop where
  trigger : s.runner.trigger = .onStore
  keymap : s.app.keymap = Keymap.default
  help_closed : s.app.helpOpen = false
  settled : s.app.grid.loading = false
  staged : s.app.grid.pending = stage
  shown : s.app.grid.channels = channels
  listed : s.app.Listed
  stored : s.store.channels = channels
  kept : s.store.removed = []
  reads : ∀ file, s.store.readAnew file = opened.readAnew file
  tasks : s.tasks = []
  events : s.events = []

variable {files : Set FileState} {opened : Store} {channels : List Channel} {stage : Option String}
  {s : Session}

theorem rests_start {file : FileState} {store : Store} (h : store.removed = []) :
    (start {} file store).Rests store store.channels none := by
  constructor <;> first | rfl | exact h | exact fun _ => rfl

namespace Rests

theorem replaced (h : s.Rests opened channels stage) (file : FileState) :
    ({ s with file } : Session).Rests opened channels stage := { h with }

theorem selecting (h : s.Rests opened channels stage) (selected : Nat) :
    ({ s with app := { s.app with selected } } : Session).Rests opened channels stage := { h with }

/-- A whole refresh, while something may be staged. -/
theorem refreshed (h : s.Rests opened channels stage) {read : List Channel}
    (hr : opened.readAnew s.file = .ok read) :
    ∃ s', (⟨s, []⟩ : Flight).play
        [.turn .refresh, .advance 0, .advance 0, .turn (.handle 0)] = ⟨s', []⟩ ∧
      s'.Rests opened read stage := by
  have hread : s.store.readAnew s.file = .ok read := (h.reads s.file).trans hr
  let reading : Session := { s with
    app := { s.app with
      grid := s.app.grid.setLoading true, needsRedraw := true, refreshHeld := true } }
  let report : Event := .channelsRefreshed (s.store.publish read).channels.length
  let published : Session := { reading with
    store := s.store.publish read, events := s.events ++ [report] }
  let shown : Session := ({ published with events := [] } : Session).handle report
  have hstart : (⟨s, []⟩ : Flight).act (.turn .refresh) = ⟨reading, [.task .refresh]⟩ :=
    Flight.act_refresh h.tasks h.settled
  have hfirst : (⟨reading, [.task .refresh]⟩ : Flight).act (.advance 0) =
      ⟨reading, [.publishing read]⟩ := Flight.act_read hread
  have hsecond : (⟨reading, [.publishing read]⟩ : Flight).act (.advance 0) = ⟨published, []⟩ := rfl
  have hhandled : (⟨published, []⟩ : Flight).act (.turn (.handle 0)) = ⟨shown, []⟩ := by
    have htasks : published.tasks = [] := h.tasks
    have hreport : published.events = [report] := by
      change s.events ++ [report] = [report]
      rw [h.events, List.nil_append]
    exact Flight.act_handle htasks hreport
  refine ⟨shown, ?_, ?_⟩
  · simp only [Flight.play_cons, hstart, hfirst, hsecond, hhandled]
    rfl
  · have hpublished : (s.store.publish read).channels = read := by
      rw [Store.publish, h.kept, applyRemovals_nil]
    have hreads (file : FileState) :
        (s.store.publish read).readAnew file = opened.readAnew file := by
      have hbacked : (s.store.publish read).backed = s.store.backed := rfl
      rw [← h.reads file]
      by_cases hb : s.store.backed = true
      · simp only [Store.readAnew, hbacked, hb, if_true]
      · have hsame : s.store.channels = read := by simpa [Store.readAnew, hb] using hread
        simp only [Store.readAnew, hbacked, hb, hpublished, hsame]
    exact ⟨h.trigger, h.keymap, h.help_closed, rfl, h.staged, hpublished, rfl, hpublished, h.kept,
      hreads, h.tasks, rfl⟩

theorem brings (h : s.Rests opened channels stage) {file : FileState} (hfile : file ∈ files)
    {read : List Channel} (hr : opened.readAnew file = .ok read) :
    ∃ acts s', (∀ a ∈ acts, Flight.Act.Own files a) ∧ (⟨s, []⟩ : Flight).play acts = ⟨s', []⟩ ∧
      s'.Rests opened read stage := by
  obtain ⟨s', hplay, hs'⟩ := (h.replaced file).refreshed hr
  refine ⟨.replace file :: [.turn .refresh, .advance 0, .advance 0, .turn (.handle 0)], s', ?_,
    hplay, hs'⟩
  simpa [Flight.Act.Own] using hfile

theorem act_press (h : s.Rests opened channels none) {key : Key} (hkey : isInterrupt key = false)
    (htasks : (s.pressInList key).1.tasks = []) :
    (⟨s, []⟩ : Flight).act (.turn (.press key)) = ⟨(s.pressInList key).1, []⟩ := by
  have hpress : s.press key = s.pressInList key := by
    simp [press, hkey, h.help_closed, h.staged]
  have hturn : s.turn (.press key) = (s.pressInList key).1 := congrArg Prod.fst hpress
  rw [Flight.act, hturn]
  exact Flight.launch_of_tasks htasks

theorem act_top (h : s.Rests opened channels none) :
    (⟨s, []⟩ : Flight).act (.turn (.press { code := .char 'g' })) =
      ⟨{ s with app := { s.app with selected := 0 } }, []⟩ := by
  have haction : s.app.keymap.actionFor .channelList { code := .char 'g' } = some .navTop := by
    rw [h.keymap]
    decide +kernel
  have hlist : (s.pressInList { code := .char 'g' }).1 =
      { s with app := { s.app with selected := 0 } } := by
    simp only [pressInList, haction]
    rfl
  rw [h.act_press (by decide) (by rw [hlist]; exact h.tasks), hlist]

theorem act_down (h : s.Rests opened channels none)
    (hn : s.app.selected + 1 < (displayList channels).length) :
    (⟨s, []⟩ : Flight).act (.turn (.press { code := .char 'j' })) =
      ⟨{ s with app := { s.app with selected := s.app.selected + 1 } }, []⟩ := by
  have haction : s.app.keymap.actionFor .channelList { code := .char 'j' } = some .navDown := by
    rw [h.keymap]
    decide +kernel
  have hlength : s.app.listLength = (displayList channels).length := by
    rw [App.listLength, h.listed, h.shown]
  have hnext : min (s.app.selected + 1) (s.app.listLength - 1) = s.app.selected + 1 := by omega
  have hlist : (s.pressInList { code := .char 'j' }).1 =
      { s with app := { s.app with selected := s.app.selected + 1 } } := by
    simp only [pressInList, haction, App.navDown, hnext]
    rw [if_pos (by omega)]
  rw [h.act_press (by decide) (by rw [hlist]; exact h.tasks), hlist]

theorem play_down (h : s.Rests opened channels none) {n : Nat}
    (hn : n < (displayList channels).length) :
    (⟨s, []⟩ : Flight).play (.turn (.press { code := .char 'g' }) ::
        List.replicate n (.turn (.press { code := .char 'j' }))) =
      ⟨{ s with app := { s.app with selected := n } }, []⟩ := by
  induction n with
  | zero => exact h.act_top
  | succ n ih =>
    rw [List.replicate_succ', ← List.cons_append, Flight.play_append, ih (by omega)]
    exact (h.selecting n).act_down hn

theorem act_request (h : s.Rests opened channels none) {c : Channel}
    (hc : (displayList channels)[s.app.selected]? = some c) :
    (⟨s, []⟩ : Flight).act (.turn (.press { code := .char 'd' })) =
      ⟨s.afterRequest c.id, []⟩ := by
  have haction : s.app.keymap.actionFor .channelList { code := .char 'd' } =
      some .deleteChannel := by
    rw [h.keymap]
    decide +kernel
  have hdisplay : s.app.grid.display = displayList channels := by rw [h.listed, h.shown]
  have hrows : s.app.grid.primaryState = .rows := by
    have hempty : (displayList channels).isEmpty = false := by
      rw [List.isEmpty_eq_false_iff]
      exact List.ne_nil_of_mem (List.mem_of_getElem? hc)
    simp [Grid.primaryState, h.settled, hdisplay, hempty]
  have hselected : s.app.selectedChannel.map Channel.id = some c.id := by
    rw [App.selectedChannel, hdisplay, hc]
    rfl
  have hturn : s.turn (.press { code := .char 'd' }) = s.afterRequest c.id :=
    press_requests ⟨by decide, h.help_closed, h.staged, haction, hrows, hselected⟩
  rw [Flight.act, hturn]
  exact Flight.launch_of_tasks h.tasks

/-- The row of the channel is selected and its deletion asked for. -/
theorem requested (h : s.Rests opened channels none) {c : Channel}
    (hc : c ∈ displayList channels) :
    ∃ acts s', (∀ a ∈ acts, Flight.Act.Own files a) ∧ (⟨s, []⟩ : Flight).play acts = ⟨s', []⟩ ∧
      s'.Rests opened channels (some c.id) := by
  obtain ⟨n, hn, hget⟩ := List.mem_iff_getElem.mp hc
  let selected : Session := { s with app := { s.app with selected := n } }
  have hselected : selected.Rests opened channels none := h.selecting n
  have hrow : (displayList channels)[n]? = some c := List.getElem?_eq_some_iff.mpr ⟨hn, hget⟩
  refine ⟨(.turn (.press { code := .char 'g' }) ::
    List.replicate n (.turn (.press { code := .char 'j' }))) ++
      [.turn (.press { code := .char 'd' })], selected.afterRequest c.id, ?_, ?_, ?_⟩
  · intro a ha
    rcases List.mem_append.mp ha with hdown | hlast
    · rcases List.mem_cons.mp hdown with rfl | hj
      · trivial
      · rw [List.eq_of_mem_replicate hj]
        trivial
    · rw [List.mem_singleton.mp hlast]
      trivial
  · rw [Flight.play_append, h.play_down hn]
    exact hselected.act_request hrow
  · exact { hselected with staged := rfl }

/-- The staged id is handed over and its deletion carried out; the status bar tells of either. -/
theorem shows_deletion {id : String} (h : s.Rests opened channels (some id)) {text : String}
    (ht : text ∈ deletionTexts channels id) : (⟨s, []⟩ : Flight).Shows files text := by
  have hconfirms : s.Confirms { code := .char 'y' } id := by
    refine ⟨by decide, h.help_closed, h.staged, ?_⟩
    rw [h.keymap]
    decide +kernel
  let handed : Session := { s.afterConfirm id with tasks := [] }
  have hpress : (⟨s, []⟩ : Flight).act (.turn (.press { code := .char 'y' })) =
      ⟨handed, [.task (.deletion id)]⟩ := by
    have hturn : s.turn (.press { code := .char 'y' }) = s.afterConfirm id :=
      press_confirms hconfirms h.trigger
    rw [Flight.act, hturn]
    simp [launch, afterConfirm, h.tasks, handed]
  rcases List.mem_pair.mp ht with rfl | rfl
  · refine ⟨[.turn (.press { code := .char 'y' })], ⟨_, s.clock⟩, by simp [Flight.Act.Own], ?_, rfl⟩
    rw [Flight.play_cons, hpress, ← h.shown, ← label_eq_nameOf]
    rfl
  · -- The report of the deletion is the only one there is to handle.
    obtain ⟨event, hreported, htext, _⟩ := handed.finish_deletion id
    have hstored : handed.store.channels = channels := h.stored
    have hnone : handed.events = [] := h.events
    have hevents : (handed.finish (.deletion id)).events = [event] := by
      rw [hreported, hnone, List.nil_append]
    have hdone : (⟨handed, [.task (.deletion id)]⟩ : Flight).act (.advance 0) =
        ⟨handed.finish (.deletion id), []⟩ := rfl
    have htasks : (handed.finish (.deletion id)).tasks = [] :=
      (handed.carryOn_app (.task (.deletion id))).2
    refine ⟨[.turn (.press { code := .char 'y' }), .advance 0, .turn (.handle 0)],
      ⟨event.statusText, s.clock⟩, by simp [Flight.Act.Own], ?_, hstored ▸ htext⟩
    rw [Flight.play_cons, hpress, Flight.play_cons, hdone, Flight.play_cons,
      Flight.act_handle htasks hevents]
    exact App.handle_status _ _ _ _

/-- Its row is in one collection; by the time that its deletion is confirmed there is another. -/
theorem shows_deletion_of_readable (h : s.Rests opened channels none)
    {listed current : List Channel} (hlisted : listed ∈ opened.readable files)
    {c : Channel} (hc : c ∈ displayList listed)
    (hcurrent : current ∈ opened.readable files) {text : String}
    (ht : text ∈ deletionTexts current c.id) : (⟨s, []⟩ : Flight).Shows files text := by
  obtain ⟨first, hfirst, hreadFirst⟩ := hlisted
  obtain ⟨second, hsecond, hreadSecond⟩ := hcurrent
  obtain ⟨acts₁, s₁, hacts₁, hplay₁, h₁⟩ := h.brings hfirst hreadFirst
  obtain ⟨acts₂, s₂, hacts₂, hplay₂, h₂⟩ := h₁.requested hc
  obtain ⟨acts₃, s₃, hacts₃, hplay₃, h₃⟩ := h₂.brings hsecond hreadSecond
  apply Flight.Shows.after hacts₁
  rw [hplay₁]
  apply Flight.Shows.after hacts₂
  rw [hplay₂]
  apply Flight.Shows.after hacts₃
  rw [hplay₃]
  exact h₃.shows_deletion ht

end Rests

theorem explained_of_shows {file : FileState} {store : Store} (hfile : file ∈ files)
    (hread : store.readAnew file = .ok store.channels) {config : Config} {text : String}
    (h : (start config file store).flight.Shows files text) :
    Explained (store.readable files) text := by
  obtain ⟨acts, message, hacts, hstatus, rfl⟩ := h
  have hstems : StemsFrom (store.readable files) store.channels :=
    ⟨store.channels, ⟨file, hfile, hread⟩, Stems.refl _⟩
  have hstart : (start config file store).flight.Accounted files store :=
    ⟨.start config file store hstems, by simp [flight, start], hfile, rfl⟩
  exact (hstart.play rfl hacts).session.status message hstatus

/-- The program puts into the status bar, as the catalog has it, the name under which a deletion
finds its channel, or the id if it finds none. So over an opened store no message of any run has a
control character exactly if no such name or id has one; and the messages that have one are those of
such a deletion, each of which some run shows. -/
theorem status_bar_clean_iff (files : Set FileState) (file : FileState) (store : Store)
    (hfile : file ∈ files)
    (hopen : Store.open file = .ok store ∨ ∃ channels, store = .inMemory channels) :
    let shown (config : Config) (text : String) : Prop :=
      (start config file store).flight.Shows files text
    let collections := store.readable files
    ((∀ config text, shown config text → Clean text.toList) ↔
      ∀ listed ∈ collections, ∀ c ∈ displayList listed, ∀ current ∈ collections,
        Clean ((nameOf current c.id).getD c.id).toList) ∧
      ∀ text, ¬ Clean text.toList → ((∃ config, shown config text) ↔
        ∃ listed ∈ collections, ∃ c ∈ displayList listed, ∃ current ∈ collections,
          text ∈ deletionTexts current c.id) := by
  intro shown collections
  obtain ⟨hread, hremoved⟩ := Store.readAnew_of_open hopen
  have hsound (config : Config) (text : String) (h : shown config text) :
      Explained collections text := explained_of_shows hfile hread h
  have hattained {listed current : List Channel} (hlisted : listed ∈ collections) {c : Channel}
      (hc : c ∈ displayList listed) (hcurrent : current ∈ collections) {text : String}
      (ht : text ∈ deletionTexts current c.id) : shown {} text :=
    (rests_start hremoved).shows_deletion_of_readable hlisted hc hcurrent ht
  refine ⟨⟨fun h listed hlisted c hc current hcurrent => ?_, fun h config text ht => ?_⟩,
    fun text hdirty => ⟨?_, ?_⟩⟩
  · have hmem : _ ∈ deletionTexts current c.id := List.mem_cons_self
    exact (clean_deletionText_iff hmem).mp (h {} _ (hattained hlisted hc hcurrent hmem))
  · rcases hsound config text ht with hclean | ⟨id, hid, current, hcurrent, hmem⟩
    · exact hclean
    · obtain ⟨listed, hlisted, c, hc, rfl⟩ := hid
      exact (clean_deletionText_iff hmem).mpr (h listed hlisted c hc current hcurrent)
  · rintro ⟨config, ht⟩
    obtain ⟨id, ⟨listed, hlisted, c, hc, rfl⟩, current, hcurrent, hmem⟩ :=
      (hsound config text ht).resolve_left hdirty
    exact ⟨listed, hlisted, c, hc, current, hcurrent, hmem⟩
  · rintro ⟨listed, hlisted, c, hc, current, hcurrent, hmem⟩
    exact ⟨{}, hattained hlisted hc hcurrent hmem⟩

/-- A catalog has a bell in the name of its only channel, which is on the device. -/
theorem bell_in_status_bar :
    let c : Channel := .ofCounts "a" "A\x07lpha" 1 1
    let files : Set FileState := {.missing}
    let shown (config : Config) (text : String) : Prop :=
      (start config .missing (.inMemory [c])).flight.Shows files text
    .missing ∈ files ∧
      (Store.open .missing = .ok (.inMemory [c]) ∨
        ∃ channels, Store.inMemory [c] = .inMemory channels) ∧
      c ∈ displayList [c] ∧ ¬ Clean "Deleted \"A\x07lpha\"".toList ∧
      (∃ config, shown config "Deleting A\x07lpha...") ∧
      (∃ config, shown config "Deleted \"A\x07lpha\"") ∧
      ¬ ∀ config text, shown config text → Clean text.toList := by
  intro c files shown
  have hopen : Store.open .missing = .ok (.inMemory [c]) ∨
      ∃ channels, Store.inMemory [c] = .inMemory channels := .inr ⟨[c], rfl⟩
  have hrow : c ∈ displayList [c] := (mem_displayList _).mpr ⟨List.mem_cons_self, by decide⟩
  have hmem : [c] ∈ (Store.inMemory [c]).readable files := ⟨.missing, rfl, rfl⟩
  have htexts : deletionTexts [c] c.id = ["Deleting A\x07lpha...", "Deleted \"A\x07lpha\""] := by
    decide +kernel
  have hdirty : ∀ text ∈ deletionTexts [c] c.id, ¬ Clean text.toList := by
    rw [htexts]
    decide +kernel
  obtain ⟨hiff, hshown⟩ := status_bar_clean_iff files .missing (.inMemory [c]) rfl hopen
  have hreached (text : String) (ht : text ∈ deletionTexts [c] c.id) :
      ∃ config, shown config text :=
    (hshown text (hdirty text ht)).mpr ⟨[c], hmem, c, hrow, [c], hmem, ht⟩
  refine ⟨rfl, hopen, hrow, hdirty _ (by simp [htexts]), hreached _ (by simp [htexts]),
    hreached _ (by simp [htexts]), fun hclean => ?_⟩
  exact absurd (hiff.mp hclean [c] hmem c hrow [c] hmem) (by decide +kernel)

end Session

end DeviceChannels
