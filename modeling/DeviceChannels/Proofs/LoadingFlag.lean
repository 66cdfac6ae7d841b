import DeviceChannels.Proofs.FlightRun
import DeviceChannels.Proofs.TaskOrder

/-! One refresh at a time. The view says that it is loading exactly while a refresh is outstanding:
its task has not ended yet, or the report of how it ended is still to be handled. -/

namespace DeviceChannels

instance : DecidablePred Event.EndsRefresh
  | .channelsRefreshed _ | .refreshFailed _ | .taskPanicked .refresh _ => .isTrue trivial
  | .channelDeleted _ _ | .channelDeleteFailed _ _ | .taskPanicked .deleteChannel _
  | .taskPanicked .other _ => .isFalse id

instance : DecidablePred Job.EndsRefresh
  | .task .refresh | .publishing _ => .isTrue trivial
  | .task (.deletion _) | .task (.watch _ _) => .isFalse id

def refreshes (jobs : List Job) : Nat := jobs.countP fun job => job.EndsRefresh

def refreshReports (events : List Event) : Nat := events.countP fun event => event.EndsRefresh

def Flight.outstanding (f : Flight) : Nat := refreshes f.jobs + refreshReports f.session.events

section

variable {jobs jobs' : List Job} {events events' : List Event}

theorem refreshes_append : refreshes (jobs ++ jobs') = refreshes jobs + refreshes jobs' :=
  List.countP_append

theorem refreshReports_append :
    refreshReports (events ++ events') = refreshReports events + refreshReports events' :=
  List.countP_append

theorem refreshes_of_getElem? {n : Nat} {job : Job} (h : jobs[n]? = some job) :
    refreshes jobs = refreshes [job] + refreshes (jobs.eraseIdx n) := by
  rw [← refreshes_append]
  exact (perm_of_getElem? h).countP_eq _ |>.symm

theorem refreshReports_of_getElem? {n : Nat} {event : Event} (h : events[n]? = some event) :
    refreshReports events = refreshReports [event] + refreshReports (events.eraseIdx n) := by
  rw [← refreshReports_append]
  exact (perm_of_getElem? h).countP_eq _ |>.symm

theorem refreshes_of_tasks {tasks : List Task} (h : .refresh ∉ tasks) :
    refreshes (tasks.map .task) = 0 := by
  apply List.countP_eq_zero.mpr
  intro job hj
  obtain ⟨task, ht, rfl⟩ := List.mem_map.mp hj
  cases task with
  | refresh => exact absurd ht h
  | deletion _ | watch _ _ => exact fun he => of_decide_eq_true he

theorem refreshReports_singleton_of_endsRefresh {event : Event} (h : event.EndsRefresh) :
    refreshReports [event] = 1 := by
  simp [refreshReports, h]

theorem refreshReports_singleton_of_not_endsRefresh {event : Event} (h : ¬ event.EndsRefresh) :
    refreshReports [event] = 0 := by
  simp [refreshReports, h]

theorem refreshReports_panicked (job : Job) (message : String) :
    refreshReports [job.panicked message] = refreshes [job] := by
  cases job with
  | publishing read => rfl
  | task task => cases task <;> rfl

theorem refreshReports_ofDeletion (id : String) (result : DeletionResult) :
    refreshReports [.ofDeletion id result] = 0 := by
  cases result <;> rfl

end

namespace App

variable {event : Event} (a : App) (now : Nat) (snapshot : List Channel)

theorem handle_refreshHeld_of_endsRefresh (h : event.EndsRefresh) :
    (a.handle now snapshot event).refreshHeld = false := by
  cases event with
  | channelsRefreshed _ | refreshFailed _ => rfl
  | channelDeleted _ _ | channelDeleteFailed _ _ => exact h.elim
  | taskPanicked task _ =>
    cases task with
    | refresh => rfl
    | deleteChannel | other => exact h.elim

theorem handle_refreshHeld_of_not_endsRefresh (h : ¬ event.EndsRefresh) :
    (a.handle now snapshot event).refreshHeld = a.refreshHeld := by
  cases event with
  | channelsRefreshed _ | refreshFailed _ => exact absurd trivial h
  | channelDeleted _ _ | channelDeleteFailed _ _ => rfl
  | taskPanicked task _ =>
    cases task with
    | refresh => exact absurd trivial h
    | deleteChannel | other => rfl

end App

namespace Session

variable {s s' : Session}

/-- Nothing about refreshes changes; other tasks may start. -/
structure SameRefresh (s s' : Session) : Prop where
  loading : s'.app.grid.loading = s.app.grid.loading
  held : s'.app.refreshHeld = s.app.refreshHeld
  events : s'.events = s.events
  tasks : ∃ started, .refresh ∉ started ∧ s'.tasks = s.tasks ++ started

theorem SameRefresh.of_eq (loading : s'.app.grid.loading = s.app.grid.loading)
    (held : s'.app.refreshHeld = s.app.refreshHeld) (events : s'.events = s.events)
    (tasks : s'.tasks = s.tasks) : SameRefresh s s' :=
  ⟨loading, held, events, [], by simp, by simpa using tasks⟩

structure StartsRefresh (s s' : Session) : Prop where
  idle : s.app.grid.loading = false
  loading : s'.app.grid.loading = true
  held : s'.app.refreshHeld = true
  events : s'.events = s.events
  tasks : s'.tasks = s.tasks ++ [.refresh]

theorem spawnRefresh_cases (s : Session) :
    SameRefresh s s.spawnRefresh ∨ StartsRefresh s s.spawnRefresh := by
  by_cases h : s.app.grid.loading = true
  · simp only [spawnRefresh, h, if_true]
    exact .inl (.of_eq rfl rfl rfl rfl)
  · simp only [spawnRefresh, h]
    exact .inr ⟨by simpa using h, rfl, rfl, rfl, rfl⟩

theorem Pressed.refresh_cases (h : s.Pressed s') : SameRefresh s s' ∨ StartsRefresh s s' := by
  cases h with
  | refreshed _ => exact s.spawnRefresh_cases
  | confirmed id status started _ _ no_refresh =>
    exact .inl ⟨rfl, rfl, rfl, started, no_refresh, rfl⟩
  | _ => exact .inl (.of_eq rfl rfl rfl rfl)

theorem Aside.sameRefresh (h : Aside s s') : SameRefresh s s' := by
  obtain ⟨_, _, _, _, happ⟩ := h.app
  exact .of_eq (by rw [happ]) (by rw [happ]) h.events h.tasks

/-- A refresh is a job until its report is sent. -/
theorem carryOn_outstanding (s : Session) (job : Job) :
    refreshes (s.carryOn job).2 + refreshReports (s.carryOn job).1.events =
      refreshes [job] + refreshReports s.events := by
  have reported {event : Event} (h : event.EndsRefresh) :
      refreshes [] + refreshReports (s.events ++ [event]) = 1 + refreshReports s.events := by
    rw [refreshReports_append, refreshReports_singleton_of_endsRefresh h, Nat.add_comm 1]
    exact Nat.zero_add _
  cases job with
  | publishing read => exact reported trivial
  | task task =>
    cases task with
    | refresh =>
      cases hr : s.store.readAnew s.file with
      | ok read =>
        simp only [carryOn, hr]
        rfl
      | error fault =>
        simp only [carryOn, hr]
        exact reported trivial
    | deletion id | watch id result =>
      simp only [carryOn, finish, Task.run, refreshReports_append, refreshReports_ofDeletion]
      rfl

end Session

namespace Flight

/-- The flag, the handle and the refreshes outstanding say the same. -/
structure Truthful (f : Flight) : Prop where
  held : f.session.app.refreshHeld = f.session.app.grid.loading
  outstanding : f.outstanding = if f.session.app.grid.loading then 1 else 0

variable {f : Flight}

theorem outstanding_launch (s : Session) (jobs : List Job) : (s.launch jobs).outstanding =
    refreshes jobs + refreshes (s.tasks.map .task) + refreshReports s.events := by
  simp only [Session.launch, outstanding, refreshes_append]

theorem Truthful.of_app {g : Flight} (hf : f.Truthful) (happ : g.session.app = f.session.app)
    (hout : g.outstanding = f.outstanding) : g.Truthful :=
  ⟨by rw [happ, hf.held], by rw [hout, happ, hf.outstanding]⟩

theorem Truthful.same (hf : f.Truthful) (hs : f.session.tasks = []) {s : Session}
    (h : f.session.SameRefresh s) : (s.launch f.jobs).Truthful := by
  obtain ⟨started, hstarted, htasks⟩ := h.tasks
  refine ⟨h.held.trans (hf.held.trans h.loading.symm), ?_⟩
  rw [outstanding_launch, htasks, hs, List.nil_append, refreshes_of_tasks hstarted, h.events,
    Nat.add_zero]
  exact hf.outstanding.trans (congrArg (fun b : Bool => if b then 1 else 0) h.loading.symm)

theorem Truthful.starts (hf : f.Truthful) (hs : f.session.tasks = []) {s : Session}
    (h : f.session.StartsRefresh s) : (s.launch f.jobs).Truthful := by
  have hnone : refreshes f.jobs + refreshReports f.session.events = 0 := by
    have hout := hf.outstanding
    rw [h.idle] at hout
    exact hout
  refine ⟨h.held.trans h.loading.symm, ?_⟩
  have hloading : (s.launch f.jobs).session.app.grid.loading = true := h.loading
  rw [outstanding_launch, h.tasks, hs, h.events, hloading]
  change refreshes f.jobs + 1 + refreshReports f.session.events = 1
  omega

theorem Truthful.handled (hf : f.Truthful) (hs : f.session.tasks = []) {event : Event}
    {left : List Event}
    (hleft : refreshReports f.session.events = refreshReports [event] + refreshReports left) :
    ((({ f.session with events := left } : Session).handle event).launch f.jobs).Truthful := by
  let after := f.session.app.handle f.session.clock f.session.store.channels event
  have hout : ((({ f.session with events := left } : Session).handle event).launch
      f.jobs).outstanding = refreshes f.jobs + refreshReports left := by
    rw [outstanding_launch]
    change refreshes f.jobs + refreshes (f.session.tasks.map .task) + refreshReports left = _
    rw [hs]
    rfl
  have hold : refreshes f.jobs + refreshReports f.session.events =
      if f.session.app.grid.loading then 1 else 0 := hf.outstanding
  suffices h : after.refreshHeld = after.grid.loading ∧
      refreshes f.jobs + refreshReports left = if after.grid.loading then 1 else 0 from
    ⟨h.1, hout.trans h.2⟩
  by_cases he : event.EndsRefresh
  · have hl : after.grid.loading = false := f.session.app.handle_of_endsRefresh _ _ he
    have hh : after.refreshHeld = false := f.session.app.handle_refreshHeld_of_endsRefresh _ _ he
    -- The report handled was the only one outstanding.
    have hone := refreshReports_singleton_of_endsRefresh he
    have hnone : refreshes f.jobs + refreshReports left = 0 := by
      split at hold <;> omega
    exact ⟨hh.trans hl.symm, by rw [hnone, hl]; rfl⟩
  · have hl : after.grid.loading = f.session.app.grid.loading :=
      f.session.app.handle_of_not_endsRefresh _ _ he
    have hh : after.refreshHeld = f.session.app.refreshHeld :=
      f.session.app.handle_refreshHeld_of_not_endsRefresh _ _ he
    have hzero := refreshReports_singleton_of_not_endsRefresh he
    refine ⟨hh.trans (hf.held.trans hl.symm), ?_⟩
    rw [hl, ← hold]
    omega

theorem Truthful.turned (hf : f.Truthful) (hs : f.session.tasks = []) {t : Session.Turn}
    {s : Session} (h : f.session.Turned t s)
    (ht : ∀ event, event.EndsRefresh → t ≠ .report event) : (s.launch f.jobs).Truthful := by
  cases h with
  | aside aside => exact hf.same hs aside.sameRefresh
  | pressed _ _ pressed => exact pressed.refresh_cases.elim (hf.same hs) (hf.starts hs)
  | refreshed _ => exact f.session.spawnRefresh_cases.elim (hf.same hs) (hf.starts hs)
  | shown channels _ _ => exact hf.same hs (.of_eq rfl rfl rfl rfl)
  | handled event left source =>
    apply hf.handled hs
    rcases source with ⟨n, hn, rfl⟩ | ⟨hreport, rfl⟩
    · exact refreshReports_of_getElem? hn
    · have he : ¬ event.EndsRefresh := fun he => ht event he hreport
      rw [refreshReports_singleton_of_not_endsRefresh he, Nat.zero_add]

theorem Truthful.act (hf : f.Truthful) (hs : f.session.tasks = []) {a : Act}
    (ha : ∀ event, event.EndsRefresh → a ≠ .turn (.report event)) : (f.act a).Truthful := by
  cases a with
  | turn t =>
    exact hf.turned hs (f.session.turned_turn hs t) fun event he h => ha event he (by rw [h])
  | advance n =>
    cases hn : f.jobs[n]? with
    | none => simpa only [Flight.act, move, hn] using hf
    | some job =>
      have hjob := f.session.carryOn_outstanding job
      have hjobs := refreshes_of_getElem? hn
      simp only [Flight.act, move, hn]
      refine hf.of_app (f.session.carryOn_app job).1 ?_
      simp only [Flight.outstanding, refreshes_append]
      omega
  | panic n late message =>
    cases hn : f.jobs[n]? with
    | none => simpa only [Flight.act, hn] using hf
    | some job =>
      have hjobs := refreshes_of_getElem? hn
      have hreport := refreshReports_panicked job message
      simp only [Flight.act, hn]
      refine hf.of_app rfl ?_
      simp only [Flight.outstanding, refreshReports_append]
      omega
  | replace file => exact hf.of_app rfl rfl

theorem Truthful.play (hf : f.Truthful) (hs : f.session.tasks = []) {acts : List Act}
    (hreport : ∀ event, event.EndsRefresh → .turn (.report event) ∉ acts) :
    (f.play acts).Truthful := by
  apply play_induction hs hf
  intro g a ha hidle hg
  apply hg.act hidle
  rintro event he rfl
  exact hreport event he ha

end Flight

/-- In a run that handles no report of a refresh but those its own tasks send, the view says that it
is loading exactly while the task of a refresh is held, and exactly while one refresh is
outstanding; there is never a second one, and no report of anything else makes a difference. -/
theorem Session.loading_iff_refresh_outstanding (trigger : Trigger) (config : Config)
    (file : FileState) (store : Store) (acts : List Flight.Act)
    (hreport : ∀ event, event.EndsRefresh → .turn (.report event) ∉ acts) :
    let f := (startWith trigger config file store).flight.play acts
    (f.session.app.grid.loading = true ↔ f.session.app.refreshHeld = true) ∧
      (f.session.app.grid.loading = true ↔ f.outstanding = 1) ∧ f.outstanding ≤ 1 ∧
      ∀ event, ¬ event.EndsRefresh →
        (f.session.handle event).app.grid.loading = f.session.app.grid.loading ∧
          (f.session.handle event).app.refreshHeld = f.session.app.refreshHeld := by
  intro f
  have hstart : (startWith trigger config file store).flight.Truthful := ⟨rfl, rfl⟩
  have hf : f.Truthful := hstart.play rfl hreport
  refine ⟨by rw [hf.held], ?_, ?_, fun event he => ⟨?_, ?_⟩⟩
  · rw [hf.outstanding]
    cases f.session.app.grid.loading <;> simp
  · rw [hf.outstanding]
    cases f.session.app.grid.loading <;> simp
  · exact f.session.app.handle_of_not_endsRefresh _ _ he
  · exact f.session.app.handle_refreshHeld_of_not_endsRefresh _ _ he

/-- The key asks for a refresh while one is under way. That one panics, and its report is still to
be handled; a deletion's panic is handled meanwhile. -/
theorem Session.loading_until_panic_is_handled :
    let acts : List Flight.Act :=
      [.turn .refresh, .turn (.press { code := .char 'r' }), .panic 0 false "boom"]
    let f := (startWith .unavailable {} .missing (.inMemory [])).flight.play acts
    let event : Event := .taskPanicked .deleteChannel "boom"
    (∀ event, event.EndsRefresh → .turn (.report event) ∉ acts) ∧ f.jobs = [] ∧
      f.session.app.grid.loading = true ∧ f.session.app.refreshHeld = true ∧ f.outstanding = 1 ∧
      (f.session.handle event).app.grid.loading = true ∧
      (f.session.handle event).app.refreshHeld = true := by
  intro acts f event
  have hreport : ∀ event, event.EndsRefresh → .turn (.report event) ∉ acts := by
    intro event _
    simp [acts]
  obtain ⟨hheld, hout, _, hother⟩ :=
    loading_iff_refresh_outstanding .unavailable {} .missing (.inMemory []) acts hreport
  have hloading : f.session.app.grid.loading = true := by decide +kernel
  obtain ⟨hflag, htask⟩ := hother event id
  exact ⟨hreport, by decide +kernel, hloading, hheld.mp hloading, hout.mp hloading,
    hflag.trans hloading, htask.trans (hheld.mp hloading)⟩

end DeviceChannels
