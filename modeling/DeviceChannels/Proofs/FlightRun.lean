import DeviceChannels.Proofs.Flight
import DeviceChannels.Proofs.KeyPress

/-! Runs of the application with its tasks in flight. Turns of the session, steps of the jobs and
panics come in any order; the tasks that a turn starts join the jobs. -/

namespace DeviceChannels

def Job.panicked (message : String) : Job → Event
  | .task t => t.panicked message
  | .publishing _ => .taskPanicked .refresh message

namespace Session

/-- A run over a store in which another runner takes the deletions. -/
def startWith (trigger : Trigger) (config : Config) (file : FileState) (store : Store) : Session :=
  { start config file store with runner := ⟨trigger, []⟩ }

/-- The session with some jobs in flight and those of its own tasks. -/
def launch (s : Session) (jobs : List Job) : Flight :=
  ⟨{ s with tasks := [] }, jobs ++ s.tasks.map .task⟩

/-- Nothing changes but the clock, the file, and what is drawn around the collection. -/
structure Aside (s s' : Session) : Prop where
  app : ∃ status needsRedraw spinnerFrame, (status = s.app.status ∨ status = none) ∧
    s'.app = { s.app with status, needsRedraw, spinnerFrame }
  store : s'.store = s.store
  runner : s'.runner = s.runner
  tasks : s'.tasks = s.tasks
  events : s'.events = s.events

/-- All that a turn can do while the session's tasks are in flight elsewhere. -/
inductive Turned (s : Session) (t : Turn) : Session → Prop
  | aside {s' : Session} (aside : Aside s s') : Turned s t s'
  | pressed {s' : Session} (key : Key) (turn : t = .press key) (pressed : s.Pressed s') :
      Turned s t s'
  | refreshed (turn : t = .refresh) : Turned s t s.spawnRefresh
  | handled (event : Event) (left : List Event)
      (source : (∃ n, s.events[n]? = some event ∧ left = s.events.eraseIdx n) ∨
        t = .report event ∧ left = s.events) :
      Turned s t (({ s with events := left } : Session).handle event)
  | shown (channels : List Channel) (shownVersion : Nat)
      (source : channels = s.store.channels ∨ t = .publish channels) :
      Turned s t { s with app := s.app.syncChannels channels, shownVersion }

theorem Aside.refl (s : Session) : Aside s s :=
  ⟨⟨s.app.status, s.app.needsRedraw, s.app.spinnerFrame, .inl rfl, rfl⟩, rfl, rfl, rfl, rfl⟩

theorem aside_tick (s : Session) : Aside s { s with app := s.app.tick } := by
  refine ⟨⟨s.app.status, ?_⟩, rfl, rfl, rfl, rfl⟩
  by_cases h : s.app.grid.loading = true
  · exact ⟨true, _, .inl rfl, by simp only [App.tick, h, if_true]; rfl⟩
  · exact ⟨s.app.needsRedraw, s.app.spinnerFrame, .inl rfl, by simp only [App.tick, h]; rfl⟩

theorem aside_pass (s : Session) (milliseconds : Nat) :
    Aside s (s.advance milliseconds).expireStatus.1 := by
  refine ⟨?_, rfl, rfl, rfl, rfl⟩
  change ∃ status needsRedraw spinnerFrame, _ ∧
    (s.app.clearExpiredStatus (s.clock + milliseconds)).1 = _
  unfold App.clearExpiredStatus
  split
  · exact (Aside.refl s).app
  · split
    · exact ⟨none, s.app.needsRedraw, s.app.spinnerFrame, .inr rfl, rfl⟩
    · exact (Aside.refl s).app

theorem turned_turn {s : Session} (hs : s.tasks = []) (t : Turn) : Turned s t (s.turn t) := by
  cases t with
  | press key => exact .pressed key rfl (s.pressed_press key)
  | refresh => exact .refreshed rfl
  | finish n | panic n _ => exact .aside (by simpa [turn, hs] using Aside.refl s)
  | handle n =>
    cases hn : s.events[n]? with
    | none => exact .aside (by simpa only [turn, hn] using Aside.refl s)
    | some event =>
      simp only [turn, hn]
      exact .handled event _ (.inl ⟨n, hn, rfl⟩)
  | report event => exact .handled event s.events (.inr ⟨rfl, rfl⟩)
  | sync =>
    by_cases hv : s.shownVersion = s.store.versions
    · exact .aside (by simpa only [turn, sync, hv, if_true] using Aside.refl s)
    · simp only [turn, sync, hv]
      exact .shown s.store.channels s.store.versions (.inl rfl)
  | publish channels => exact .shown channels s.shownVersion (.inr rfl)
  | tick => exact .aside s.aside_tick
  | pass milliseconds => exact .aside (s.aside_pass milliseconds)
  | write file => exact .aside ⟨(Aside.refl s).app, rfl, rfl, rfl, rfl⟩

theorem carryOn_app (s : Session) (job : Job) :
    (s.carryOn job).1.app = s.app ∧ (s.carryOn job).1.tasks = s.tasks := by
  cases job with
  | publishing read => exact ⟨rfl, rfl⟩
  | task task =>
    cases task with
    | refresh => cases hr : s.store.readAnew s.file <;> simp [carryOn, hr]
    | deletion id | watch id result => exact ⟨rfl, rfl⟩

end Session

namespace Flight

inductive Act
  | turn (t : Session.Turn)
  | advance (n : Nat)
  /-- The job ends in a panic, a late one after its step has been done to the store. -/
  | panic (n : Nat) (late : Bool) (message : String)
  /-- Whatever was at the path of the catalog, from now on this is. -/
  | replace (file : FileState)

def act (f : Flight) : Act → Flight
  | .turn t => (f.session.turn t).launch f.jobs
  | .advance n => f.move (.advance n)
  | .panic n late message =>
    match f.jobs[n]? with
    | some job =>
      let s := f.session
      let store := if late then (s.carryOn job).1.store else s.store
      ⟨{ s with store, events := s.events ++ [job.panicked message] }, f.jobs.eraseIdx n⟩
    | none => f
  | .replace file => { f with session := { f.session with file } }

def play (f : Flight) (acts : List Act) : Flight := acts.foldl act f

theorem play_append (f : Flight) (acts acts' : List Act) :
    f.play (acts ++ acts') = (f.play acts).play acts' := by
  simp [play]

/-- Jobs and the file go on without the application, which takes part by its turns only. -/
theorem act_cases (f : Flight) (a : Act) : (∃ t, a = .turn t) ∨
    (f.act a).session.app = f.session.app ∧ (f.act a).session.tasks = f.session.tasks := by
  cases a with
  | turn t => exact .inl ⟨t, rfl⟩
  | advance n =>
    cases hn : f.jobs[n]? with
    | none => simp only [act, move, hn, and_self, or_true]
    | some job => exact .inr (by simpa only [act, move, hn] using f.session.carryOn_app job)
  | panic n late message => cases hn : f.jobs[n]? <;> simp only [act, hn, and_self, or_true]
  | replace file => exact .inr ⟨rfl, rfl⟩

theorem act_tasks {f : Flight} (hf : f.session.tasks = []) (a : Act) :
    (f.act a).session.tasks = [] := by
  rcases f.act_cases a with ⟨t, rfl⟩ | ⟨_, htasks⟩
  · rfl
  · exact htasks.trans hf

/-- What holds at the start and is kept by every act of the run, while all tasks are among the jobs,
holds at its end. -/
theorem play_induction {P : Flight → Prop} {f : Flight} {acts : List Act}
    (hf : f.session.tasks = []) (start : P f)
    (step : ∀ g a, a ∈ acts → g.session.tasks = [] → P g → P (g.act a)) : P (f.play acts) := by
  induction acts generalizing f with
  | nil => exact start
  | cons a acts ih =>
    apply ih (act_tasks hf a) (step f a List.mem_cons_self hf start)
    intro g b hb
    exact step g b (List.mem_cons_of_mem a hb)

theorem play_tasks {f : Flight} (hf : f.session.tasks = []) (acts : List Act) :
    (f.play acts).session.tasks = [] :=
  play_induction (P := fun g => g.session.tasks = []) hf hf fun _ a _ hg _ => act_tasks hg a

end Flight

end DeviceChannels
