import DeviceChannels.Proofs.Lists
import DeviceChannels.Proofs.SessionRun

/-! Background tasks in flight. A refresh takes two steps, one to read and one to publish; between
them other tasks may go on and reports may be handled. Settling a session is one of the orders. -/

namespace DeviceChannels

inductive Job
  | task (task : Task)
  /-- A refresh that has read this collection and not published it yet. -/
  | publishing (read : List Channel)

structure Flight where
  session : Session
  jobs : List Job

/-- A step of the job, and what is left of it to do. -/
def Session.carryOn (s : Session) : Job → Session × List Job
  | .task .refresh =>
    match s.store.readAnew s.file with
    | .ok read => (s, [.publishing read])
    | .error fault => ({ s with events := s.events ++ [.refreshFailed fault.message] }, [])
  | .task task => (s.finish task, [])
  | .publishing read =>
    let store := s.store.publish read
    ({ s with store, events := s.events ++ [.channelsRefreshed store.channels.length] }, [])

def Session.flight (s : Session) : Flight := ⟨{ s with tasks := [] }, s.tasks.map .task⟩

namespace Flight

inductive Move
  | advance (n : Nat)
  | handle (n : Nat)

def move (f : Flight) : Move → Flight
  | .advance n =>
    match f.jobs[n]? with
    | some job =>
      let (session, rest) := f.session.carryOn job
      ⟨session, rest ++ f.jobs.eraseIdx n⟩
    | none => f
  | .handle n => { f with session := f.session.turn (.handle n) }

def run (f : Flight) (ms : List Move) : Flight := ms.foldl move f

structure Complete (f : Flight) : Prop where
  jobs : f.jobs = []
  events : f.session.events = []

theorem run_append (f : Flight) (ms ms' : List Move) : f.run (ms ++ ms') = (f.run ms).run ms' := by
  simp [run]

theorem exists_run_finish (s : Session) (task : Task) (jobs : List Job) :
    ∃ ms, (⟨s, .task task :: jobs⟩ : Flight).run ms = ⟨s.finish task, jobs⟩ := by
  cases task with
  | refresh =>
    cases hr : s.store.readAnew s.file with
    | ok read =>
      refine ⟨[.advance 0, .advance 0], ?_⟩
      simp [run, move, Session.carryOn, hr, Session.finish_refresh_of_ok hr]
    | error fault =>
      refine ⟨[.advance 0], ?_⟩
      simp [run, move, Session.carryOn, hr, Session.finish_refresh_of_error hr]
  | deletion id | watch id result => exact ⟨[.advance 0], rfl⟩

theorem exists_run_tasks (s : Session) (tasks : List Task) :
    ∃ ms, (⟨s, tasks.map .task⟩ : Flight).run ms = ⟨tasks.foldl Session.finish s, []⟩ := by
  induction tasks generalizing s with
  | nil => exact ⟨[], rfl⟩
  | cons task tasks ih =>
    obtain ⟨ms, hms⟩ := exists_run_finish s task (tasks.map .task)
    obtain ⟨ms', hms'⟩ := ih (s.finish task)
    refine ⟨ms ++ ms', ?_⟩
    rw [run_append, List.map_cons, hms, hms', List.foldl_cons]

theorem exists_run_events (s : Session) (events : List Event) (jobs : List Job) :
    ∃ ms, (⟨{ s with events }, jobs⟩ : Flight).run ms =
      ⟨events.foldl Session.handle { s with events := [] }, jobs⟩ := by
  induction events generalizing s with
  | nil => exact ⟨[], rfl⟩
  | cons event events ih =>
    obtain ⟨ms, hms⟩ := ih (s.handle event)
    exact ⟨.handle 0 :: ms, hms⟩

/-- A step of the first job or the first report. -/
inductive Step : Flight → Flight → Prop
  | read {s : Session} {rest : List Job} {read : List Channel}
      (readable : s.store.readAnew s.file = .ok read) :
      Step ⟨s, .task .refresh :: rest⟩ ⟨s, .publishing read :: rest⟩
  | unreadable {s : Session} {rest : List Job} {fault : StoreFault}
      (unreadable : s.store.readAnew s.file = .error fault) :
      Step ⟨s, .task .refresh :: rest⟩
        ⟨{ s with events := s.events ++ [.refreshFailed fault.message] }, rest⟩
  | published {s : Session} {rest : List Job} (read : List Channel) (count : Nat) :
      Step ⟨s, .publishing read :: rest⟩
        ⟨{ s with store := s.store.publish read, events := s.events ++ [.channelsRefreshed count] },
          rest⟩
  | removed {s : Session} {rest : List Job} {id : String} {c : Channel}
      (found : s.store.find? id = some c) :
      Step ⟨s, .task (.deletion id) :: rest⟩
        ⟨{ s with
          store := (s.store.removeContent id).2
          events := s.events ++ [.channelDeleted c.id c.name] }, rest⟩
  | refused {s : Session} {rest : List Job} {id : String} (fault : DeletionFault)
      (unknown : s.store.find? id = none) :
      Step ⟨s, .task (.deletion id) :: rest⟩
        ⟨{ s with events := s.events ++ [.channelDeleteFailed id fault] }, rest⟩
  | handled {s : Session} {jobs : List Job} (event : Event) (events : List Event) :
      Step ⟨{ s with events := event :: events }, jobs⟩
        ⟨({ s with events } : Session).handle event, jobs⟩

inductive Rearranged : Flight → Flight → Prop
  | mk {s : Session} {jobs jobs' : List Job} {events : List Event} (jobs_perm : jobs'.Perm jobs)
      (events_perm : events.Perm s.events) : Rearranged ⟨s, jobs⟩ ⟨{ s with events }, jobs'⟩

/-- Only refreshes and deletions are in flight. -/
def Unwatched (f : Flight) : Prop := ∀ id result, .task (.watch id result) ∉ f.jobs

theorem step_move {f : Flight} (hw : f.Unwatched) (m : Move) :
    f.move m = f ∨ ∃ g, f.Rearranged g ∧ g.Step (f.move m) := by
  obtain ⟨s, jobs⟩ := f
  cases m with
  | advance n =>
    cases hn : jobs[n]? with
    | none => exact .inl (by simp only [move, hn])
    | some job =>
      refine .inr ⟨⟨s, job :: jobs.eraseIdx n⟩, .mk (perm_of_getElem? hn) (.refl _), ?_⟩
      cases job with
      | publishing read =>
        simp only [move, hn, Session.carryOn]
        exact .published read _
      | task task =>
        cases task with
        | watch id result => exact absurd (List.mem_of_getElem? hn) (hw id result)
        | refresh =>
          cases hr : s.store.readAnew s.file with
          | ok read =>
            simp only [move, hn, Session.carryOn, hr]
            exact .read hr
          | error fault =>
            simp only [move, hn, Session.carryOn, hr]
            exact .unreadable hr
        | deletion id =>
          cases hf : s.store.find? id with
          | none =>
            simp only [move, hn, Session.carryOn, Session.finish_deletion_of_none hf]
            exact .refused _ hf
          | some c =>
            simp only [move, hn, Session.carryOn, Session.finish_deletion_of_some hf]
            exact .removed hf
  | handle n =>
    cases hn : s.events[n]? with
    | none => exact .inl (by simp only [move, Session.turn, hn])
    | some event =>
      refine .inr ⟨⟨{ s with events := event :: s.events.eraseIdx n }, jobs⟩,
        .mk (.refl _) (perm_of_getElem? hn), ?_⟩
      simp only [move, Session.turn, hn]
      exact .handled event (s.events.eraseIdx n)

end Flight

theorem Session.events_foldl_handle (s : Session) (events : List Event) :
    (events.foldl Session.handle s).events = s.events := by
  induction events generalizing s with
  | nil => rfl
  | cons event events ih => exact ih (s.handle event)

theorem Session.settle_is_an_order (s : Session) :
    ∃ ms, (s.flight.run ms).session = s.settle.2 ∧ (s.flight.run ms).Complete := by
  obtain ⟨ms, hms⟩ := Flight.exists_run_tasks { s with tasks := [] } s.tasks
  obtain ⟨ms', hms'⟩ := Flight.exists_run_events s.finishAll s.finishAll.events []
  have h : s.flight.run (ms ++ ms') = ⟨s.settle.2, []⟩ := by
    rw [Flight.run_append]
    exact (congrArg (Flight.run · ms') hms).trans hms'
  refine ⟨ms ++ ms', by rw [h], ?_⟩
  rw [h]
  exact ⟨rfl, events_foldl_handle _ _⟩

end DeviceChannels
