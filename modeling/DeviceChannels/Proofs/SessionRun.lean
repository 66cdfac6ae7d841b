import DeviceChannels.Proofs.Removal
import DeviceChannels.Session

/-! Runs of the application. A run is a list of turns: keys pressed, tasks coming to their end and
reports handled in any order, collections shown at any time. -/

namespace DeviceChannels

/-- How the end of a task that panicked is reported. A deletion that panics leaves its report
unsent. -/
def Task.panicked (message : String) : Task → Event
  | .refresh => .taskPanicked .refresh message
  | .deletion id => .channelDeleteFailed id .dropped
  | .watch _ _ => .taskPanicked .deleteChannel message

namespace Session

inductive Turn
  | press (key : Key)
  | refresh
  | finish (n : Nat)
  | panic (n : Nat) (message : String)
  | handle (n : Nat)
  /-- A report comes that no task of the run has sent. -/
  | report (event : Event)
  | sync
  /-- A collection is shown that need not be the one in the store. -/
  | publish (channels : List Channel)
  | tick
  | pass (milliseconds : Nat)
  | write (file : FileState)

def turn (s : Session) : Turn → Session
  | .press key => (s.press key).1
  | .refresh => s.spawnRefresh
  | .finish n =>
    match s.tasks[n]? with
    | some task => ({ s with tasks := s.tasks.eraseIdx n } : Session).finish task
    | none => s
  | .panic n message =>
    match s.tasks[n]? with
    | some task =>
      { s with tasks := s.tasks.eraseIdx n, events := s.events ++ [task.panicked message] }
    | none => s
  | .handle n =>
    match s.events[n]? with
    | some event => ({ s with events := s.events.eraseIdx n } : Session).handle event
    | none => s
  | .report event => s.handle event
  | .sync => s.sync.1
  | .publish channels => { s with app := s.app.syncChannels channels }
  | .tick => { s with app := s.app.tick }
  | .pass milliseconds => (s.advance milliseconds).expireStatus.1
  | .write file => s.write file

def run (s : Session) (ts : List Turn) : Session := ts.foldl turn s

/-- The session before turn `i` of the run. -/
def upTo (s : Session) (ts : List Turn) (i : Nat) : Session := s.run (ts.take i)

@[simp] theorem upTo_zero (s : Session) (ts : List Turn) : s.upTo ts 0 = s := rfl

theorem upTo_succ {s : Session} {ts : List Turn} {i : Nat} {t : Turn} (h : ts[i]? = some t) :
    s.upTo ts (i + 1) = (s.upTo ts i).turn t := by
  simp [upTo, run, List.take_add_one, h]

theorem upTo_succ_of_none {s : Session} {ts : List Turn} {i : Nat} (h : ts[i]? = none) :
    s.upTo ts (i + 1) = s.upTo ts i := by
  simp [upTo, List.take_add_one, h]

theorem finish_refresh_of_error {s : Session} {fault : StoreFault}
    (h : s.store.readAnew s.file = .error fault) :
    s.finish .refresh = { s with events := s.events ++ [.refreshFailed fault.message] } := by
  simp only [finish, Task.run, Store.refresh, h, Event.ofRefresh]

theorem finish_refresh_of_ok {s : Session} {read : List Channel}
    (h : s.store.readAnew s.file = .ok read) :
    s.finish .refresh = { s with
      store := s.store.publish read
      events := s.events ++ [.channelsRefreshed (s.store.publish read).channels.length] } := by
  simp only [finish, Task.run, Store.refresh, h, Event.ofRefresh]

theorem finish_deletion_of_some {s : Session} {id : String} {c : Channel}
    (h : s.store.find? id = some c) :
    s.finish (.deletion id) = { s with
      store := (s.store.removeContent id).2
      events := s.events ++ [.channelDeleted c.id c.name] } := by
  simp only [finish, Task.run, Store.delete, Store.removeContent_of_some h, Event.ofDeletion]
  rfl

theorem finish_deletion_of_none {s : Session} {id : String} (h : s.store.find? id = none) :
    s.finish (.deletion id) = { s with
      events := s.events ++ [.channelDeleteFailed id (.ofStore (.unknownChannel id))] } := by
  simp only [finish, Task.run, Store.delete, Store.removeContent_of_none h, Event.ofDeletion]

end Session

theorem Workflow.pending_eq_some_iff {w : Workflow} {id : String} :
    w.pending = some id ↔ w = .confirming id := by
  cases w <;> simp [pending]

namespace App

theorem confirmDelete_of_pending {a : App} {r : Runner} {id : String} (now : Nat)
    (hp : a.grid.pending = some id) (ht : r.trigger = .onStore) :
    a.confirmDelete now r = (some ⟨id, .pending⟩,
      ({ a with grid := { a.grid with workflow := .idle } } : App).setStatus now
        ("Deleting " ++ (ConfirmSurface.mk id (a.grid.channels.find? fun c => c.id == id)).label
          ++ "..."),
      { r with calls := r.calls ++ [id] }) := by
  have hw : a.grid.workflow = .confirming id := Workflow.pending_eq_some_iff.mp hp
  simp [confirmDelete, Grid.confirmSurface, hp, Grid.confirmDelete, Workflow.confirm,
    Workflow.cancel, hw, Workflow.pending, Runner.start, ht, Trigger.onStore]

theorem cancelDelete_of_pending {a : App} (now : Nat) (hp : a.grid.pending.isSome) :
    a.cancelDelete now = ({ a with grid := { a.grid with workflow := .idle } } : App).setStatus now
      "Cancelled" := by
  simp [cancelDelete, hp, Grid.cancelDelete, Workflow.cancel]

@[simp] theorem syncChannels_pending (a : App) (channels : List Channel) :
    (a.syncChannels channels).grid.pending = a.grid.pending := rfl

@[simp] theorem handle_pending (a : App) (now : Nat) (snapshot : List Channel) (event : Event) :
    (a.handle now snapshot event).grid.pending = a.grid.pending := by
  cases event with
  | taskPanicked task error =>
    by_cases h : task = .refresh
    · simp only [handle, h, if_true]
      rfl
    · simp only [handle, h, if_false]
      rfl
  | _ => rfl

@[simp] theorem clearExpiredStatus_grid (a : App) (now : Nat) :
    (a.clearExpiredStatus now).1.grid = a.grid := by
  unfold clearExpiredStatus
  split
  · rfl
  · split <;> rfl

@[simp] theorem tick_grid (a : App) : a.tick.grid = a.grid := by
  by_cases h : a.grid.loading <;> simp [tick, h]

end App

end DeviceChannels
