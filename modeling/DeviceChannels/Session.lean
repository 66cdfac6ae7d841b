import DeviceChannels.Event

/-!
A run of the application: its state, the store, the catalog file behind it, the runner of
deletions, the tasks in flight and the reports not yet handled. Tasks may finish and reports be
handled in any order; `settle` takes them in the order they came.
-/

namespace DeviceChannels

inductive Task
  | refresh
  | deletion (id : String)
  /-- Reports a deletion that was settled when it was handed over. -/
  | watch (id : String) (result : DeletionResult)

structure Session where
  app : App
  store : Store
  file : FileState
  runner : Runner
  tasks : List Task := []
  events : List Event := []
  clock : Nat := 0
  /-- The version of the store that was last shown. -/
  shownVersion : Nat := 0

def Event.ofRefresh : Except StoreFault (List Channel) → Event
  | .ok channels => .channelsRefreshed channels.length
  | .error fault => .refreshFailed fault.message

def Event.ofDeletion (id : String) : DeletionResult → Event
  | .ok outcome => .channelDeleted outcome.channelId outcome.name
  | .error fault => .channelDeleteFailed id fault

/-- A task carried out: its report, and the store after it. -/
def Task.run (file : FileState) (store : Store) : Task → Event × Store
  | .refresh =>
    let (answer, store) := store.refresh file
    (.ofRefresh answer, store)
  | .deletion id =>
    let (result, store) := store.delete id
    (.ofDeletion id result, store)
  | .watch id result => (.ofDeletion id result, store)

namespace Session

def spawnRefresh (s : Session) : Session :=
  if s.app.grid.loading then
    { s with app := s.app.setStatus s.clock "Refresh already in progress" }
  else
    { s with
      app :=
        { s.app with
          grid := s.app.grid.setLoading true
          needsRedraw := true
          refreshHeld := true }
      tasks := s.tasks ++ [.refresh] }

def watch (s : Session) (completion : Completion) : Session :=
  let task : Task :=
    match completion.result? with
    | none => .deletion completion.channelId
    | some result => .watch completion.channelId result
  { s with tasks := s.tasks ++ [task] }

def confirmDelete (s : Session) : Option Completion × Session :=
  let (completion, app, runner) := s.app.confirmDelete s.clock s.runner
  (completion, { s with app, runner })

def pressInHelp (s : Session) (key : Key) : Session :=
  let app := s.app
  match app.keymap.actionFor .help key with
  | some .closeHelp => { s with app := { app with helpOpen := false, helpScroll := 0 } }
  | some .navDown => { s with app := { app with helpScroll := app.helpScroll + 1 } }
  | some .navUp => { s with app := { app with helpScroll := app.helpScroll - 1 } }
  | _ => s

def pressInConfirm (s : Session) (key : Key) : Session :=
  match s.app.keymap.actionFor .confirm key with
  | some .confirmDelete =>
    match s.confirmDelete with
    | (some completion, s) => s.watch completion
    | (none, s) => s
  | some .cancelDelete => { s with app := s.app.cancelDelete s.clock }
  | _ => s

/-- A key on the channel list, and whether it quits. -/
def pressInList (s : Session) (key : Key) : Session × Bool :=
  let app := s.app
  match app.keymap.actionFor .channelList key with
  | some .quit => (s, true)
  | some .navDown => ({ s with app := app.navDown }, false)
  | some .navUp => ({ s with app := app.navUp }, false)
  | some .navTop => ({ s with app := app.navTop }, false)
  | some .navBottom => ({ s with app := app.navBottom }, false)
  | some .refresh => (s.spawnRefresh, false)
  | some .deleteChannel => ({ s with app := app.requestDeleteSelected }, false)
  | some .showHelp => ({ s with app := { app with helpOpen := true, helpScroll := 0 } }, false)
  | _ => (s, false)

def isInterrupt (key : Key) : Bool := key.code = .char 'c' && key.modifiers.ctrl

/-- A key pressed, and whether it quits. Overlays take all keys while they are open. -/
def press (s : Session) (key : Key) : Session × Bool :=
  if isInterrupt key then (s, true)
  else if s.app.helpOpen then (s.pressInHelp key, false)
  else if s.app.grid.pending.isSome then (s.pressInConfirm key, false)
  else s.pressInList key

def finish (s : Session) (task : Task) : Session :=
  let (event, store) := task.run s.file s.store
  { s with store, events := s.events ++ [event] }

def handle (s : Session) (event : Event) : Session :=
  { s with app := s.app.handle s.clock s.store.channels event }

def finishAll (s : Session) : Session := s.tasks.foldl finish { s with tasks := [] }

/-- Carries out all tasks in flight, then handles all reports; these are given too. -/
def settle (s : Session) : List Event × Session :=
  let s := s.finishAll
  (s.events, s.events.foldl handle { s with events := [] })

/-- Waits for a deletion, with all that was in flight before it. -/
def await (s : Session) (completion : Completion) : DeletionResult × Session :=
  match completion.result? with
  | some result => (result, s)
  | none =>
    let s := s.finishAll
    let (result, store) := s.store.delete completion.channelId
    (result, { s with store })

/-- Shows the newest collection if one was published since the last time. -/
def sync (s : Session) : Session × Bool :=
  if s.shownVersion = s.store.versions then (s, false)
  else
    ({ s with
      app := s.app.syncChannels s.store.channels
      shownVersion := s.store.versions }, true)

def write (s : Session) (file : FileState) : Session :=
  { s with file := s.file.replacedBy file }

def advance (s : Session) (milliseconds : Nat) : Session :=
  { s with clock := s.clock + milliseconds }

def expireStatus (s : Session) : Session × Bool :=
  let (app, cleared) := s.app.clearExpiredStatus s.clock
  ({ s with app }, cleared)

/-- A run over a store, deletions being carried out on it. -/
def start (config : Config) (file : FileState) (store : Store) : Session :=
  { app := .start config store.channels, store, file, runner := ⟨.onStore, []⟩ }

end Session

end DeviceChannels
