import DeviceChannels.Key.Text

/-!
What keys do. A binding says what a key does in a context; the channel list falls back to the
global bindings, overlays do not. The bindings are kept twice, as a table to look keys up in and
as a list in the order of registration.
-/

namespace DeviceChannels

inductive Action
  | quit
  | navDown
  | navUp
  | navTop
  | navBottom
  | refresh
  | deleteChannel
  | confirmDelete
  | cancelDelete
  | showHelp
  | closeHelp
  deriving DecidableEq, Repr

def Action.describe : Action → String
  | .quit => "Quit application"
  | .navDown => "Next channel"
  | .navUp => "Previous channel"
  | .navTop => "First channel"
  | .navBottom => "Last channel"
  | .refresh => "Refresh channel list"
  | .deleteChannel => "Delete selected channel"
  | .confirmDelete => "Confirm deletion"
  | .cancelDelete => "Cancel deletion"
  | .showHelp => "Show help"
  | .closeHelp => "Close help"

def Action.ofName? (name : String) : Option Action :=
  let name := name.map lowerLetter
  if name = "quit" then some .quit
  else if name = "nav_down" ∨ name = "down" then some .navDown
  else if name = "nav_up" ∨ name = "up" then some .navUp
  else if name = "nav_top" ∨ name = "top" then some .navTop
  else if name = "nav_bottom" ∨ name = "bottom" then some .navBottom
  else if name = "refresh" then some .refresh
  else if name = "delete_channel" ∨ name = "delete" then some .deleteChannel
  else if name = "confirm_delete" ∨ name = "confirm" then some .confirmDelete
  else if name = "cancel_delete" ∨ name = "cancel" then some .cancelDelete
  else if name = "show_help" ∨ name = "help" then some .showHelp
  else if name = "close_help" then some .closeHelp
  else none

inductive Context
  | global
  | channelList
  | confirm
  | help
  deriving DecidableEq, Repr

def Context.fallsBackToGlobal (c : Context) : Bool := c = .channelList

structure Binding where
  context : Context
  key : Key
  action : Action
  deriving DecidableEq, Repr

def Binding.place (b : Binding) : Context × Key := (b.context, b.key)

inductive OverrideWarning
  | unknownAction (name : String)
  | unreadableKey (text name : String)
  deriving DecidableEq, Repr

def OverrideWarning.message : OverrideWarning → String
  | .unknownAction name => "Unknown action '" ++ name ++ "', ignoring"
  | .unreadableKey text name =>
    "Cannot parse key '" ++ text ++ "' for action '" ++ name ++ "', ignoring"

structure Keymap where
  table : List ((Context × Key) × Action) := []
  bindings : List Binding := []
  deriving Repr

namespace Keymap

/-- Binds a key, which no longer does what it did before. -/
def bind (m : Keymap) (b : Binding) : Keymap :=
  let others :=
    if (m.table.lookup b.place).isSome then m.bindings.filter fun o => o.place != b.place
    else m.bindings
  { table := (b.place, b.action) :: m.table.filter fun e => e.1 != b.place
    bindings := others ++ [b] }

def bindAll (m : Keymap) (bs : List Binding) : Keymap := bs.foldl bind m

def defaultBindings : List Binding :=
  let plain (context : Context) (code : KeyCode) (action : Action) : Binding :=
    ⟨context, { code }, action⟩
  [ plain .global (.char 'q') .quit,
    plain .global (.char 'j') .navDown,
    plain .global .down .navDown,
    plain .global (.char 'k') .navUp,
    plain .global .up .navUp,
    plain .global (.char 'g') .navTop,
    plain .global .home .navTop,
    plain .global (.char 'G') .navBottom,
    plain .global .endKey .navBottom,
    plain .global (.char 'r') .refresh,
    plain .global (.char '?') .showHelp,
    ⟨.global, .ctrl 'c', .quit⟩,
    plain .channelList (.char 'd') .deleteChannel,
    plain .channelList .delete .deleteChannel,
    plain .confirm (.char 'y') .confirmDelete,
    plain .confirm (.char 'Y') .confirmDelete,
    plain .confirm .enter .confirmDelete,
    plain .confirm (.char 'n') .cancelDelete,
    plain .confirm (.char 'N') .cancelDelete,
    plain .confirm .esc .cancelDelete,
    plain .help .esc .closeHelp,
    plain .help (.char '?') .closeHelp,
    plain .help (.char 'q') .closeHelp,
    plain .help (.char 'j') .navDown,
    plain .help .down .navDown,
    plain .help (.char 'k') .navUp,
    plain .help .up .navUp ]

def default : Keymap := ({} : Keymap).bindAll defaultBindings

def contextsOf (m : Keymap) (action : Action) : List Context :=
  (m.bindings.filterMap fun b => if b.action = action then some b.context else none).foldl
    (fun seen c => if c ∈ seen then seen else seen ++ [c]) []

def unbind (m : Keymap) (action : Action) : Keymap :=
  { table := m.table.filter fun e => e.2 != action
    bindings := m.bindings.filter fun b => b.action != action }

/-- Binds the action to the key alone, in every context that it was bound in. -/
def rebind (m : Keymap) (action : Action) (key : Key) : Keymap :=
  (m.unbind action).bindAll ((m.contextsOf action).map fun c => ⟨c, key, action⟩)

def applyOverride (m : Keymap) (entry : String × String) : Keymap × Option OverrideWarning :=
  match Action.ofName? entry.1 with
  | none => (m, some (.unknownAction entry.1))
  | some action =>
    match Key.ofText? entry.2 with
    | none => (m, some (.unreadableKey entry.2 entry.1))
    | some key => (m.rebind action key, none)

def applyOverrides (m : Keymap) : List (String × String) → Keymap × List OverrideWarning
  | [] => (m, [])
  | entry :: entries =>
    let (m, warning) := m.applyOverride entry
    let (m, warnings) := m.applyOverrides entries
    (m, warning.toList ++ warnings)

def actionFor (m : Keymap) (context : Context) (key : Key) : Option Action :=
  match m.table.lookup (context, key.normalized) with
  | some action => some action
  | none =>
    if context.fallsBackToGlobal then m.table.lookup (.global, key.normalized) else none

def keysFor (m : Keymap) (context : Context) (action : Action) : List String :=
  (m.bindings.filter fun b => b.context = context ∧ b.action = action).map fun b => b.key.text

end Keymap

end DeviceChannels
