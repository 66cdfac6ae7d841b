import Mathlib.Data.List.Basic
import Mathlib.Data.List.Induction
import DeviceChannels.Grid

/-! Deletions as a function of what was done to the view. What is staged, handed over and drawn can
be told from the operations alone: the last one that touches the stage tells what is staged, and
each confirmation hands over what the operations before it have left there. -/

namespace DeviceChannels.Grid

inductive Operation
  | setChannels (channels : List Channel)
  | setLoading (loading : Bool)
  | requestDelete (id : String)
  | cancelDelete
  | confirmDelete
  | dispatch (action : GridAction)
  | unmount

/-- A view in use, and the runner that its deletions are handed to. -/
structure Mounted where
  grid : Grid
  runner : Runner

abbrev Answer := Except DeletionFault (Option Completion)

namespace Mounted

def perform (m : Mounted) : Operation → Answer × Mounted
  | .setChannels channels => (.ok none, { m with grid := m.grid.setChannels channels })
  | .setLoading loading => (.ok none, { m with grid := m.grid.setLoading loading })
  | .requestDelete id => (.ok none, { m with grid := m.grid.requestDelete id })
  | .cancelDelete => (.ok none, { m with grid := m.grid.cancelDelete })
  | .confirmDelete =>
    let (answer, grid, runner) := m.grid.confirmDelete m.runner
    (answer, { grid, runner })
  | .dispatch action =>
    let (answer, grid, runner) := m.grid.dispatch action m.runner
    (answer, { grid, runner })
  | .unmount => (.ok none, { m with grid := m.grid.unmount })

def after (m : Mounted) (op : Operation) : Mounted := (m.perform op).2

def run (m : Mounted) (ops : List Operation) : Mounted := ops.foldl after m

end Mounted

def mount (trigger : Trigger) (channels : List Channel) : Mounted :=
  ⟨.ofChannels channels, ⟨trigger, []⟩⟩

namespace Operation

/-- What is staged after the operation, if it touches the stage. -/
def stage? : Operation → Option (Option String)
  | .requestDelete id | .dispatch (.requestDelete id) => some (some id)
  | .cancelDelete | .dispatch .cancelDelete | .confirmDelete | .dispatch .confirmDelete
  | .unmount => some none
  | .setChannels _ | .setLoading _ => none

def channels? : Operation → Option (List Channel)
  | .setChannels channels => some channels
  | _ => none

def loading? : Operation → Option Bool
  | .setLoading loading => some loading
  | .unmount => some false
  | _ => none

def isConfirmation : Operation → Bool
  | .confirmDelete | .dispatch .confirmDelete => true
  | _ => false

end Operation

/-- What the last of the operations tells that tells anything. -/
def lastOf {α : Type} (tells : Operation → Option α) (start : α) (ops : List Operation) : α :=
  (ops.filterMap tells).getLastD start

abbrev lastStage : List Operation → Option String := lastOf Operation.stage? none

/-- What operation `i` hands over, if it is a confirmation. -/
def handedOver (ops : List Operation) (i : Nat) : Option String :=
  match ops[i]? with
  | some op => if op.isConfirmation then lastStage (ops.take i) else none
  | none => none

def drawn (loading : Bool) (channels : List Channel) : PrimaryView :=
  if loading then .loading
  else if channels.all fun c => c.onDeviceResources = 0 then .empty
  else .rows ((displayList channels).map fun c => ⟨c, c.usageRatio, c.usageLabel⟩)

theorem lastOf_concat {α : Type} (tells : Operation → Option α) (start : α) (ops : List Operation)
    (op : Operation) :
    lastOf tells start (ops ++ [op]) = (tells op).getD (lastOf tells start ops) := by
  cases h : tells op <;> simp [lastOf, h]

theorem handedOver_concat_of_lt {ops : List Operation} {i : Nat} (op : Operation)
    (h : i < ops.length) : handedOver (ops ++ [op]) i = handedOver ops i := by
  have htake : (ops ++ [op]).take i = ops.take i := List.take_append_of_le_length (Nat.le_of_lt h)
  simp only [handedOver, List.getElem?_append_left h, htake]

theorem handedOver_concat_length (ops : List Operation) (op : Operation) :
    handedOver (ops ++ [op]) ops.length = if op.isConfirmation then lastStage ops else none := by
  simp [handedOver]

theorem filterMap_handedOver_concat (ops : List Operation) (op : Operation) :
    (List.range (ops ++ [op]).length).filterMap (handedOver (ops ++ [op])) =
      (List.range ops.length).filterMap (handedOver ops) ++
        if op.isConfirmation then (lastStage ops).toList else [] := by
  have hbefore : (List.range ops.length).filterMap (handedOver (ops ++ [op])) =
      (List.range ops.length).filterMap (handedOver ops) := by
    apply List.filterMap_congr
    intro i hi
    exact handedOver_concat_of_lt op (List.mem_range.mp hi)
  have hlast : [ops.length].filterMap (handedOver (ops ++ [op])) =
      if op.isConfirmation then (lastStage ops).toList else [] := by
    rw [List.filterMap_cons, handedOver_concat_length]
    cases op.isConfirmation with
    | false => rfl
    | true => cases h : lastStage ops <;> simp
  rw [List.length_append, List.length_singleton, List.range_succ, List.filterMap_append, hbefore,
    hlast]

theorem displayList_eq_nil_iff {channels : List Channel} :
    displayList channels = [] ↔ ∀ c ∈ channels, c.onDeviceResources = 0 := by
  have hlength : (displayList channels).length = (channels.filter Channel.isOnDevice).length :=
    List.length_mergeSort _
  have hoff (c : Channel) : ¬ c.isOnDevice = true ↔ c.onDeviceResources = 0 := by
    rw [Channel.isOnDevice, decide_eq_true_iff]
    exact UInt64.not_lt.trans UInt64.le_zero_iff
  rw [← List.length_eq_zero_iff, hlength, List.length_eq_zero_iff, List.filter_eq_nil_iff]
  simp only [hoff]

theorem view_primary_eq {g : Grid} (h : g.display = displayList g.channels) :
    g.view.primary = drawn g.loading g.channels := by
  have hempty : g.display.isEmpty = g.channels.all fun c => c.onDeviceResources = 0 := by
    rw [Bool.eq_iff_iff, List.isEmpty_iff, h, displayList_eq_nil_iff]
    simp
  rw [drawn, ← hempty, ← h]
  cases hl : g.loading <;> cases he : g.display.isEmpty <;> simp [view, primaryState, hl, he, rows]

def ofStage : Option String → Workflow
  | none => .idle
  | some id => .confirming id

theorem pending_ofStage (stage : Option String) : (ofStage stage).pending = stage := by
  cases stage <;> rfl

theorem ofStage_pending (w : Workflow) : ofStage w.pending = w := by
  cases w <;> rfl

namespace Mounted

theorem perform_confirmDelete (m : Mounted) :
    m.perform .confirmDelete =
      (match m.grid.pending with
        | none => .ok none
        | some id => (m.runner.trigger m.runner.calls id).map some,
      { grid := { m.grid with workflow := .idle }
        runner := { m.runner with calls := m.runner.calls ++ m.grid.pending.toList } }) := by
  simp only [perform, confirmDelete, Workflow.confirm_eq, Grid.pending]
  cases m.grid.workflow.pending <;> simp

theorem perform_of_isConfirmation (m : Mounted) {op : Operation} (h : op.isConfirmation = true) :
    m.perform op = m.perform .confirmDelete := by
  cases op with
  | confirmDelete => rfl
  | dispatch action =>
    cases action with
    | confirmDelete => rfl
    | requestDelete _ | cancelDelete => cases h
  | setChannels _ | setLoading _ | requestDelete _ | cancelDelete | unmount => cases h

/-- All that an operation does. -/
theorem after_eq (m : Mounted) (op : Operation) :
    m.after op =
      { grid :=
          { channels := op.channels?.getD m.grid.channels
            display := (op.channels?.map displayList).getD m.grid.display
            loading := op.loading?.getD m.grid.loading
            workflow := ofStage (op.stage?.getD m.grid.pending) }
        runner :=
          { m.runner with calls := m.runner.calls ++
              if op.isConfirmation then m.grid.pending.toList else [] } } := by
  have unstaged : ofStage m.grid.pending = m.grid.workflow := ofStage_pending _
  cases op with
  | confirmDelete => exact congrArg Prod.snd m.perform_confirmDelete
  | dispatch action =>
    cases action with
    | confirmDelete => exact congrArg Prod.snd m.perform_confirmDelete
    | requestDelete id | cancelDelete =>
      simp [after, perform, dispatch, requestDelete, cancelDelete, Workflow.request,
        Workflow.cancel, Operation.channels?, Operation.loading?, Operation.stage?,
        Operation.isConfirmation, ofStage]
  | requestDelete id | cancelDelete | unmount =>
    simp [after, perform, requestDelete, cancelDelete, unmount, Workflow.request, Workflow.cancel,
      Workflow.reset, Operation.channels?, Operation.loading?, Operation.stage?,
      Operation.isConfirmation, ofStage]
  | setChannels channels | setLoading loading =>
    simp [after, perform, setChannels, setLoading, Operation.channels?, Operation.loading?,
      Operation.stage?, Operation.isConfirmation, unstaged]

/-- The state of a view that these operations were done to, told from them alone. -/
structure Follows (trigger : Trigger) (channels : List Channel) (ops : List Operation)
    (m : Mounted) : Prop where
  trigger : m.runner.trigger = trigger
  calls : m.runner.calls = (List.range ops.length).filterMap (handedOver ops)
  pending : m.grid.pending = lastStage ops
  channels : m.grid.channels = lastOf Operation.channels? channels ops
  display : m.grid.display = displayList m.grid.channels
  loading : m.grid.loading = lastOf Operation.loading? false ops

theorem Follows.after {trigger : Trigger} {channels : List Channel} {ops : List Operation}
    {m : Mounted} (h : Follows trigger channels ops m) (op : Operation) :
    Follows trigger channels (ops ++ [op]) (m.after op) := by
  rw [after_eq]
  refine ⟨h.trigger, ?_, ?_, ?_, ?_, ?_⟩
  · rw [filterMap_handedOver_concat, ← h.calls, ← h.pending]
  · rw [lastStage, lastOf_concat, ← lastStage, ← h.pending]
    exact pending_ofStage _
  · rw [lastOf_concat, ← h.channels]
  · cases op.channels? with
    | none => exact h.display
    | some _ => rfl
  · rw [lastOf_concat, ← h.loading]

theorem follows_run (trigger : Trigger) (channels : List Channel) (ops : List Operation) :
    Follows trigger channels ops ((mount trigger channels).run ops) := by
  induction ops using List.reverseRecOn with
  | nil => exact ⟨rfl, rfl, rfl, rfl, rfl, rfl⟩
  | append_singleton ops op ih =>
    have hrun : (mount trigger channels).run (ops ++ [op]) =
        ((mount trigger channels).run ops).after op := by
      simp [run]
    rw [hrun]
    exact ih.after op

end Mounted

/-- After any operations on a view, with a runner that may answer every deletion differently: the
ids handed over are, in order, those that each confirmation found staged by the last operation
before it that touches the stage. A confirmation gives the runner's answer back and leaves nothing
staged; operations that only change the collection or the loading flag leave the stage alone. The
view draws the confirmation of the id staged, over the collection last set. -/
theorem calls_are_confirmed_requests (trigger : Trigger) (channels : List Channel)
    (ops : List Operation) :
    let m := (mount trigger channels).run ops
    let last := lastOf Operation.channels? channels ops
    m.runner.calls = (List.range ops.length).filterMap (handedOver ops) ∧
      m.grid.pending = lastStage ops ∧
      (∀ op : Operation, op.stage? = none → (m.after op).grid.pending = m.grid.pending) ∧
      (∀ op : Operation, op.isConfirmation = true → (m.after op).grid.pending = none ∧
        (m.perform op).1 =
          match m.grid.pending with
          | none => .ok none
          | some id => (trigger m.runner.calls id).map some) ∧
      m.grid.view.confirm =
        m.grid.pending.map (fun id => ⟨id, last.find? fun c => c.id == id⟩) ∧
      m.grid.view.primary = drawn (lastOf Operation.loading? false ops) last := by
  intro m last
  have h : Mounted.Follows trigger channels ops m := Mounted.follows_run trigger channels ops
  refine ⟨h.calls, h.pending, fun op hop => ?_, fun op hop => ⟨?_, ?_⟩, ?_, ?_⟩
  · rw [Mounted.after_eq, hop]
    exact pending_ofStage _
  · rw [Mounted.after, m.perform_of_isConfirmation hop, m.perform_confirmDelete]
    rfl
  · rw [m.perform_of_isConfirmation hop, m.perform_confirmDelete, h.trigger]
  · rw [show last = m.grid.channels from h.channels.symm]
    rfl
  · rw [view_primary_eq h.display, h.loading, h.channels]

/-- The second request takes the first one's place and outlives its channel. The first deletion is
refused; confirming again hands nothing over. -/
theorem request_outlives_its_channel :
    let trigger : Trigger := fun past id =>
      if past = [] then .error .runnerUnavailable else .ok ⟨id, .pending⟩
    let ops : List Operation := [.requestDelete "a", .dispatch (.requestDelete "b"),
      .setChannels [], .confirmDelete, .confirmDelete, .requestDelete "a"]
    let m := (mount trigger [.ofCounts "b" "B" 1 1]).run ops
    Operation.confirmDelete.isConfirmation = true ∧ m.runner.calls = ["b"] ∧
      m.grid.pending = some "a" ∧ (m.after (.setLoading true)).grid.pending = some "a" ∧
      (m.after .confirmDelete).grid.pending = none ∧
      (m.perform .confirmDelete).1 = .ok (some ⟨"a", .pending⟩) := by
  intro trigger ops m
  obtain ⟨hcalls, hpending, hkeep, hconfirm, _⟩ :=
    calls_are_confirmed_requests trigger [.ofCounts "b" "B" 1 1] ops
  have hc : m.runner.calls = ["b"] := hcalls
  have hp : m.grid.pending = some "a" := hpending
  obtain ⟨hafter, hanswer⟩ := hconfirm .confirmDelete rfl
  have hkept := (hkeep (.setLoading true) rfl).trans hp
  exact ⟨rfl, hc, hp, hkept, hafter, hanswer.trans (by rw [hp, hc]; rfl)⟩

end DeviceChannels.Grid
