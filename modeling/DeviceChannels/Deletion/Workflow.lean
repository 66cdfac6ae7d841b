import DeviceChannels.Deletion.Task

/-! The confirmation of a deletion. A request stages an id; a confirmation hands the staged id over
and clears the stage first, whatever the runner answers. -/

namespace DeviceChannels

inductive Workflow
  | idle
  | confirming (id : String)
  deriving DecidableEq, Repr

namespace Workflow

def pending : Workflow → Option String
  | .idle => none
  | .confirming id => some id

def request (_ : Workflow) (id : String) : Workflow := .confirming id

/-- Closes the confirmation; the id that was staged is given back. -/
def cancel (w : Workflow) : Option String × Workflow := (w.pending, .idle)

def reset (_ : Workflow) : Workflow := .idle

/-- Hands the staged id over. Without one nothing is handed over. -/
def confirm (w : Workflow) (r : Runner) :
    Except DeletionFault (Option Completion) × Workflow × Runner :=
  match w.cancel with
  | (none, w) => (.ok none, w, r)
  | (some id, w) =>
    match r.start id with
    | (.ok completion, r) => (.ok (some completion), w, r)
    | (.error fault, r) => (.error fault, w, r)

/-- With nothing staged the runner is left alone; else it has one more call, and its answer is given
back as it is. -/
theorem confirm_eq (w : Workflow) (r : Runner) :
    w.confirm r =
      match w.pending with
      | none => (.ok none, .idle, r)
      | some id =>
        ((r.trigger r.calls id).map some, .idle, { r with calls := r.calls ++ [id] }) := by
  cases w with
  | idle => rfl
  | confirming id =>
    cases h : r.trigger r.calls id <;> simp [confirm, cancel, pending, Runner.start, h, Except.map]

end Workflow

end DeviceChannels
