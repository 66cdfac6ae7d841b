import DeviceChannels.Store

/-!
Deletions handed to a runner. The runner refuses one or answers with a completion, through which
the task reports its outcome. A runner's answer may depend on everything it was handed before.
-/

namespace DeviceChannels

inductive DeletionFault
  | runnerUnavailable
  | unknownChannel (id : String)
  | store (text : String)
  /-- The task ended without a report. -/
  | dropped
  deriving DecidableEq, Repr

def DeletionFault.message : DeletionFault → String
  | .runnerUnavailable => "Task runner unavailable"
  | .unknownChannel id => "Unknown channel: " ++ id
  | .store text => "Store error: " ++ text
  | .dropped => "Delete task dropped before completing"

def DeletionFault.ofStore : StoreFault → DeletionFault
  | .unknownChannel id => .unknownChannel id
  | fault => .store fault.message

structure DeletionOutcome where
  channelId : String
  name : String
  deriving DecidableEq, Repr

abbrev DeletionResult := Except DeletionFault DeletionOutcome

inductive Report
  | pending
  | sent (result : DeletionResult)
  /-- The task is gone and will not report. -/
  | abandoned

structure Completion where
  channelId : String
  report : Report

/-- What waiting for the task gives, once it is settled. -/
def Completion.result? (c : Completion) : Option DeletionResult :=
  match c.report with
  | .pending => none
  | .sent result => some result
  | .abandoned => some (.error .dropped)

/-- Decides what becomes of the deletion of `id`, `past` being the ids handed over before. -/
abbrev Trigger := (past : List String) → (id : String) → Except DeletionFault Completion

/-- Starts a deletion on the store for each id. -/
def Trigger.onStore : Trigger := fun _ id => .ok ⟨id, .pending⟩

def Trigger.unavailable : Trigger := fun _ _ => .error .runnerUnavailable

structure Runner where
  trigger : Trigger
  /-- The ids handed over so far, the first one first. -/
  calls : List String := []

def Runner.start (r : Runner) (id : String) : Except DeletionFault Completion × Runner :=
  (r.trigger r.calls id, { r with calls := r.calls ++ [id] })

/-- A deletion on the store, as its task carries it out. -/
def Store.delete (s : Store) (id : String) : DeletionResult × Store :=
  match s.removeContent id with
  | (.ok c, s) => (.ok ⟨c.id, c.name⟩, s)
  | (.error fault, s) => (.error (.ofStore fault), s)

/-- How a task ends: with a value, or in a panic whose payload may be a text. -/
inductive Ending (α : Type)
  | finished (value : α)
  | panicked (payload : Option String)

def Ending.caught : Ending α → Except String α
  | .finished value => .ok value
  | .panicked payload => .error (payload.getD "Unknown panic payload")

end DeviceChannels
