/-
Every operation on the handles does what it is asked for, and no more.

A task is cancelled by the explicit cancels and by the drop of a `TaskHandle`
alone, and its joint is detached by the last drop alone.
-/

import Spawns.Core.TaskSlot
import Spawns.Core.HandleProgress

namespace Spawns.TaskHandles

open EventMachine

open Machine (reaches_of_exec)

variable {W V T P : Type} {visibility : Visibility} {id : RawId}
  {guard : Guard (State W V T P) (Action W V T P) (Event W V T P)}
  {config : Config (State W V T P) (Event W V T P)}

/-- What the operations so far have done to the task and its joint. -/
structure AsAsked (visibility : Visibility) (config : Config (State W V T P) (Event W V T P)) :
    Prop where
  caused : config.state.2.1.slot = .cancelled →
    Handles.Cancels (Handles.operations config.left.trace)
  cancelled : AtRest config.state →
    (config.state.2.1.slot = .cancelled ↔
      Handles.Cancels (Handles.operations config.left.trace))
  once : (Joint.detachments config.right.right.trace).length ≤
    (Handles.operations config.left.trace).count .drop ∧
      (Handles.operations config.left.trace).count .drop ≤ 1
  detached : AtRest config.state → (Joint.detachments config.right.right.trace).length =
    (Handles.operations config.left.trace).count .drop
  -- The last operation comes to its end though the task stands still.
  ends : Nonempty V → ∃ later, (machine visibility).Reaches callsOnly config later ∧
    AtRest later.state ∧
      Handles.operations later.left.trace = Handles.operations config.left.trace

/-- A call of `cancel` that has returned has seen `CANCELLED`, or put it in. -/
private theorem cancelled_of_returned {task : TaskJoin.State W V T P}
    (guarded : TaskFuture.Guarded task.1) (ended : returned task = true)
    (called : 0 < task.1.cancels.length) : task.1.slot = .cancelled := by
  obtain ⟨call, member⟩ := List.exists_mem_of_length_pos called
  rw [returned, Bool.and_eq_true, List.all_eq_true] at ended
  have atEnd : call = .returned := of_decide_eq_true (ended.1 call member)
  have seen := guarded.calls call member
  rw [atEnd] at seen
  exact seen

theorem handles_do_as_asked
    (run : (machine visibility).Reaches guard (.initial (.new id)) config) :
    AsAsked visibility config := by
  have ledger : Handles.Ledger config.left.trace config.state.1 :=
    Handles.ledger_of_reaches run.left
  have linked := linked_of_reaches run
  have taskRun := TaskJoin.task_reaches run.right
  have cancelled : config.state.2.1.slot = .cancelled → 0 < config.state.2.1.cancels.length :=
    TaskFuture.caused_of_reaches taskRun
  have calls : config.state.2.1.cancels.length + config.state.1.work.count .cancel =
      Handles.cancelCalls .join (Handles.operations config.left.trace) := by
    rw [← ledger.cancels]
    exact congrArg (· + _) linked.cancels
  have detaches : (Joint.detachments config.right.right.trace).length +
      config.state.1.work.count .detach =
        (Handles.operations config.left.trace).count .drop := by
    rw [linked.detaches]
    exact ledger.detaches
  have caused : config.state.2.1.slot = .cancelled →
      Handles.Cancels (Handles.operations config.left.trace) := by
    intro isCancelled
    apply (Handles.cancelCalls_pos .join _).mp
    have positive := cancelled isCancelled
    omega
  refine ⟨caused, ?cancelled, ⟨?began, ?drops⟩, ?detached, fun ⟨waker⟩ => comes_to_rest waker run⟩
  case cancelled =>
    intro rest
    refine ⟨caused, fun asked => ?_⟩
    have positive := (Handles.cancelCalls_pos .join _).mpr asked
    rw [← calls, rest.1, List.count_nil, Nat.add_zero] at positive
    exact cancelled_of_returned (TaskFuture.guarded_of_reaches taskRun) rest.2 positive
  case began => omega
  case drops =>
    rw [ledger.drops]
    split
    · exact Nat.le_refl 1
    · exact Nat.zero_le 1
  case detached =>
    intro rest
    rw [← detaches, rest.1]
    rfl

/-- The handle is converted there and back, and dropped as a `TaskHandle` while the
task waits. -/
def droppedAsTask : List (Action Nat Nat Nat Nat) :=
  [.left (.operate .attach), .left (.operate .detach), .left (.operate .attach),
    .left (.operate .cancelHandle), .left .call, .right (.left (.poll 1)), .right (.left .check),
    .right (.left .pollInner), .left (.operate .poll), .both (9, 0), .right (.right .pollReplace),
    .right (.left (.innerReturn .pending)), .right (.left (.newBox 0)),
    .right (.left .updateLoad), .right (.left .updateExchange), .right (.left .updateReturn),
    .left (.operate .drop), .both (0, 0), .right (.left (.cancelLoad 0)),
    .right (.left (.cancelExchange 0)), .right (.left (.cancelWake 0)),
    .right (.left (.cancelFree 0)), .both (0, 0), .right (.right .dropReplace), .left .call,
    .left (.operate .dropCancelHandle), .left .call]

theorem handles_do_as_asked_dropped :
    ∃ config, (machine .latest).exec .any (.initial (State.new ⟨7⟩)) droppedAsTask =
        some config ∧ AtRest config.state ∧ config.state.2.1.slot = .cancelled ∧
      Handles.operations config.left.trace = [.attach, .detach, .attach, .cancelHandle, .poll,
        .drop, .dropCancelHandle] ∧ AsAsked .latest config := by
  obtain ⟨config, executed, rest, cancelled, operations⟩ :
      ∃ config, (machine .latest).exec .any (.initial (State.new ⟨7⟩)) droppedAsTask =
          some config ∧ AtRest config.state ∧ config.state.2.1.slot = .cancelled ∧
        Handles.operations config.left.trace = [.attach, .detach, .attach, .cancelHandle, .poll,
          .drop, .dropCancelHandle] := ⟨_, rfl, ⟨rfl, rfl⟩, rfl, rfl⟩
  exact ⟨config, executed, rest, cancelled, operations,
    handles_do_as_asked (reaches_of_exec droppedAsTask executed)⟩

end Spawns.TaskHandles
