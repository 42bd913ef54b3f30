/-
`JoinError` in the hands of the joiner, and what a joiner learns of its task.

A payload is caught where the inner future is polled, travels through the joint
and is resumed by whoever joined. The error names the task by its id alone.
-/

import Spawns.Core.JointDelivery
import Spawns.Core.TaskJoin
import Spawns.Core.TaskOutcome

namespace Spawns

open EventMachine

open Machine (reaches_of_exec)

variable {W V T P : Type}

/-- How a call that never returns unwinds: with a message, or with a payload it resumes. -/
inductive Raised (P : Type) where
  | message (text : String)
  | payload (payload : P)
  deriving DecidableEq, Repr

namespace JoinError

def isPanic (error : JoinError P) : Bool :=
  match error.inner with
  | .panic _ => true
  | .cancelled => false

def isCancelled (error : JoinError P) : Bool :=
  match error.inner with
  | .cancelled => true
  | .panic _ => false

def tryIntoPanic (error : JoinError P) : Except (JoinError P) P :=
  match error.inner with
  | .panic payload => .ok payload
  | .cancelled => .error error

/-- `into_panic`; an error is the message of its panic. -/
def intoPanic (error : JoinError P) : Except String P :=
  match error.tryIntoPanic with
  | .ok payload => .ok payload
  | .error error => .error ("task " ++ error.id.display ++ " does not panic, but cancelled")

def resumePanic (error : JoinError P) : Raised P :=
  match error.intoPanic with
  | .ok payload => .payload payload
  | .error text => .message text

def debug (error : JoinError P) : String :=
  match error.inner with
  | .cancelled => "JoinError::Cancelled(" ++ error.id.debug ++ ")"
  | .panic _ => "JoinError::Panic(" ++ error.id.debug ++ ", ...)"

def display (error : JoinError P) : String :=
  match error.inner with
  | .cancelled => "task " ++ error.id.display ++ " was cancelled"
  | .panic _ => "task " ++ error.id.display ++ " panicked"

private theorem isCancelled_iff (error : JoinError P) :
    error.isCancelled = true ↔ error.inner = .cancelled := by
  rcases error with ⟨id, _ | payload⟩ <;> simp [isCancelled]

private theorem isPanic_iff (error : JoinError P) :
    error.isPanic = true ↔ ∃ payload, error.inner = .panic payload := by
  rcases error with ⟨id, _ | payload⟩ <;> simp [isPanic]

private theorem resumePanic_eq_payload {error : JoinError P} {payload : P} :
    error.resumePanic = .payload payload ↔ error.inner = .panic payload := by
  rcases error with ⟨id, _ | caught⟩ <;> simp [resumePanic, intoPanic, tryIntoPanic]

end JoinError

/-- What a joiner is told agrees with how the polls of the inner future ended. -/
structure Learns (id : RawId) (trace : List (TaskFuture.Event W T P))
    (output : Except (JoinError P) T) : Prop where
  value : ∀ value, output = .ok value ↔ .ready value ∈ TaskFuture.innerAnswers trace
  payload : ∀ payload,
    (∃ error, output = .error error ∧ error.resumePanic = .payload payload) ↔
      .panicked payload ∈ TaskFuture.innerAnswers trace
  panic : (∃ error, output = .error error ∧ error.isPanic = true) ↔
    ∃ payload, .panicked payload ∈ TaskFuture.innerAnswers trace
  cancelled : (∃ error, output = .error error ∧ error.isCancelled = true) ↔
    ∀ answer ∈ TaskFuture.innerAnswers trace, answer = .pending
  because : (∃ error, output = .error error ∧ error.isCancelled = true) →
    TaskFuture.cancellations trace ≠ [] ∨ .dropBegan true ∈ trace
  named : ∀ error, output = .error error → error.id = id.toId

/-! ### The three outputs -/

private theorem joinOutput_ok {id : RawId} {value : TaskResult T P} {output : T} :
    joinOutput id value = .ok output ↔ value = .ok output := by
  cases value <;> simp [joinOutput, Except.mapError]

private theorem joinOutput_payload {id : RawId} {value : TaskResult T P} {payload : P} :
    (∃ error, joinOutput id value = .error error ∧ error.resumePanic = .payload payload) ↔
      value = .error (.panic payload) := by
  cases value <;> simp [joinOutput, Except.mapError, JoinError.resumePanic_eq_payload]

private theorem joinOutput_panic {id : RawId} {value : TaskResult T P} :
    (∃ error, joinOutput id value = .error error ∧ error.isPanic = true) ↔
      ∃ payload, value = .error (.panic payload) := by
  cases value <;> simp [joinOutput, Except.mapError, JoinError.isPanic_iff]

private theorem joinOutput_cancelled {id : RawId} {value : TaskResult T P} :
    (∃ error, joinOutput id value = .error error ∧ error.isCancelled = true) ↔
      value = .error .cancelled := by
  cases value <;> simp [joinOutput, Except.mapError, JoinError.isCancelled_iff]

private theorem joinOutput_named {id : RawId} {value : TaskResult T P} {error : JoinError P}
    (failed : joinOutput id value = .error error) : error.id = id.toId := by
  cases value with
  | ok output => cases failed
  | error inner =>
      cases failed
      rfl

namespace TaskFuture

variable {trace : List (Event W T P)} {state : State W T P} {value : TaskResult T P}

/-! ### The value that is due -/

/-- Whatever has happened since, a value handed over is still the one that is due. -/
theorem Progress.due (progress : Progress trace state) (some : handed trace ≠ []) :
    ∃ value, handed trace = [value] ∧ Due trace value := by
  obtain ⟨_, value, before, after, only, split, _, _, ended, due⟩ := progress.handed_value some
  refine ⟨value, only, ?_⟩
  rw [split]
  apply due.append
  simp [ended]

private theorem Due.mem_completions_iff (due : Due trace value) {result : TaskResult T P} :
    result ∈ completions trace ↔ value = result ∧ value ≠ .error .cancelled := by
  rcases due with completed | ⟨none, rfl, _⟩
  · have uncancelled : value ≠ .error .cancelled := by
      rintro rfl
      have impossible : .error .cancelled ∈ completions trace := by simp [completed]
      exact cancelled_not_mem_completions impossible
    rw [completed, List.mem_singleton, and_iff_left uncancelled]
    exact eq_comm
  · rw [none]
    exact iff_of_false List.not_mem_nil fun due => due.2 rfl

theorem Due.cancelled_iff (due : Due trace value) :
    value = .error .cancelled ↔ ∀ answer ∈ innerAnswers trace, answer = .pending := by
  rw [← completions_nil_iff]
  constructor
  · rintro rfl
    rw [List.eq_nil_iff_forall_not_mem]
    intro result member
    exact (due.mem_completions_iff.mp member).2 rfl
  · intro none
    rcases due with completed | ⟨_, cancelled, _⟩
    · rw [none] at completed
      cases completed
    · exact cancelled

private theorem Due.learns (due : Due trace value) (id : RawId) :
    Learns id trace (joinOutput id value) := by
  have panicked (payload : P) :
      value = .error (.panic payload) ↔ .panicked payload ∈ innerAnswers trace := by
    rw [← panic_mem_completions, due.mem_completions_iff]
    exact ⟨fun same => ⟨same, by simp [same]⟩, And.left⟩
  refine ⟨?value, ?payload, ?panic, ?cancelled, ?because, fun _ => joinOutput_named⟩
  case value =>
    intro output
    rw [joinOutput_ok, ← ok_mem_completions, due.mem_completions_iff]
    exact ⟨fun same => ⟨same, by simp [same]⟩, And.left⟩
  case payload =>
    intro payload
    rw [joinOutput_payload]
    exact panicked payload
  case panic =>
    rw [joinOutput_panic]
    exact exists_congr panicked
  case cancelled =>
    rw [joinOutput_cancelled]
    exact due.cancelled_iff
  case because =>
    intro cancelled
    rw [joinOutput_cancelled] at cancelled
    rcases due with completed | ⟨_, _, because⟩
    · have impossible : .error .cancelled ∈ completions trace := by simp [completed, cancelled]
      exact absurd impossible cancelled_not_mem_completions
    · exact because

end TaskFuture

namespace TaskJoin

variable {visibility : Visibility} {id : RawId}
  {guard : Guard (State W V T P) (Action W V T P) (Event W V T P)}
  {config : Config (State W V T P) (Event W V T P)}

private theorem Linked.delivered_handed (linked : Linked config)
    (joint : (Joint.machine visibility).Reaches .any (.initial (.new id)) config.right)
    {output : Except (JoinError P) T} (delivered : output ∈ Joint.deliveries config.right.trace) :
    Joint.deliveries config.right.trace = [output] ∧
      ∃ value, TaskFuture.handed config.left.trace = [value] ∧ output = joinOutput id value := by
  have phase := (Joint.coherent_of_reaches joint).phase
  have sameId : config.right.state.id = id := Joint.id_of_reaches joint
  rcases phase.fate with ⟨none, _⟩ | ⟨value, called, ⟨once, _⟩ | ⟨none, _⟩⟩
  · rw [none] at delivered
    cases delivered
  · rw [once, List.mem_singleton, sameId] at delivered
    refine ⟨by rw [once, sameId, delivered], value, ?_, delivered⟩
    rw [← called]
    exact linked.calls.symm
  · rw [none] at delivered
    cases delivered

theorem Linked.delivered_once (linked : Linked config)
    (joint : (Joint.machine visibility).Reaches .any (.initial (.new id)) config.right) :
    (Joint.deliveries config.right.trace).length ≤ 1 := by
  cases delivered : Joint.deliveries config.right.trace with
  | nil => exact Nat.zero_le 1
  | cons output rest =>
      have member : output ∈ Joint.deliveries config.right.trace := by simp [delivered]
      rw [← delivered, (linked.delivered_handed joint member).1]
      exact Nat.le_refl 1

theorem Linked.learns (linked : Linked config)
    (joint : (Joint.machine visibility).Reaches .any (.initial (.new id)) config.right)
    (progress : TaskFuture.Progress config.left.trace config.left.state)
    {output : Except (JoinError P) T} (delivered : output ∈ Joint.deliveries config.right.trace) :
    Learns id config.left.trace output := by
  obtain ⟨_, value, handed, rfl⟩ := linked.delivered_handed joint delivered
  obtain ⟨same, only, due⟩ := progress.due (by simp [handed])
  rw [handed, List.cons.injEq] at only
  rw [only.1]
  exact due.learns id

theorem learns_of_delivered
    (run : (machine visibility).Reaches guard (.initial (.new id)) config)
    {output : Except (JoinError P) T} (delivered : output ∈ Joint.deliveries config.right.trace) :
    Learns id config.left.trace output :=
  (linked_of_reaches run).learns (joint_reaches run)
    (TaskFuture.progress_of_reaches (task_reaches run)) delivered

/-- Whatever the task, its cancels and the polls of the handle do, and even if
destructors panic, a joiner learns at most once, and it learns the truth. -/
theorem joiner_learns_the_outcome
    (run : (machine visibility).Reaches guard (.initial (.new id)) config) :
    (Joint.deliveries config.right.trace).length ≤ 1 ∧
      ∀ output ∈ Joint.deliveries config.right.trace, Learns id config.left.trace output :=
  ⟨(linked_of_reaches run).delivered_once (joint_reaches run),
    fun _ member => learns_of_delivered run member⟩

/-- The inner future panics while its joiner waits, and the panic is resumed. -/
def panicsBesideJoiner : List (Action Nat Nat Nat Nat) :=
  [.right (.pollLoad 9 0), .right .pollReplace, .left (.poll 1), .left .check, .left .pollInner,
    .left (.innerReturn (.panicked 13)), .left (.dropFuture false), .both 0, .right .wakeReplace,
    .right (.pollLoad 9 0), .right .pollReplace, .right .pollSettle, .right .wakeStore,
    .right .wakeMatch, .right .wakeReturn, .left .returnWake]

theorem joiner_learns_the_outcome_panicking :
    ∃ config error, (machine .latest).exec .any (.initial (State.new ⟨7⟩)) panicsBesideJoiner =
        some config ∧ Joint.deliveries config.right.trace = [.error error] ∧
        error.resumePanic = .payload 13 ∧ Learns ⟨7⟩ config.left.trace (.error error) := by
  obtain ⟨config, executed, delivered⟩ :
      ∃ config, (machine .latest).exec .any (.initial (State.new ⟨7⟩)) panicsBesideJoiner =
        some config ∧ Joint.deliveries config.right.trace =
          [.error ⟨⟨7⟩, .panic 13⟩] := ⟨_, rfl, rfl⟩
  have run : (machine .latest).Reaches .any (.initial (State.new ⟨7⟩)) config :=
    reaches_of_exec panicsBesideJoiner executed
  exact ⟨config, ⟨⟨7⟩, .panic 13⟩, executed, delivered, rfl,
    (joiner_learns_the_outcome run).2 _ (by simp [delivered])⟩

end TaskJoin

end Spawns
