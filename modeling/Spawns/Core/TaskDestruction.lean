/-
The inner future is gone before anyone learns that it finished.

Whoever learns it, learns it from the joint or from an answer of the task. The
joint says nothing before the task has called it, and the task calls it after
the future is dropped.
-/

import Spawns.Core.TaskJoin
import Spawns.Core.TaskOutcome

namespace Spawns

open EventMachine

open Machine (reaches_of_exec)

variable {W V T P : Type}

/-! ### What each party shows -/

section

variable {trace events : List (TaskFuture.Event W T P)} {state next : TaskFuture.State W T P}
  {action : TaskFuture.Action W T P}

namespace TaskFuture

private theorem Progress.destructions_length (progress : Progress trace state) :
    (destructions trace).length = if state.hasFuture then 0 else 1 := by
  cases progress with
  | running future _ _ _ _ alive | finishing _ _ future _ _ _ _ alive =>
      rw [future, alive]
      rfl
  | handing _ _ gone _ _ _ _ destroyed | done _ _ _ gone _ _ _ _ _ destroyed
  | lost gone _ _ destroyed =>
      rw [gone, destroyed]
      rfl

private theorem Progress.destroyed_once (progress : Progress trace state)
    (gone : state.hasFuture = false) : (destructions trace).length = 1 := by
  rw [progress.destructions_length, gone]
  rfl

private theorem step_ready (progress : Progress trace state)
    (transition : Transition state action next events) (ready : .ready ∈ pollAnswers events) :
    (destructions trace).length = 1 ∧ destructions events = [] := by
  cases transition with
  | pollsFinished _ _ gone => exact ⟨progress.destroyed_once gone, rfl⟩
  | pollEnds point =>
      have gone := progress.gone_of_over (by rw [point]; trivial) (by rw [point]; nofun)
      exact ⟨progress.destroyed_once gone, rfl⟩
  | futurePanicsInPoll => simp at ready
  | updateReturns => simp [(quiet_freeEvents _ _).unanswered] at ready
  | boxRejected | fieldsDropped | cancelFrees | cancellationDrops =>
      rw [(quiet_freeEvents _ _).unanswered] at ready
      cases ready
  | pollStarts | checkFinds | checkPasses | innerStarts | innerPends | innerEnds | boxReused
  | boxDangles | boxMade | updateFinds | updateLoads | updateStores | updateRejected
  | updateRetries | futureDrops | futurePanicsInDrop | wakeCalled | dropEnds | dropFinishes
  | dropSkips | cancelStarts | cancelFinds | cancelLoads | cancelTakes | cancelClaims
  | cancelLoses | cancelRetries | cancelWakes | cancelDangles => cases ready

end TaskFuture

end

section

variable {visibility : Visibility} {trace events : List (Joint.Event V T P)}
  {state next : Joint.State V T P} {action : Joint.Action V T P}

namespace Joint

private theorem Phase.called_or_silent (phase : Phase trace state) :
    calls trace ≠ [] ∨ published trace = [] ∧ deliveries trace = [] := by
  cases phase with
  | fresh waiting unpublished _ _ pending | abandoned waiting unpublished _ _ pending =>
      exact .inr ⟨unpublished, pending.deliveries_nil⟩
  | refused _ _ called | available _ _ called | settling _ _ _ _ called
  | taken _ _ _ _ called | revoked _ _ _ _ called | late _ _ called => exact .inl (by simp [called])

private theorem step_tells (phase : Phase trace state) (stages : StageFacts trace state)
    (stepped : (machine visibility).step state action = some (next, events))
    (tells : woken events ≠ [] ∨ deliveries events ≠ []) : calls trace ≠ [] := by
  rcases phase.called_or_silent with called | ⟨unpublished, undelivered⟩
  · exact called
  · rcases tells with wakes | delivers
    · obtain ⟨_, _, publishes⟩ := step_woken phase stepped wakes
      exact absurd unpublished publishes
    · rcases step_polls stages stepped with ⟨quiet, _⟩ | ⟨poll, returned, answers, _⟩
      · exact absurd (deliveries_nil_of_polls quiet) delivers
      · rcases phase.answer undelivered answers with ⟨_, pending⟩ | ⟨_, _, publishes, _⟩
        · rw [deliveries_eq_polls, returned] at delivers
          simp [pending, PollOutcome.output?] at delivers
        · exact absurd unpublished publishes

end Joint

end

namespace TaskJoin

/-! ### Who learns that the future finished -/

/-- A poll of the task or of the handle returns `Ready`, or the joiner is woken. -/
def Tells : Event W V T P → Prop
  | .inl (.pollReturned .ready) => True
  | .inr (.pollReturned poll) => ∃ output, poll.outcome = .ready output
  | .inr (.woken _) => True
  | _ => False

def GoneBefore (before : List (Event W V T P)) (event : Event W V T P) : Prop :=
  Tells event → (TaskFuture.destructions (lefts before)).length = 1

private theorem ready_of_tells {event : TaskFuture.Event W T P}
    (tells : Tells (.inl event : Event W V T P)) : event = .pollReturned .ready := by
  cases event with
  | pollReturned answer =>
      cases answer with
      | ready => rfl
      | pending | unwound => cases tells
  | pollStarted | innerStarted | innerReturned | stored | updateMissed | dropBegan
  | futureDropped | handed | cancelled | cancelMissed | woke | allocated | released
  | invalidAccess => cases tells

private theorem shown_of_tells {event : Joint.Event V T P} {events : List (Joint.Event V T P)}
    (tells : Tells (.inr event : Event W V T P)) (member : event ∈ events) :
    Joint.woken events ≠ [] ∨ Joint.deliveries events ≠ [] := by
  cases event with
  | woken waker => exact .inl (observe_ne_nil_of_mem _ member (by simp))
  | pollReturned poll =>
      obtain ⟨output, ready⟩ := tells
      cases poll with
      | mk waker loaded outcome =>
          subst ready
          exact .inr (observe_ne_nil_of_mem _ member (by simp))
  | wakeCalled | published | detachBegan | discarded => cases tells

variable {visibility : Visibility} {id : RawId}
  {guard : Guard (State W V T P) (Action W V T P) (Event W V T P)}
  {config : Config (State W V T P) (Event W V T P)}

private theorem step_tells {action : Action W V T P} {next : State W V T P}
    {events : List (Event W V T P)} {event : Event W V T P}
    (progress : TaskFuture.Progress config.left.trace config.left.state)
    (coherent : Joint.Coherent config.right) (linked : Linked config)
    (stepped : (machine visibility).step config.state action = some (next, events))
    (member : event ∈ events) (tells : Tells event) :
    (TaskFuture.destructions config.left.trace).length = 1 ∧
      TaskFuture.destructions (lefts events) = [] := by
  have gone (handed : TaskFuture.handed config.left.trace ≠ []) :
      (TaskFuture.destructions config.left.trace).length = 1 :=
    progress.destroyed_once (progress.handed_value handed).1
  cases productStep_of_step stepped with
  | left taskAction moved shown alone moves =>
      obtain ⟨own, inside, rfl⟩ := List.mem_map.mp member
      rw [ready_of_tells tells] at inside
      have ready : .ready ∈ TaskFuture.pollAnswers shown :=
        (mem_observe _).mpr ⟨_, inside, rfl⟩
      rw [lefts_map_inl]
      exact TaskFuture.step_ready progress (TaskFuture.transition_of_step moves) ready
  | right jointAction moved shown alone moves =>
      obtain ⟨own, inside, rfl⟩ := List.mem_map.mp member
      have called := Joint.step_tells coherent.phase coherent.stages moves
        (shown_of_tells tells inside)
      rw [linked.calls] at called
      rw [lefts_map_inr]
      exact ⟨gone called, rfl⟩
  | both raw first second moved other shown answers chosen moves answered =>
      simp only [coupling] at chosen
      split at chosen
      · rename_i caller value point
        cases chosen
        rcases List.mem_append.mp member with inTask | inJoint
        · obtain ⟨own, inside, rfl⟩ := List.mem_map.mp inTask
          rw [ready_of_tells tells] at inside
          cases TaskFuture.transition_of_step moves with
          | wakeCalled => simp at inside
        · obtain ⟨own, inside, rfl⟩ := List.mem_map.mp inJoint
          have silent : Joint.woken answers = [] ∧ Joint.deliveries answers = [] := by
            obtain ⟨_, _, ⟨_, _, rfl⟩ | ⟨_, _, rfl⟩ | ⟨_, _, rfl⟩⟩ :=
              Joint.wakeLoad_cases answered
            all_goals exact ⟨rfl, rfl⟩
          rcases shown_of_tells tells inside with wakes | delivers
          · exact absurd silent.1 wakes
          · exact absurd silent.2 delivers
      · cases chosen

theorem goneBefore_of_reaches
    (run : (machine visibility).Reaches guard (.initial (.new id)) config) :
    AtEach GoneBefore config.trace := by
  apply run.invariant (fun config => AtEach GoneBefore config.trace) atEach_nil
  intro earlier action next events reached old _allowed stepped
  apply old.append
  intro before event after split tells
  obtain ⟨once, silent⟩ := step_tells
    (TaskFuture.progress_of_reaches (task_reaches reached))
    (Joint.coherent_of_reaches (joint_reaches reached)) (linked_of_reaches reached) stepped
    (by rw [split]; simp) tells
  -- The events of this step that come before drop nothing either.
  have quiet : TaskFuture.destructions (lefts before) = [] := by
    rw [split, lefts, observe_append, TaskFuture.destructions, observe_append,
      List.append_eq_nil_iff] at silent
    exact silent.1
  rw [lefts, observe_append, TaskFuture.destructions, observe_append, List.length_append]
  change _ + (TaskFuture.destructions (lefts before)).length = 1
  rw [quiet]
  exact once

/-- The future is dropped once, before anyone is told, and by the end of the task. -/
structure GoneFirst (config : Config (State W V T P) (Event W V T P)) : Prop where
  goneBefore : AtEach GoneBefore config.trace
  atMostOnce : (TaskFuture.destructions config.left.trace).length ≤ 1
  onceOver : .ready ∈ TaskFuture.pollAnswers config.left.trace ∨
    config.state.1.point = .dropping ∨ config.state.1.point = .dropped →
    (TaskFuture.destructions config.left.trace).length = 1

/-- On every finishing path, and whatever the handle and the cancel calls do, the
inner future has been dropped before anyone learns that it finished. -/
theorem future_gone_before_told
    (run : (machine visibility).Reaches guard (.initial (.new id)) config) : GoneFirst config := by
  have progress := TaskFuture.progress_of_reaches (task_reaches run)
  refine ⟨goneBefore_of_reaches run, ?_, ?_⟩
  · rw [progress.destructions_length]
    split <;> decide
  · rintro (ready | atEnd)
    · cases progress with
      | running _ _ _ _ unready | finishing _ _ _ _ _ _ unready => cases unready _ ready
      | handing _ _ _ _ _ _ _ destroyed | done _ _ _ _ _ _ _ _ _ destroyed
      | lost _ _ _ destroyed =>
          rw [destroyed]
          rfl
    · apply progress.destroyed_once
      apply progress.gone_of_over
      · change config.state.1.point.Over
        rcases atEnd with point | point <;> rw [point] <;> trivial
      · change config.state.1.point ≠ .idle
        rcases atEnd with point | point <;> rw [point] <;> nofun

/-- The joiner takes the value while `Joint::wake` has not stored the stage yet. -/
def joinedEarly : List (Action Nat Nat Nat Nat) :=
  [.right (.pollLoad 9 0), .right .pollReplace, .left (.poll 1), .left .check, .left .pollInner,
    .left (.innerReturn (.ready 42)), .left (.dropFuture false), .both 0, .right .wakeReplace,
    .right (.pollLoad 9 0), .right .pollReplace, .right .pollSettle, .right .wakeStore,
    .right .wakeMatch, .right .wakeReturn, .left .returnWake, .left .drop, .left .dropFields]

theorem future_gone_before_told_early :
    ∃ config, (machine .latest).exec .any (.initial (State.new ⟨7⟩)) joinedEarly =
        some config ∧ Joint.deliveries config.right.trace = [.ok 42] ∧
        Joint.woken config.right.trace = [9] ∧ GoneFirst config := by
  obtain ⟨config, executed, delivered, woke⟩ :
      ∃ config, (machine .latest).exec .any (.initial (State.new ⟨7⟩)) joinedEarly =
        some config ∧ Joint.deliveries config.right.trace = [.ok 42] ∧
        Joint.woken config.right.trace = [9] := ⟨_, rfl, rfl, rfl⟩
  exact ⟨config, executed, delivered, woke,
    future_gone_before_told (reaches_of_exec joinedEarly executed)⟩

end TaskJoin

end Spawns
