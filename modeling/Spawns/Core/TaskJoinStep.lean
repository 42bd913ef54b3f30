/-
What one step of a task beside its joint is for either of them, and which calls
begin a poll, begin an early drop or end in a cancellation.
-/

import Spawns.Core.TaskJoin

namespace Spawns

open EventMachine

variable {W V T P : Type}

namespace TaskFuture

variable {state next : State W T P} {action : Action W T P} {events : List (Event W T P)}

private theorem mem_freeEvents {heap : BoxHeap.Heap W} {box : Option BoxHeap.Pointer}
    {event : Event W T P} (member : event ∈ freeEvents heap box) :
    (∃ token, event = .released token) ∨ ∃ pointer, event = .invalidAccess pointer := by
  cases box with
  | none => cases member
  | some pointer =>
      cases read : heap.read pointer with
      | none =>
          rw [freeEvents, read, List.mem_singleton] at member
          exact .inr ⟨pointer, member⟩
      | some waker =>
          rw [freeEvents, read, List.mem_singleton] at member
          exact .inl ⟨pointer.token, member⟩

private theorem step_started {waker : W} (transition : Transition state action next events)
    (started : .pollStarted waker ∈ events) : action = .poll waker := by
  cases transition with
  | pollsFinished passed | pollStarts passed =>
      simp only [List.mem_cons, Event.pollStarted.injEq, reduceCtorEq, List.not_mem_nil,
        or_false] at started
      rw [started]
  | updateReturns =>
      rcases List.mem_append.mp started with inFree | atEnd
      · rcases mem_freeEvents inFree with ⟨_, same⟩ | ⟨_, same⟩ <;> cases same
      · simp at atEnd
  | boxRejected | fieldsDropped | cancelFrees | cancellationDrops =>
      rcases mem_freeEvents started with ⟨_, same⟩ | ⟨_, same⟩ <;> cases same
  | checkFinds | checkPasses | innerStarts | innerPends | innerEnds | boxReused | boxDangles
  | boxMade | updateFinds | updateLoads | updateStores | updateRejected | updateRetries
  | futureDrops | futurePanicsInPoll | futurePanicsInDrop | wakeCalled | pollEnds | dropEnds
  | dropFinishes | dropSkips | cancelStarts | cancelFinds | cancelLoads | cancelTakes
  | cancelClaims | cancelLoses | cancelRetries | cancelWakes | cancelDangles => simp at started

private theorem step_dropBegan (transition : Transition state action next events)
    (began : .dropBegan true ∈ events) : action = .drop ∧ state.hasFuture = true := by
  cases transition with
  | dropFinishes _ unfinished => exact ⟨rfl, unfinished⟩
  | updateReturns =>
      rcases List.mem_append.mp began with inFree | atEnd
      · rcases mem_freeEvents inFree with ⟨_, same⟩ | ⟨_, same⟩ <;> cases same
      · simp at atEnd
  | boxRejected | fieldsDropped | cancelFrees | cancellationDrops =>
      rcases mem_freeEvents began with ⟨_, same⟩ | ⟨_, same⟩ <;> cases same
  | pollsFinished | pollStarts | checkFinds | checkPasses | innerStarts | innerPends | innerEnds
  | boxReused | boxDangles | boxMade | updateFinds | updateLoads | updateStores | updateRejected
  | updateRetries | futureDrops | futurePanicsInPoll | futurePanicsInDrop | wakeCalled | pollEnds
  | dropEnds | dropSkips | cancelStarts | cancelFinds | cancelLoads | cancelTakes
  | cancelClaims | cancelLoses | cancelRetries | cancelWakes | cancelDangles => simp at began

private theorem step_panicked (transition : Transition state action next events)
    (panicked : .futureDropped true ∈ events) : action = .dropFuture true := by
  cases transition with
  | futurePanicsInPoll | futurePanicsInDrop => rfl
  | futureDrops => simp at panicked
  | updateReturns =>
      rcases List.mem_append.mp panicked with inFree | atEnd
      · rcases mem_freeEvents inFree with ⟨_, same⟩ | ⟨_, same⟩ <;> cases same
      · simp at atEnd
  | boxRejected | fieldsDropped | cancelFrees | cancellationDrops =>
      rcases mem_freeEvents panicked with ⟨_, same⟩ | ⟨_, same⟩ <;> cases same
  | pollsFinished | pollStarts | checkFinds | checkPasses | innerStarts | innerPends | innerEnds
  | boxReused | boxDangles | boxMade | updateFinds | updateLoads | updateStores | updateRejected
  | updateRetries | wakeCalled | pollEnds | dropEnds | dropFinishes | dropSkips | cancelStarts
  | cancelFinds | cancelLoads | cancelTakes | cancelClaims | cancelLoses | cancelRetries
  | cancelWakes | cancelDangles => simp at panicked

theorem step_dropped (transition : Transition state action next events)
    (dropped : state.point = .dropped) : next.point = .dropped := by
  cases transition with
  | cancelStarts | cancelFinds | cancelLoads | cancelTakes | cancelClaims | cancelLoses
  | cancelRetries | cancelWakes | cancelDangles | cancelFrees => exact dropped
  | cancellationDrops => exact dropped
  | fieldsDropped => rfl
  | pollsFinished _ point | pollStarts _ point | checkFinds _ point | checkPasses _ point
  | innerStarts _ point | innerPends _ point | innerEnds _ point | boxReused _ _ point
  | boxDangles _ _ point | boxMade _ _ point | updateFinds _ _ point | updateLoads _ _ point
  | updateStores _ _ _ point | updateRejected _ _ _ point | updateRetries _ _ _ point
  | updateReturns _ point | boxRejected _ point | futureDrops _ _ point
  | futurePanicsInPoll _ point | futurePanicsInDrop _ point | wakeCalled _ _ point
  | pollEnds point | dropEnds point | dropFinishes point | dropSkips point =>
      rw [dropped] at point
      cases point

def Point.InDrop : Point W T P → Prop
  | .finishing .drop _ => True
  | .handing .drop _ => True
  | .notifying .drop => True
  | .dropping => True
  | .dropped => True
  | _ => False

private theorem dropBegan_not_mem_freeEvents {heap : BoxHeap.Heap W} {box : Option BoxHeap.Pointer}
    {unfinished : Bool} : (.dropBegan unfinished : Event W T P) ∉ freeEvents heap box := by
  intro member
  rcases mem_freeEvents member with ⟨_, same⟩ | ⟨_, same⟩ <;> cases same

private theorem step_inDrop (transition : Transition state action next events) :
    next.point.InDrop ↔ state.point.InDrop ∨ ∃ unfinished, .dropBegan unfinished ∈ events := by
  cases transition with
  | dropFinishes point | dropSkips point => simp [point, Point.InDrop]
  | futureDrops caller _ point | wakeCalled caller _ point =>
      cases caller <;> simp [point, Point.InDrop]
  | pollsFinished | boxDangles | cancelStarts | cancelFinds | cancelLoads | cancelTakes
  | cancelClaims | cancelLoses | cancelRetries | cancelWakes | cancelDangles => simp
  | cancelFrees | cancellationDrops => simp [dropBegan_not_mem_freeEvents]
  | pollStarts _ point | checkFinds _ point | checkPasses _ point | innerStarts _ point
  | innerPends _ point | innerEnds _ point | boxReused _ _ point | boxMade _ _ point
  | updateFinds _ _ point | updateLoads _ _ point | updateStores _ _ _ point
  | updateRejected _ _ _ point | updateRetries _ _ _ point | updateReturns _ point
  | boxRejected _ point | futurePanicsInPoll _ point | futurePanicsInDrop _ point
  | pollEnds point | dropEnds point | fieldsDropped point =>
      simp [point, Point.InDrop, dropBegan_not_mem_freeEvents]

theorem inDrop_iff {guard : Guard (State W T P) (Action W T P) (Event W T P)}
    {config : Config (State W T P) (Event W T P)}
    (run : machine.Reaches guard (.initial State.new) config) :
    config.state.point.InDrop ↔ ∃ unfinished, .dropBegan unfinished ∈ config.trace := by
  apply run.invariant (fun config => config.state.point.InDrop ↔
    ∃ unfinished, .dropBegan unfinished ∈ config.trace)
  · simp [Config.initial, State.new, Point.InDrop]
  · intro before action next events _reached same _allowed stepped
    rw [step_inDrop (transition_of_step stepped), same]
    simp only [List.mem_append, exists_or]

theorem Progress.gone_of_answered {trace : List (Event W T P)} (progress : Progress trace state)
    {answer : PollAnswer} (answered : .pollReturned answer ∈ trace) (done : answer ≠ .pending) :
    state.hasFuture = false := by
  have inside : answer ∈ pollAnswers trace := (mem_observe _).mpr ⟨_, answered, rfl⟩
  cases progress with
  | running _ _ _ _ unready | finishing _ _ _ _ _ _ unready | handing _ _ _ _ _ _ unready =>
      exact absurd (unready answer inside) done
  | done _ _ _ gone => exact gone
  | lost gone => exact gone

private theorem step_uncancelled (none : state.cancels = []) (other : action ≠ .cancel)
    (transition : Transition state action next events) :
    next.cancels = [] ∧ cancellations events = [] := by
  have uncalled {call : Nat} {point : CancelPoint} (found : state.cancels[call]? = some point) :
      False := by
    rw [none] at found
    cases found
  cases transition with
  | cancelStarts => exact absurd rfl other
  | cancelFinds _ found | cancelLoads _ found | cancelTakes _ _ found | cancelClaims _ _ found
  | cancelLoses _ _ found | cancelRetries _ _ found | cancelWakes _ _ _ found
  | cancelDangles _ _ found | cancelFrees _ _ found => exact (uncalled found).elim
  | updateReturns =>
      refine ⟨none, ?_⟩
      rw [cancellations, observe_append, observe_freeEvents (fun _ => rfl) (fun _ => rfl)]
      rfl
  | boxRejected | fieldsDropped | cancellationDrops =>
      exact ⟨none, observe_freeEvents (fun _ => rfl) (fun _ => rfl) _ _⟩
  | pollsFinished | pollStarts | checkFinds | checkPasses | innerStarts | innerPends | innerEnds
  | boxReused | boxDangles | boxMade | updateFinds | updateLoads | updateStores | updateRejected
  | updateRetries | futureDrops | futurePanicsInPoll | futurePanicsInDrop | wakeCalled | pollEnds
  | dropEnds | dropFinishes | dropSkips => exact ⟨none, rfl⟩

end TaskFuture

namespace TaskJoin

variable {visibility : Visibility} {state next : State W V T P} {action : Action W V T P}
  {events : List (Event W V T P)}

/-- What a step is for the task: its own, or the call of `Joint::wake`, or nothing. -/
theorem task_step (stepped : (machine visibility).step state action = some (next, events)) :
    (∃ own, TaskFuture.Transition state.1 own next.1 (lefts events) ∧
        (action = .left own ∨ own = .callWake)) ∨
      (next.1 = state.1 ∧ lefts events = []) := by
  cases productStep_of_step stepped with
  | left own moved shown _ moves =>
      rw [lefts_map_inl]
      exact .inl ⟨own, TaskFuture.transition_of_step moves, .inl rfl⟩
  | right own moved shown =>
      exact .inr ⟨rfl, lefts_map_inr shown⟩
  | both shared first second moved other shown answers chosen moves =>
      rw [lefts_both]
      refine .inl ⟨first, TaskFuture.transition_of_step moves, .inr ?_⟩
      simp only [coupling] at chosen
      split at chosen <;> cases chosen
      rfl

theorem joint_step (stepped : (machine visibility).step state action = some (next, events)) :
    (∃ own, (Joint.machine visibility).step state.2 own = some (next.2, rights events) ∧
        (action = .right own ∨ ∃ value raw, own = .wakeLoad value raw)) ∨
      (next.2 = state.2 ∧ rights events = []) := by
  cases productStep_of_step stepped with
  | left own moved shown => exact .inr ⟨rfl, rights_map_inl shown⟩
  | right own moved shown _ moves =>
      rw [rights_map_inr]
      exact .inl ⟨own, moves, .inl rfl⟩
  | both shared first second moved other shown answers chosen _ answered =>
      rw [rights_both]
      refine .inl ⟨second, answered, .inr ?_⟩
      simp only [coupling] at chosen
      split at chosen <;> cases chosen
      exact ⟨_, _, rfl⟩

theorem right_step {own : Joint.Action V T P}
    (stepped : (machine visibility).step state (.right own) = some (next, events)) :
    (Joint.machine visibility).step state.2 own = some (next.2, rights events) := by
  cases productStep_of_step stepped with
  | right _ moved shown _ moves =>
      rw [rights_map_inr]
      exact moves

theorem left_step {own : TaskFuture.Action W T P}
    (stepped : (machine visibility).step state (.left own) = some (next, events)) :
    TaskFuture.Transition state.1 own next.1 (lefts events) := by
  cases productStep_of_step stepped with
  | left _ moved shown _ moves =>
      rw [lefts_map_inl]
      exact TaskFuture.transition_of_step moves

theorem step_started {waker : W}
    (stepped : (machine visibility).step state action = some (next, events))
    (started : .pollStarted waker ∈ lefts events) : action = .left (.poll waker) := by
  rcases task_step stepped with ⟨own, transition, calls⟩ | ⟨_, silent⟩
  · have polls := TaskFuture.step_started transition started
    rcases calls with alone | wakes
    · rw [alone, polls]
    · rw [wakes] at polls
      cases polls
  · rw [silent] at started
    cases started

theorem step_dropBegan (stepped : (machine visibility).step state action = some (next, events))
    (began : .dropBegan true ∈ lefts events) :
    action = .left .drop ∧ state.1.hasFuture = true := by
  rcases task_step stepped with ⟨own, transition, calls⟩ | ⟨_, silent⟩
  · obtain ⟨drops, unfinished⟩ := TaskFuture.step_dropBegan transition began
    rcases calls with alone | wakes
    · exact ⟨by rw [alone, drops], unfinished⟩
    · rw [wakes] at drops
      cases drops
  · rw [silent] at began
    cases began

theorem step_panicked (stepped : (machine visibility).step state action = some (next, events))
    (panicked : .futureDropped true ∈ lefts events) : action = .left (.dropFuture true) := by
  rcases task_step stepped with ⟨own, transition, calls⟩ | ⟨_, silent⟩
  · have panics := TaskFuture.step_panicked transition panicked
    rcases calls with alone | wakes
    · rw [alone, panics]
    · rw [wakes] at panics
      cases panics
  · rw [silent] at panicked
    cases panicked

theorem step_dropped (stepped : (machine visibility).step state action = some (next, events))
    (dropped : state.1.point = .dropped) : next.1.point = .dropped := by
  rcases task_step stepped with ⟨own, transition, _⟩ | ⟨same, _⟩
  · exact TaskFuture.step_dropped transition dropped
  · rw [same]
    exact dropped

theorem step_uncancelled (stepped : (machine visibility).step state action = some (next, events))
    (none : state.1.cancels = []) (other : action ≠ .left .cancel) :
    next.1.cancels = [] ∧ TaskFuture.cancellations (lefts events) = [] := by
  rcases task_step stepped with ⟨own, transition, calls⟩ | ⟨same, silent⟩
  · apply TaskFuture.step_uncancelled none _ transition
    rintro rfl
    rcases calls with alone | wakes
    · exact other alone
    · cases wakes
  · rw [same, silent]
    exact ⟨none, rfl⟩

end TaskJoin

end Spawns
