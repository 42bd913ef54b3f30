/-
A task, its joint and its handles.

One operation is carried out on the handles after the other. Its calls of
`Cancellation::cancel`, its poll and its drop of the `Joint` take their steps
among those of the task, and what comes next waits until they have returned.
-/

import Spawns.Core.HandleCalls
import Spawns.Core.TaskJoin

namespace Spawns

open EventMachine

variable {W V T P : Type}

/-! ### Calls of `cancel`, and the drop of the `Joint` -/

section

variable {state next : TaskFuture.State W T P} {events : List (TaskFuture.Event W T P)}
  {action : TaskFuture.Action W T P}

private theorem TaskFuture.step_uncalled
    (transition : TaskFuture.Transition state action next events)
    (other : action ≠ .cancel) : next.cancels.length = state.cancels.length := by
  cases transition with
  | cancelStarts => exact absurd rfl other
  | cancelFinds | cancelLoads | cancelTakes | cancelClaims | cancelLoses | cancelRetries
  | cancelWakes | cancelFrees => exact List.length_set
  | pollsFinished | pollStarts | checkFinds | checkPasses | innerStarts | innerPends | innerEnds
  | boxReused | boxDangles | boxMade | updateFinds | updateLoads | updateStores | updateRejected
  | updateRetries | updateReturns | boxRejected | futureDrops | futurePanicsInPoll
  | futurePanicsInDrop | wakeCalled | pollEnds | dropEnds | dropFinishes | dropSkips
  | fieldsDropped | cancelDangles | cancellationDrops => rfl

private theorem TaskFuture.step_caused (transition : TaskFuture.Transition state action next events)
    (caused : state.slot = .cancelled → 0 < state.cancels.length) :
    next.slot = .cancelled → 0 < next.cancels.length := by
  cases transition with
  | updateStores => exact nofun
  | cancelStarts => exact fun _ => by simp
  | cancelFinds | cancelLoads | cancelLoses | cancelRetries | cancelWakes | cancelFrees =>
      rwa [List.length_set]
  | cancelTakes call _ found | cancelClaims call _ found =>
      intro _cancelled
      rw [List.length_set]
      exact Nat.zero_lt_of_lt (List.getElem?_eq_some_iff.mp found).1
  | pollsFinished | pollStarts | checkFinds | checkPasses | innerStarts | innerPends | innerEnds
  | boxReused | boxDangles | boxMade | updateFinds | updateLoads | updateRejected
  | updateRetries | updateReturns | boxRejected | futureDrops | futurePanicsInPoll
  | futurePanicsInDrop | wakeCalled | pollEnds | dropEnds | dropFinishes | dropSkips
  | fieldsDropped | cancelDangles | cancellationDrops => exact caused

theorem TaskFuture.caused_of_reaches
    {guard : Guard (TaskFuture.State W T P) (TaskFuture.Action W T P) (TaskFuture.Event W T P)}
    {config : Config (TaskFuture.State W T P) (TaskFuture.Event W T P)}
    (run : TaskFuture.machine.Reaches guard (.initial .new) config) :
    config.state.slot = .cancelled → 0 < config.state.cancels.length := by
  apply run.invariant
    (fun config => config.state.slot = .cancelled → 0 < config.state.cancels.length) nofun
  intro before action next events _reached caused _allowed stepped
  exact TaskFuture.step_caused (TaskFuture.transition_of_step stepped) caused

end

section

variable {visibility : Visibility} {state next : Joint.State V T P}
  {events : List (Joint.Event V T P)} {action : Joint.Action V T P}

def Joint.Event.detach? : Joint.Event V T P → Option Unit
  | .detachBegan => some ()
  | _ => none

abbrev Joint.detachments (trace : List (Joint.Event V T P)) : List Unit :=
  observe Joint.Event.detach? trace

private theorem Joint.step_undetached (stepped : (Joint.machine visibility).step state action =
    some (next, events)) (other : action ≠ .dropStore) : Joint.detachments events = [] := by
  have silent (result : JoinResult V T P) : Joint.detachments (Joint.discardedOf result) = [] :=
    Joint.observe_discardedOf (fun _ => rfl) result
  cases action with
  | dropStore => exact absurd rfl other
  | wakeLoad value raw =>
      obtain ⟨_, _, ⟨_, _, rfl⟩ | ⟨_, _, rfl⟩ | ⟨_, _, rfl⟩⟩ := Joint.wakeLoad_cases stepped <;> rfl
  | wakeReplace =>
      obtain ⟨_, _, _, rfl⟩ := Joint.wakeReplace_cases stepped
      rfl
  | wakeStore =>
      obtain ⟨_, _, _, rfl⟩ := Joint.wakeStore_cases stepped
      rfl
  | wakeMatch => exact Joint.observe_wakeMatch (fun _ => rfl) (fun _ => rfl) stepped
  | wakeReturn =>
      obtain ⟨_, _, rfl⟩ := Joint.wakeReturn_cases stepped
      rfl
  | pollLoad waker raw =>
      obtain ⟨_, _, ⟨_, _, rfl⟩ | ⟨_, _, rfl⟩ | ⟨_, _, rfl⟩⟩ := Joint.pollLoad_cases stepped <;> rfl
  | pollReplace =>
      rcases Joint.pollReplace_cases stepped with ⟨_, _, _, rfl⟩ | ⟨_, _, _, _, _, _, rfl⟩ |
        ⟨_, _, _, _, _, rfl⟩ <;> rfl
  | pollSettle =>
      obtain ⟨_, _, _, _, _, rfl⟩ := Joint.pollSettle_cases stepped
      rw [Joint.detachments, observe_append]
      exact congrArg (· ++ []) (silent _)
  | dropReplace =>
      obtain ⟨_, _, rfl⟩ := Joint.dropReplace_cases stepped
      exact silent _

end

namespace TaskHandles

abbrev State (W V T P : Type) := Handles.State × TaskJoin.State W V T P

/-- A shared step is a call of the handles on the task; a poll brings a waker and the
stage that it loads. -/
abbrev Action (W V T P : Type) :=
  ProductAction Handles.Action (TaskJoin.Action W V T P) (V × Nat)

abbrev Event (W V T P : Type) := Handles.Event ⊕ TaskJoin.Event W V T P

def returned (task : TaskJoin.State W V T P) : Bool :=
  task.1.cancels.all (fun call => call = .returned) &&
    match task.2.handle with
    | .idle => true
    | .dropped => true
    | _ => false

/-- The last `Arc<Cancellation>` is dropped after those of the handles. -/
def coupling : Coupling Handles.State (TaskJoin.State W V T P) Handles.Action
    (TaskJoin.Action W V T P) (V × Nat) where
  leftAlone state
    | .operate _ => returned state.2
    | .call =>
        match state.1.work with
        | .cloneArc :: _ => returned state.2
        | .dropArc :: _ => returned state.2
        | _ => false
  rightAlone state
    | .left .cancel => false
    | .left .dropCancellation => state.1.arcs = 0
    | .right (.pollLoad _ _) => false
    | .right .dropStore => false
    | _ => true
  together state shared :=
    if returned state.2 then
      match state.1.work with
      | .cancel :: _ => some (.call, .left .cancel)
      | .poll :: _ => some (.call, .right (.pollLoad shared.1 shared.2))
      | .detach :: _ => some (.call, .right .dropStore)
      | _ => none
    else none

def machine (visibility : Visibility) : Machine (State W V T P) (Action W V T P) (Event W V T P) :=
  .product Handles.machine (TaskJoin.machine visibility) coupling

def State.new (id : RawId) : State W V T P := (Handles.State.new id, TaskJoin.State.new id)

def AtRest (state : State W V T P) : Prop := state.1.work = [] ∧ returned state.2 = true

variable {visibility : Visibility} {id : RawId}
  {guard : Guard (State W V T P) (Action W V T P) (Event W V T P)}
  {config : Config (State W V T P) (Event W V T P)}

/-! ### The calls that the task and the joint have seen -/

/-- What the handles have called is what has been called. -/
structure Linked (called : List Call) (task : Config (TaskJoin.State W V T P)
    (TaskJoin.Event W V T P)) : Prop where
  cancels : task.state.1.cancels.length = called.count .cancel
  detaches : (Joint.detachments task.right.trace).length = called.count .detach

variable {called : List Call} {task : Config (TaskJoin.State W V T P) (TaskJoin.Event W V T P)}
  {next : TaskJoin.State W V T P} {events : List (TaskJoin.Event W V T P)}
  {action : TaskJoin.Action W V T P}

private theorem Linked.detaches_append (linked : Linked called task)
    {shown : List (Joint.Event V T P)}
    (silent : Joint.detachments shown = []) :
    (Joint.detachments (task.right.trace ++ shown)).length = called.count .detach := by
  rw [Joint.detachments, observe_append, List.length_append, linked.detaches]
  exact congrArg (_ + List.length ·) silent

private theorem Linked.alone (linked : Linked called task)
    (stepped : (TaskJoin.machine visibility).step task.state action = some (next, events))
    (uncalled : action ≠ .left .cancel) (undetached : action ≠ .right .dropStore) :
    Linked called ⟨task.trace ++ events, next⟩ := by
  cases productStep_of_step stepped with
  | left taskAction moved shown alone moves =>
      refine ⟨?_, ?_⟩
      · have kept := TaskFuture.step_uncalled (TaskFuture.transition_of_step moves)
          (fun same => uncalled (congrArg _ same))
        exact kept.trans linked.cancels
      · rw [Config.right_append, rights_map_inl, List.append_nil]
        exact linked.detaches
  | right jointAction moved shown alone moves =>
      have silent := Joint.step_undetached moves (fun same => undetached (congrArg _ same))
      refine ⟨linked.cancels, ?_⟩
      rw [Config.right_append, rights_map_inr]
      exact linked.detaches_append silent
  | both raw first second moved other shown answers chosen moves answered =>
      simp only [TaskJoin.coupling] at chosen
      split at chosen
      · cases chosen
        have silent := Joint.step_undetached answered (by simp)
        refine ⟨?_, ?_⟩
        · have kept := TaskFuture.step_uncalled (TaskFuture.transition_of_step moves) (by simp)
          exact kept.trans linked.cancels
        · rw [Config.right_append, rights_both]
          exact linked.detaches_append silent
      · cases chosen

private theorem Linked.other {call : Call} (linked : Linked called task) (cancels : call ≠ .cancel)
    (detaches : call ≠ .detach) : Linked (called ++ [call]) task where
  cancels := by
    rw [List.count_append, List.count_singleton, if_neg (by simpa using cancels)]
    exact linked.cancels
  detaches := by
    rw [List.count_append, List.count_singleton, if_neg (by simpa using detaches)]
    exact linked.detaches

private theorem Linked.cancel (linked : Linked called task)
    (stepped : (TaskJoin.machine visibility).step task.state (.left .cancel) =
      some (next, events)) : Linked (called ++ [.cancel]) ⟨task.trace ++ events, next⟩ := by
  cases productStep_of_step stepped with
  | left _ moved shown _ moves =>
      cases TaskFuture.transition_of_step moves with
      | cancelStarts =>
          refine ⟨?_, ?_⟩
          · change (task.state.1.cancels ++ [_]).length = _
            rw [List.length_append, linked.cancels, List.count_append]
            rfl
          · rw [Config.right_append, rights_map_inl, List.append_nil, List.count_append]
            exact linked.detaches

private theorem Linked.detach (linked : Linked called task)
    (stepped : (TaskJoin.machine visibility).step task.state (.right .dropStore) =
      some (next, events)) : Linked (called ++ [.detach]) ⟨task.trace ++ events, next⟩ := by
  cases productStep_of_step stepped with
  | right _ moved shown _ moves =>
      obtain ⟨_, _, rfl⟩ := Joint.dropStore_cases moves
      refine ⟨?_, ?_⟩
      · rw [List.count_append]
        exact linked.cancels
      · rw [Config.right_append, rights_map_inr, Joint.detachments, observe_append,
          List.length_append, List.count_append]
        exact congrArg (· + 1) linked.detaches

private theorem step_linked {action : Action W V T P} {next : State W V T P}
    {events : List (Event W V T P)}
    (linked : Linked (Handles.called config.left.trace) config.right)
    (stepped : (machine visibility).step config.state action = some (next, events)) :
    Linked (Handles.called (config.left.trace ++ lefts events))
      ⟨config.right.trace ++ rights events, next.2⟩ := by
  cases productStep_of_step stepped with
  | left handleAction moved shown alone moves =>
      rw [lefts_map_inl, rights_map_inl, List.append_nil, Handles.called, observe_append]
      cases handleAction with
      | operate operation =>
          obtain ⟨rfl, _⟩ := Handles.operate_cases moves
          exact (List.append_nil _).symm ▸ linked
      | call =>
          obtain ⟨head, rest, work, rfl, _⟩ := Handles.call_cases moves
          simp only [coupling, work] at alone
          refine linked.other ?_ ?_
          all_goals
            rintro rfl
            cases alone
  | right taskAction moved shown alone moves =>
      rw [lefts_map_inr, rights_map_inr, List.append_nil]
      apply linked.alone moves
      all_goals
        rintro rfl
        cases alone
  | both shared first second moved other shown answers chosen moves answered =>
      rw [lefts_both, rights_both, Handles.called, observe_append]
      simp only [coupling] at chosen
      split at chosen
      · split at chosen
        all_goals cases chosen
        all_goals
          rename_i work
          obtain ⟨head, rest, calls, rfl, _⟩ := Handles.call_cases moves
          rw [work] at calls
          cases calls
        · exact linked.cancel answered
        · exact (linked.alone answered (by simp) (by simp)).other (by simp) (by simp)
        · exact linked.detach answered
      · cases chosen

theorem linked_of_reaches
    (run : (machine visibility).Reaches guard (.initial (.new id)) config) :
    Linked (Handles.called config.left.trace) config.right := by
  apply run.invariant (fun config => Linked (Handles.called config.left.trace) config.right)
    ⟨rfl, rfl⟩
  intro before action next events _reached linked _allowed stepped
  rw [Config.left_append, Config.right_append]
  exact step_linked linked stepped

end TaskHandles

end Spawns
