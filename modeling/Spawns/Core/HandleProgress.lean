/-
Operations on the handles come to an end, whatever the task does or does not do.

Each step of a call lowers a rank: a call of `cancel` that the task overtakes
starts its round again, but alone it does not.
-/

import Spawns.Core.TaskHandles
import Spawns.Core.WakerBoxes

namespace Spawns

open EventMachine BoxHeap

variable {W V T P : Type}

/-! ### Calls of `cancel` -/

namespace TaskFuture

variable {trace : List (Event W T P)} {state next : State W T P}

/-- How many steps a call of `cancel` has still to take while the slot stays. -/
def CancelPoint.rank (slot : Slot) : CancelPoint → Nat
  | .returned => 0
  | .freeing _ => 1
  | .waking _ => 2
  | .exchanging current => if slot = .cancelled ∨ slot.same current = true then 3 else 4
  | .loading => 5

def Action.OfCancel : Action W T P → Prop
  | .cancelLoad _ => True
  | .cancelExchange _ => True
  | .cancelWake _ => True
  | .cancelFree _ => True
  | _ => False

def cancelRank (state : State W T P) : Nat :=
  (state.cancels.map (CancelPoint.rank state.slot)).sum

theorem CancelPoint.rank_cancelled (slot : Slot) (call : CancelPoint) :
    call.rank .cancelled ≤ call.rank slot := by
  cases call with
  | exchanging current =>
      simp only [rank, true_or, if_true]
      split <;> omega
  | loading | waking | freeing | returned => exact Nat.le_refl _

private theorem step_present {action : Action W T P} {events : List (Event W T P)}
    (transition : Transition state action next events) (other : action ≠ .dropCancellation) :
    next.cancellationDropped = state.cancellationDropped := by
  cases transition with
  | cancellationDrops => exact absurd rfl other
  | pollsFinished | pollStarts | checkFinds | checkPasses | innerStarts | innerPends | innerEnds
  | boxReused | boxDangles | boxMade | updateFinds | updateLoads | updateStores | updateRejected
  | updateRetries | updateReturns | boxRejected | futureDrops | futurePanicsInPoll
  | futurePanicsInDrop | wakeCalled | pollEnds | dropEnds | dropFinishes | dropSkips
  | fieldsDropped | cancelStarts | cancelFinds | cancelLoads | cancelTakes | cancelClaims
  | cancelLoses | cancelRetries | cancelWakes | cancelDangles | cancelFrees => rfl

private theorem rank_move {call : Nat} {stands : CancelPoint}
    (found : state.cancels[call]? = some stands) (moved : CancelPoint)
    (less : moved.rank state.slot < stands.rank state.slot) :
    ((state.cancels.set call moved).map (CancelPoint.rank state.slot)).sum < cancelRank state :=
  sum_set_lt found less fun _ => Nat.le_refl _

private theorem rank_claim {call : Nat} {stands : CancelPoint}
    (found : state.cancels[call]? = some stands) (moved : CancelPoint)
    (less : moved.rank .cancelled < stands.rank state.slot) :
    ((state.cancels.set call moved).map (CancelPoint.rank .cancelled)).sum < cancelRank state :=
  sum_set_lt found less (CancelPoint.rank_cancelled state.slot)

private theorem exchange_descends {call : Nat} {current : Slot}
    (found : state.cancels[call]? = some (.exchanging current)) :
    ∃ next events, machine.step state (.cancelExchange call) = some (next, events) ∧
      cancelRank next < cancelRank state := by
  by_cases same : state.slot.same current = true
  · have ranked : 2 < CancelPoint.rank state.slot (.exchanging current) := by
      simp [CancelPoint.rank, same]
    cases box : current.box? with
    | none =>
        have stepped : machine.step state (.cancelExchange call) = some ({ state with
            slot := .cancelled
            cancels := state.cancels.set call .returned }, [.cancelled call]) := by
          simp only [machine, cancelExchange, found, same, box, if_true]
        exact ⟨_, _, stepped, rank_claim found .returned (Nat.zero_lt_of_lt ranked)⟩
    | some pointer =>
        have stepped : machine.step state (.cancelExchange call) = some ({ state with
            slot := .cancelled
            cancels := state.cancels.set call (.waking pointer) }, [.cancelled call]) := by
          simp only [machine, cancelExchange, found, same, box, if_true]
        exact ⟨_, _, stepped, rank_claim found (.waking pointer) ranked⟩
  · by_cases cancelled : state.slot.same .cancelled = true
    · have stepped : machine.step state (.cancelExchange call) = some ({ state with
          cancels := state.cancels.set call .returned }, [.cancelMissed call]) := by
        simp only [machine, cancelExchange, found, same, cancelled, if_true]
        rfl
      refine ⟨_, _, stepped, rank_move found .returned ?_⟩
      simp [CancelPoint.rank, (Slot.same_cancelled _).mp cancelled]
    · have stepped : machine.step state (.cancelExchange call) = some ({ state with
          cancels := state.cancels.set call (.exchanging state.slot) }, [.cancelMissed call]) := by
        simp only [machine, cancelExchange, found, same, cancelled]
        rfl
      refine ⟨_, _, stepped, rank_move found (.exchanging state.slot) ?_⟩
      rw [Slot.same_cancelled] at cancelled
      simp [CancelPoint.rank, Slot.same_self, same, cancelled]

private theorem load_descends {call : Nat} (found : state.cancels[call]? = some .loading) :
    ∃ next events, machine.step state (.cancelLoad call) = some (next, events) ∧
      cancelRank next < cancelRank state := by
  by_cases cancelled : state.slot.same .cancelled = true
  · have stepped : machine.step state (.cancelLoad call) = some ({ state with
        cancels := state.cancels.set call .returned }, []) := by
      simp only [machine, cancelLoad, found, cancelled, if_true]
    exact ⟨_, _, stepped, rank_move found .returned (Nat.zero_lt_succ 4)⟩
  · have stepped : machine.step state (.cancelLoad call) = some ({ state with
        cancels := state.cancels.set call (.exchanging state.slot) }, []) := by
      simp only [machine, cancelLoad, found, cancelled]
      rfl
    refine ⟨_, _, stepped, rank_move found (.exchanging state.slot) ?_⟩
    simp [CancelPoint.rank, Slot.same_self]

private theorem cancel_descends {call : Nat} {stands : CancelPoint} (owned : Owned trace state)
    (found : state.cancels[call]? = some stands) (running : stands ≠ .returned) :
    ∃ action next events, action.OfCancel ∧ machine.step state action = some (next, events) ∧
      cancelRank next < cancelRank state := by
  cases stands with
  | returned => exact absurd rfl running
  | freeing box =>
      have stepped : machine.step state (.cancelFree call) = some ({ state with
          heap := freeBox state.heap (some box)
          cancels := state.cancels.set call .returned }, freeEvents state.heap (some box)) := by
        simp only [machine, cancelFree, found]
      exact ⟨.cancelFree call, _, _, trivial, stepped,
        rank_move found .returned Nat.zero_lt_one⟩
  | waking box =>
      have member : box ∈ state.owners := List.mem_append_right _
        (mem_held_of_getElem? CancelPoint.held found (List.mem_singleton_self box))
      obtain ⟨waker, content⟩ := owned.live box member
      have stepped : machine.step state (.cancelWake call) = some ({ state with
          cancels := state.cancels.set call (.freeing box) }, [.woke call waker]) := by
        simp only [machine, cancelWake, found, content]
      exact ⟨.cancelWake call, _, _, trivial, stepped,
        rank_move found (.freeing box) Nat.one_lt_two⟩
  | exchanging current =>
      obtain ⟨next, events, stepped, lower⟩ := exchange_descends found
      exact ⟨.cancelExchange call, next, events, trivial, stepped, lower⟩
  | loading =>
      obtain ⟨next, events, stepped, lower⟩ := load_descends found
      exact ⟨.cancelLoad call, next, events, trivial, stepped, lower⟩

end TaskFuture

/-! ### Polls and the drop of the handle -/

namespace Joint

variable {visibility : Visibility} {state next : State V T P} {events : List (Event V T P)}

def HandlePoint.rank : HandlePoint V T P → Nat
  | .idle => 0
  | .dropped => 0
  | .taking _ => 1
  | .settling _ _ _ => 1
  | .detaching => 1
  | .registering _ _ => 2

def Action.OfHandle : Action V T P → Prop
  | .pollReplace => True
  | .pollSettle => True
  | .dropReplace => True
  | _ => False

private theorem step_staying {action : Action V T P}
    (stepped : (machine visibility).step state action = some (next, events))
    (other : action ≠ .dropStore) (stays : ¬ state.handle.Leaving) : ¬ next.handle.Leaving := by
  cases action with
  | dropStore => exact absurd rfl other
  | wakeLoad value raw =>
      obtain ⟨_, _, ⟨_, rfl, _⟩ | ⟨_, rfl, _⟩ | ⟨_, rfl, _⟩⟩ := wakeLoad_cases stepped
      all_goals exact stays
  | wakeReplace => obtain ⟨_, _, rfl, _⟩ := wakeReplace_cases stepped; exact stays
  | wakeStore => obtain ⟨_, _, rfl, _⟩ := wakeStore_cases stepped; exact stays
  | wakeMatch => rw [(wakeMatch_frame stepped).2.2]; exact stays
  | wakeReturn => obtain ⟨_, rfl, _⟩ := wakeReturn_cases stepped; exact stays
  | pollLoad waker raw =>
      obtain ⟨_, _, ⟨_, rfl, _⟩ | ⟨_, rfl, _⟩ | ⟨_, rfl, _⟩⟩ := pollLoad_cases stepped
      · exact id
      · exact id
      · exact stays
  | pollReplace =>
      rcases pollReplace_cases stepped with ⟨_, _, rfl, _⟩ | ⟨_, _, _, _, _, rfl, _⟩ |
        ⟨_, _, _, _, rfl, _⟩ <;> exact id
  | pollSettle => obtain ⟨_, _, _, _, rfl, _⟩ := pollSettle_cases stepped; exact id
  | dropReplace =>
      obtain ⟨handle, _⟩ := dropReplace_cases stepped
      rw [handle] at stays
      exact absurd trivial stays

theorem staying_of_reaches {guard : Guard (State V T P) (Action V T P) (Event V T P)} {id : RawId}
    {config : Config (State V T P) (Event V T P)}
    (run : (machine visibility).Reaches guard (.initial (.new id)) config) :
    detachments config.trace = [] → ¬ config.state.handle.Leaving := by
  apply run.invariant
    (fun config => detachments config.trace = [] → ¬ config.state.handle.Leaving)
    fun _ leaving => leaving
  intro before action next events _reached stays _allowed stepped undetached
  rw [detachments, observe_append, List.append_eq_nil_iff] at undetached
  by_cases drops : action = .dropStore
  · subst drops
    obtain ⟨_, _, rfl⟩ := dropStore_cases stepped
    cases undetached.2
  · exact step_staying stepped drops (stays undetached.1)

private theorem handle_descends (visibility : Visibility) (running : 0 < state.handle.rank) :
    ∃ action next events, action.OfHandle ∧
      (machine visibility).step state action = some (next, events) ∧
        next.handle.rank < state.handle.rank := by
  cases handle : state.handle with
  | idle | dropped =>
      rw [handle] at running
      cases running
  | taking waker =>
      exact ⟨.pollReplace, _, _, trivial, pollReplace_taking visibility handle, Nat.zero_lt_one⟩
  | settling waker loaded value =>
      exact ⟨.pollSettle, _, _, trivial, pollSettle_settling visibility handle, Nat.zero_lt_one⟩
  | detaching =>
      have stepped : (machine visibility).step state .dropReplace =
          some ({ state with result := .detached, handle := .dropped },
            discardedOf state.result) := by
        simp only [machine, dropReplace, handle]
      exact ⟨.dropReplace, _, _, trivial, stepped, Nat.zero_lt_one⟩
  | registering waker loaded =>
      by_cases finished : ∃ value, state.result = .finished value
      · obtain ⟨value, result⟩ := finished
        exact ⟨.pollReplace, _, _, trivial, pollReplace_finished visibility handle result,
          Nat.one_lt_two⟩
      · exact ⟨.pollReplace, _, _, trivial, pollReplace_unfinished visibility handle finished,
          Nat.zero_lt_two⟩

end Joint

namespace TaskHandles

variable {visibility : Visibility} {task : TaskJoin.State W V T P}

/-! ### Calls of the handles return -/

def OfCall : TaskJoin.Action W V T P → Prop
  | .left action => action.OfCancel
  | .right action => action.OfHandle
  | .both _ => False

def callRank (task : TaskJoin.State W V T P) : Nat :=
  TaskFuture.cancelRank task.1 + task.2.handle.rank

theorem call_descends (visibility : Visibility) {trace : List (TaskFuture.Event W T P)}
    (owned : TaskFuture.Owned trace task.1) (running : returned task ≠ true) :
    ∃ action next events, OfCall action ∧
      (TaskJoin.machine visibility).step task action = some (next, events) ∧
        callRank next < callRank task := by
  by_cases calling : ∃ call ∈ task.1.cancels, call ≠ .returned
  · obtain ⟨stands, member, unreturned⟩ := calling
    obtain ⟨call, found⟩ := List.getElem?_of_mem member
    obtain ⟨action, next, events, ofCancel, stepped, lower⟩ :=
      TaskFuture.cancel_descends owned found unreturned
    have alone : TaskJoin.coupling.leftAlone task action = true := by
      cases action <;> first | rfl | cases ofCancel
    exact ⟨.left action, _, _, ofCancel, Machine.product_left alone stepped,
      Nat.add_lt_add_right lower _⟩
  · have busy : 0 < task.2.handle.rank := by
      by_contra idle
      apply running
      rw [returned, Bool.and_eq_true, List.all_eq_true]
      refine ⟨?_, ?_⟩
      · intro call member
        by_contra unreturned
        exact calling ⟨call, member, fun atEnd => unreturned (decide_eq_true atEnd)⟩
      · cases handle : task.2.handle with
        | idle | dropped => rfl
        | taking | registering | settling | detaching =>
            rw [handle] at idle
            exact absurd (Nat.zero_lt_succ _) idle
    obtain ⟨action, next, events, ofHandle, stepped, lower⟩ :=
      Joint.handle_descends visibility busy
    have alone : TaskJoin.coupling.rightAlone task action = true := by
      cases action <;> first | rfl | cases ofHandle
    exact ⟨.right action, _, _, ofHandle, Machine.product_right alone stepped,
      Nat.add_lt_add_left lower _⟩

/-! ### The `Cancellation` outlives the calls -/

variable {id : RawId} {guard : Guard (State W V T P) (Action W V T P) (Event W V T P)}
  {config : Config (State W V T P) (Event W V T P)}

private theorem step_present {task next : TaskJoin.State W V T P} {action : TaskJoin.Action W V T P}
    {events : List (TaskJoin.Event W V T P)}
    (stepped : (TaskJoin.machine visibility).step task action = some (next, events))
    (other : action ≠ .left .dropCancellation) :
    next.1.cancellationDropped = task.1.cancellationDropped := by
  cases productStep_of_step stepped with
  | left taskAction moved shown alone moves =>
      apply TaskFuture.step_present (TaskFuture.transition_of_step moves)
      intro same
      exact other (congrArg _ same)
  | right => rfl
  | both raw first second moved joint shown answers chosen moves answered =>
      simp only [TaskJoin.coupling] at chosen
      split at chosen
      · cases chosen
        exact TaskFuture.step_present (TaskFuture.transition_of_step moves) (by simp)
      · cases chosen

private theorem arcs_of_dropped
    (run : (machine visibility).Reaches guard (.initial (.new id)) config) :
    config.state.2.1.cancellationDropped = true → config.state.1.arcs = 0 := by
  apply run.invariant
    (fun config => config.state.2.1.cancellationDropped = true → config.state.1.arcs = 0) nofun
  intro before action next events reached kept _allowed stepped
  have equipped : Handles.Equipped before.state.1 := Handles.equipped_of_reaches reached.left
  -- While a call is still to be made there is an `Arc`.
  have calls {moved : Handles.State} {shown : List Handles.Event}
      (moves : Handles.call before.state.1 = some (moved, shown)) : 0 < before.state.1.arcs := by
    obtain ⟨head, rest, work, _⟩ := Handles.call_cases moves
    have arcs := equipped.arcs
    rw [work] at arcs
    exact arcs.1
  cases productStep_of_step stepped with
  | left handleAction moved shown alone moves =>
      intro dropped
      have gone := kept dropped
      cases handleAction with
      | operate operation =>
          obtain ⟨_, _, same, _⟩ := Handles.operate_cases moves
          exact same.trans gone
      | call => exact absurd gone (Nat.ne_of_gt (calls moves))
  | right taskAction moved shown alone moves =>
      by_cases drops : taskAction = .left .dropCancellation
      · subst drops
        intro _dropped
        exact of_decide_eq_true alone
      · rw [step_present moves drops]
        exact kept
  | both shared first second moved other shown answers chosen moves answered =>
      intro dropped
      simp only [coupling] at chosen
      split at chosen
      · split at chosen
        all_goals cases chosen
        all_goals
          rw [step_present answered (by simp)] at dropped
          exact absurd (kept dropped) (Nat.ne_of_gt (calls moves))
      · cases chosen

/-! ### Operations come to an end -/

/-- No operation begins, and the task takes no step of its own. -/
def callsOnly : Guard (State W V T P) (Action W V T P) (Event W V T P) := fun _ action =>
  match action with
  | .left (.operate _) => False
  | .left .call => True
  | .right action => OfCall action
  | .both _ => True

/-- How many steps a call takes at most, and one for its beginning. -/
def Call.rank : Call → Nat
  | .cancel => 6
  | .poll => 3
  | .detach => 2
  | _ => 1

def rank (state : State W V T P) : Nat := (state.1.work.map Call.rank).sum + callRank state.2

private theorem idle_of_returned
    (run : (machine visibility).Reaches guard (.initial (.new id)) config)
    (ended : returned config.state.2 = true)
    (undetached : (Handles.called config.left.trace).count .detach = 0) :
    config.state.2.2.handle = .idle := by
  have linked := linked_of_reaches run
  have none : Joint.detachments config.right.right.trace = [] := by
    apply List.eq_nil_of_length_eq_zero
    rw [linked.detaches, undetached]
  have stays : ¬ config.state.2.2.handle.Leaving :=
    Joint.staying_of_reaches (TaskJoin.joint_reaches run.right) none
  rw [returned, Bool.and_eq_true] at ended
  have between := ended.2
  cases handle : config.state.2.2.handle with
  | idle => rfl
  | dropped => rw [handle] at stays; exact absurd trivial stays
  | taking | registering | settling | detaching => rw [handle] at between; cases between

private theorem callRank_cancel (task : TaskJoin.State W V T P) :
    callRank ({ task.1 with cancels := task.1.cancels ++ [.loading] }, task.2) =
      callRank task + 5 := by
  simp only [callRank, TaskFuture.cancelRank, List.map_append, List.sum_append, List.map_cons,
    List.map_nil, List.sum_singleton, TaskFuture.CancelPoint.rank]
  omega

private theorem callRank_handle {task : TaskJoin.State W V T P} (idle : task.2.handle = .idle)
    (joint : Joint.State V T P) :
    callRank (task.1, joint) = callRank task + joint.handle.rank := by
  simp only [callRank, idle, Joint.HandlePoint.rank, Nat.add_zero]

private theorem rank_of_work {head : Call} {rest : List Call} {state : State W V T P}
    (work : state.1.work = head :: rest) :
    rank state = Call.rank head + (rest.map Call.rank).sum + callRank state.2 := by
  rw [rank, work, List.map_cons, List.sum_cons]

private theorem called_step {state : Handles.State} {head : Call} {rest : List Call}
    (work : state.work = head :: rest) : Handles.machine.step state .call =
      some ({ state with arcs := Handles.Call.arcs state.arcs head, work := rest },
        [.called head]) := by
  simp only [Handles.machine, Handles.call, work]

private theorem arc_step {head : Call} {rest : List Call}
    (work : config.state.1.work = head :: rest)
    (alone : coupling.leftAlone config.state .call = true) :
    ∃ next, (machine visibility).Step callsOnly config next ∧
      rank next.state < rank config.state := by
  have moves : (machine visibility).step config.state (.left .call) = some (({ config.state.1 with
      arcs := Handles.Call.arcs config.state.1.arcs head, work := rest }, config.state.2),
      [Handles.Event.called head].map .inl) := Machine.product_left alone (called_step work)
  have allowed : callsOnly config (.left .call : Action W V T P) := trivial
  have positive : 0 < Call.rank head := by cases head <;> exact Nat.zero_lt_succ _
  refine ⟨_, .mk allowed moves, ?_⟩
  rw [rank_of_work work]
  change (rest.map Call.rank).sum + callRank config.state.2 < _
  omega

private theorem shared_step (shared : V × Nat) {head : Call} {rest : List Call}
    {second : TaskJoin.Action W V T P} {other : TaskJoin.State W V T P}
    {answers : List (TaskJoin.Event W V T P)} (work : config.state.1.work = head :: rest)
    (chosen : coupling.together config.state shared = some (.call, second))
    (answered : (TaskJoin.machine visibility).step config.state.2 second = some (other, answers))
    (less : callRank other < Call.rank head + callRank config.state.2) :
    ∃ next, (machine visibility).Step callsOnly config next ∧
      rank next.state < rank config.state := by
  have moves : (machine visibility).step config.state (.both shared) = some (({ config.state.1 with
      arcs := Handles.Call.arcs config.state.1.arcs head, work := rest }, other),
      [Handles.Event.called head].map .inl ++ answers.map .inr) :=
    Machine.product_both chosen (called_step work) answered
  have allowed : callsOnly config (.both shared : Action W V T P) := trivial
  refine ⟨_, .mk allowed moves, ?_⟩
  rw [rank_of_work work]
  change (rest.map Call.rank).sum + callRank other < _
  omega

private theorem cancel_starts (shared : V × Nat) {rest : List Call}
    (run : (machine visibility).Reaches guard (.initial (.new id)) config)
    (work : config.state.1.work = .cancel :: rest) (ended : returned config.state.2 = true) :
    ∃ next, (machine visibility).Step callsOnly config next ∧
      rank next.state < rank config.state := by
  have equipped : Handles.Equipped config.state.1 := Handles.equipped_of_reaches run.left
  have arcs := equipped.arcs
  rw [work] at arcs
  have present : config.state.2.1.cancellationDropped = false := by
    rw [← Bool.not_eq_true]
    intro dropped
    exact Nat.ne_of_gt arcs.1 (arcs_of_dropped run dropped)
  have calls : TaskFuture.machine.step config.state.2.1 .cancel =
      some ({ config.state.2.1 with cancels := config.state.2.1.cancels ++ [.loading] }, []) := by
    simp [TaskFuture.machine, TaskFuture.cancel, present]
  have answered : (TaskJoin.machine visibility).step config.state.2 (.left .cancel) =
      some (({ config.state.2.1 with
        cancels := config.state.2.1.cancels ++ [.loading] }, config.state.2.2), []) :=
    Machine.product_left rfl calls
  apply shared_step shared work (by simp [coupling, work, ended]) answered
  rw [callRank_cancel, Nat.add_comm]
  exact Nat.add_lt_add_right (Nat.lt_succ_self 5) _

private theorem poll_starts (waker : V) {rest : List Call}
    (run : (machine visibility).Reaches guard (.initial (.new id)) config)
    (work : config.state.1.work = .poll :: rest) (ended : returned config.state.2 = true) :
    ∃ next, (machine visibility).Step callsOnly config next ∧
      rank next.state < rank config.state := by
  have equipped : Handles.Equipped config.state.1 := Handles.equipped_of_reaches run.left
  have ledger : Handles.Ledger config.left.trace config.state.1 :=
    Handles.ledger_of_reaches run.left
  have undetached : (Handles.called config.left.trace).count .detach = 0 := by
    have here : config.state.1.form.kind ≠ .gone := equipped.polled (by simp [work])
    have detaches := ledger.detaches
    rw [ledger.drops, if_neg here] at detaches
    omega
  have idle := idle_of_returned run ended undetached
  obtain ⟨point, _, _, polls⟩ := Joint.poll_starts visibility waker idle
    (Joint.coherent_of_reaches (TaskJoin.joint_reaches run.right)).stages
  have answered : (TaskJoin.machine visibility).step config.state.2
      (.right (.pollLoad waker config.state.2.2.stage.current)) =
      some ((config.state.2.1, { config.state.2.2 with handle := point }), []) :=
    Machine.product_right rfl polls
  apply shared_step (waker, config.state.2.2.stage.current) work
    (by simp [coupling, work, ended]) answered
  have within : point.rank ≤ 2 := by cases point <;> simp [Joint.HandlePoint.rank]
  rw [callRank_handle idle, Nat.add_comm]
  exact Nat.add_lt_add_right (Nat.lt_succ_of_le within) _

private theorem detach_starts (shared : V × Nat) {rest : List Call}
    (run : (machine visibility).Reaches guard (.initial (.new id)) config)
    (work : config.state.1.work = .detach :: rest) (ended : returned config.state.2 = true) :
    ∃ next, (machine visibility).Step callsOnly config next ∧
      rank next.state < rank config.state := by
  have ledger : Handles.Ledger config.left.trace config.state.1 :=
    Handles.ledger_of_reaches run.left
  have undetached : (Handles.called config.left.trace).count .detach = 0 := by
    have detaches := ledger.detaches
    rw [work, List.count_cons_self, ledger.drops] at detaches
    split at detaches <;> omega
  have idle := idle_of_returned run ended undetached
  have detaches : (Joint.machine visibility).step config.state.2.2 .dropStore =
      some ({ config.state.2.2 with
        stage := config.state.2.2.stage.store Stage.detached.toUsize
        handle := .detaching }, [.detachBegan]) := by
    simp only [Joint.machine, Joint.dropStore, idle]
  have answered : (TaskJoin.machine visibility).step config.state.2 (.right .dropStore) =
      some ((config.state.2.1, { config.state.2.2 with
        stage := config.state.2.2.stage.store Stage.detached.toUsize
        handle := .detaching }), [.inr .detachBegan]) := Machine.product_right rfl detaches
  apply shared_step shared work (by simp [coupling, work, ended]) answered
  rw [callRank_handle idle, Nat.add_comm]
  exact Nat.add_lt_add_right Nat.one_lt_two _

private theorem rest_descends (waker : V)
    (run : (machine visibility).Reaches guard (.initial (.new id)) config)
    (busy : ¬ AtRest config.state) :
    ∃ next, (machine visibility).Step callsOnly config next ∧
      rank next.state < rank config.state := by
  by_cases ended : returned config.state.2 = true
  · cases work : config.state.1.work with
    | nil => exact absurd ⟨work, ended⟩ busy
    | cons head rest =>
        cases head with
        | cancel => exact cancel_starts (waker, 0) run work ended
        | poll => exact poll_starts waker run work ended
        | detach => exact detach_starts (waker, 0) run work ended
        | cloneArc | dropArc => exact arc_step work (by simp [coupling, work, ended])
  · have owned : TaskFuture.Owned config.right.left.trace config.state.2.1 :=
      TaskFuture.owned_of_reaches (TaskJoin.task_reaches run.right)
    obtain ⟨action, next, events, ofCall, stepped, lower⟩ := call_descends visibility owned ended
    have alone : coupling.rightAlone config.state action = true := by
      cases action with
      | left action => cases action <;> first | rfl | cases ofCall
      | right action => cases action <;> first | rfl | cases ofCall
      | both => cases ofCall
    have moves : (machine visibility).step config.state (.right action) =
        some ((config.state.1, next), events.map .inr) := Machine.product_right alone stepped
    have allowed : callsOnly config (.right action : Action W V T P) := ofCall
    exact ⟨_, .mk allowed moves, Nat.add_lt_add_left lower _⟩

private theorem operations_callsOnly {later : Config (State W V T P) (Event W V T P)}
    (continued : (machine visibility).Reaches callsOnly config later) :
    Handles.operations later.left.trace = Handles.operations config.left.trace := by
  apply continued.invariant (fun later =>
    Handles.operations later.left.trace = Handles.operations config.left.trace) rfl
  intro before action next events _reached kept allowed stepped
  have silent : Handles.operations (lefts events) = [] := by
    cases productStep_of_step stepped with
    | left handleAction moved shown alone moves =>
        rw [lefts_map_inl]
        cases handleAction with
        | operate => cases allowed
        | call =>
            obtain ⟨_, _, _, rfl, _⟩ := Handles.call_cases moves
            rfl
    | right => rw [lefts_map_inr]; rfl
    | both shared first second moved other shown answers chosen moves answered =>
        rw [lefts_both]
        simp only [coupling] at chosen
        split at chosen
        · split at chosen
          all_goals cases chosen
          all_goals
            obtain ⟨_, _, _, rfl, _⟩ := Handles.call_cases moves
            rfl
        · cases chosen
  have sum : Handles.operations (lefts before.trace ++ lefts events) =
      Handles.operations (lefts before.trace) ++ Handles.operations (lefts events) :=
    observe_append _ _ _
  rw [Config.left_append, sum, silent, List.append_nil]
  exact kept

/-- Whatever state the task is in, the calls of the last operation can return. -/
theorem comes_to_rest (waker : V)
    (run : (machine visibility).Reaches guard (.initial (.new id)) config) :
    ∃ later, (machine visibility).Reaches callsOnly config later ∧ AtRest later.state ∧
      Handles.operations later.left.trace = Handles.operations config.left.trace := by
  have any := run.weaken fun _ _ _ => trivial
  obtain ⟨later, continued, rest⟩ : ∃ later, (machine visibility).Reaches callsOnly config later ∧
      AtRest later.state := by
    apply Machine.exists_reaches_of_descent (fun later => AtRest later.state)
      (fun later => rank later.state)
    intro later continued busy
    have reached : (machine visibility).Reaches .any (.initial (.new id)) later :=
      Relation.ReflTransGen.trans any (continued.weaken fun _ _ _ => trivial)
    exact rest_descends waker reached busy
  exact ⟨later, continued, rest, operations_callsOnly continued⟩

end TaskHandles

end Spawns
