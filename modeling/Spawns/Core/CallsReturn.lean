/-
Every call on a task or on its handle returns, in whatever order they take their steps.

What may take for ever is the code of others: here each poll of an inner future
answers and each waker returns, sooner or later. However the calls that have begun
take their steps, they take no more than a bound on each of them allows, and where
none can go on all of them have returned.
-/

import Spawns.Core.HandleProgress
import Spawns.Core.JointDelivery
import Spawns.Core.JointReference
import Spawns.Core.TaskJoinStep
import Spawns.Foundation.Family

namespace Spawns

open EventMachine BoxHeap

open Machine (reaches_of_exec)

variable {W V T P : Type}

/-! ### The effort of a task -/

namespace TaskFuture

variable {state next : State W T P} {trace events : List (Event W T P)} {action : Action W T P}

/-- How many steps a poll or a drop has still to take while the slot stays. -/
def Point.rank (slot : Slot) : Point W T P → Nat
  | .idle => 0
  | .dropped => 0
  | .dropping => 1
  | .storing _ => 1
  | .notifying _ => 2
  -- The steps of `Joint::wake` count from its call on.
  | .handing _ _ => 7
  | .finishing _ _ => 8
  | .rejecting _ => 9
  | .exchanging _ _ current => if slot = .cancelled ∨ slot.same current = true then 10 else 11
  | .loading _ _ => 12
  | .boxing _ => 13
  | .inner _ => 14
  | .polling _ => 15
  | .checking _ => 16

/-- The poll may still store a waker, and so send every call of `cancel` round again. -/
def Point.mayStore : Point W T P → Bool
  | .checking _ => true
  | .polling _ => true
  | .inner _ => true
  | .boxing _ => true
  | .loading _ _ => true
  | .exchanging _ _ _ => true
  | _ => false

/-- As far as a call of `cancel` can be sent round again, the step it takes then counts. -/
def CancelPoint.weight (slot : Slot) (mayStore : Bool) : CancelPoint → Nat
  | .returned => 0
  | call => call.rank slot + mayStore.toNat

def State.effort (state : State W T P) : Nat :=
  state.point.rank state.slot +
    (state.cancels.map (CancelPoint.weight state.slot state.point.mayStore)).sum

def Action.begins : Action W T P → Bool
  | .poll _ => true
  | .drop => true
  | .cancel => true
  | .dropCancellation => true
  | _ => false

def Action.ownStep : Action W T P → Bool
  | .callWake => false
  | .returnWake => false
  | _ => true

private theorem Point.rank_cancelled (slot : Slot) (point : Point W T P) :
    point.rank .cancelled ≤ point.rank slot := by
  cases point with
  | exchanging waker box current =>
      simp only [rank, true_or, if_true]
      split <;> omega
  | idle | checking | polling | inner | boxing | loading | storing | rejecting | finishing
  | handing | notifying | dropping | dropped => exact Nat.le_refl _

private theorem CancelPoint.weight_lt {slot changed : Slot} {moved stands : CancelPoint}
    (mayStore : Bool) (less : moved.rank changed < stands.rank slot) :
    moved.weight changed mayStore < stands.weight slot mayStore := by
  cases stands with
  | returned => exact absurd less (Nat.not_lt_zero _)
  | loading | exchanging | waking | freeing =>
      cases moved with
      | returned => exact Nat.lt_of_lt_of_le (Nat.zero_lt_of_lt less) (Nat.le_add_right _ _)
      | loading | exchanging | waking | freeing => exact Nat.add_lt_add_right less _

private theorem CancelPoint.weight_cancelled (slot : Slot) (mayStore : Bool) (call : CancelPoint) :
    call.weight .cancelled mayStore ≤ call.weight slot mayStore := by
  have lower := call.rank_cancelled slot
  cases call with
  | returned => exact Nat.le_refl 0
  | loading | exchanging | waking | freeing => exact Nat.add_le_add_right lower _

private theorem CancelPoint.weight_le {mayStore still : Bool} (slot : Slot)
    (stores : still = true → mayStore = true) (call : CancelPoint) :
    call.weight slot still ≤ call.weight slot mayStore := by
  have less : still.toNat ≤ mayStore.toNat := by
    cases still with
    | false => exact Nat.zero_le _
    | true => rw [stores rfl]
  cases call with
  | returned => exact Nat.le_refl 0
  | loading | exchanging | waking | freeing => exact Nat.add_le_add_left less _

private theorem CancelPoint.weight_stored (slot changed : Slot) (call : CancelPoint) :
    call.weight changed false ≤ call.weight slot true := by
  cases call with
  | exchanging current =>
      simp only [weight, rank, Bool.toNat_false, Bool.toNat_true]
      split <;> split <;> omega
  | returned => exact Nat.le_refl 0
  | loading | waking | freeing => exact Nat.le_succ _

private theorem effort_move {call : Nat} {stands : CancelPoint}
    (found : state.cancels[call]? = some stands) (moved : CancelPoint)
    (slot : next.slot = state.slot) (point : next.point = state.point)
    (cancels : next.cancels = state.cancels.set call moved)
    (less : moved.rank state.slot < stands.rank state.slot) : next.effort < state.effort := by
  rw [State.effort, State.effort, slot, point, cancels]
  exact Nat.add_lt_add_left
    (sum_set_lt found (CancelPoint.weight_lt _ less) fun _ => Nat.le_refl _) _

private theorem effort_claim {call : Nat} {stands : CancelPoint}
    (found : state.cancels[call]? = some stands) (moved : CancelPoint)
    (less : moved.rank .cancelled < stands.rank state.slot) :
    State.effort { state with slot := .cancelled, cancels := state.cancels.set call moved } <
      state.effort :=
  Nat.add_lt_add_of_le_of_lt (Point.rank_cancelled state.slot state.point)
    (sum_set_lt found (CancelPoint.weight_lt _ less) (CancelPoint.weight_cancelled state.slot _))

private theorem effort_advance (slot : next.slot = state.slot)
    (cancels : next.cancels = state.cancels)
    (stores : next.point.mayStore = true → state.point.mayStore = true)
    (less : next.point.rank state.slot < state.point.rank state.slot) :
    next.effort < state.effort := by
  rw [State.effort, State.effort, slot, cancels]
  exact Nat.add_lt_add_of_lt_of_le less
    (List.sum_le_sum fun call _ => CancelPoint.weight_le state.slot stores call)

private theorem step_effort (owned : Owned trace state)
    (transition : Transition state action next events) (begun : action.begins = false)
    (other : action ≠ .callWake) : next.effort < state.effort := by
  cases transition with
  | pollsFinished | pollStarts | dropFinishes | dropSkips | cancelStarts | cancellationDrops =>
      cases begun
  | wakeCalled => exact absurd rfl other
  | boxDangles waker box point spare dangling =>
      exact absurd (owned.live box (by simp [State.owners, spare])) dangling
  | cancelDangles call box found dangling =>
      have member : box ∈ state.owners := List.mem_append_right _
        (mem_held_of_getElem? CancelPoint.held found (by simp [CancelPoint.held]))
      exact absurd (owned.live box member) dangling
  | checkFinds _ point | checkPasses _ point | innerStarts _ point | innerPends _ point
  | innerEnds _ point | boxReused _ _ point | boxMade _ _ point | updateFinds _ _ point
  | updateReturns _ point | boxRejected _ point | futureDrops _ _ point
  | futurePanicsInPoll _ point | futurePanicsInDrop _ point | pollEnds point | dropEnds point
  | fieldsDropped point =>
      refine effort_advance ?slot ?cancels ?stores ?less
      case slot | cancels => rfl
      case stores => simp [Point.mayStore, point]
      case less => simp [Point.rank, point]
  | updateLoads _ _ point =>
      refine effort_advance ?slot ?cancels ?stores ?less
      case slot | cancels => rfl
      case stores => simp [Point.mayStore, point]
      case less => simp [Point.rank, point, Slot.same_self]
  | updateRejected _ _ _ point _ cancelled =>
      refine effort_advance ?slot ?cancels ?stores ?less
      case slot | cancels => rfl
      case stores => simp [Point.mayStore, point]
      case less => simp [Point.rank, point, cancelled]
  | updateRetries _ _ _ point changed uncancelled =>
      refine effort_advance ?slot ?cancels ?stores ?less
      case slot | cancels => rfl
      case stores => simp [Point.mayStore, point]
      case less => simp [Point.rank, point, Slot.same_self, changed, uncancelled]
  | updateStores waker box current point same =>
      rw [State.effort, State.effort, point]
      refine Nat.add_lt_add_of_lt_of_le ?_
        (List.sum_le_sum fun call _ => CancelPoint.weight_stored state.slot (.waker box) call)
      simp [Point.rank, same]
  | cancelFinds call found =>
      exact effort_move found .returned rfl rfl rfl (Nat.zero_lt_succ 4)
  | cancelLoads call found =>
      refine effort_move found _ rfl rfl rfl ?_
      simp [CancelPoint.rank, Slot.same_self]
  | cancelLoses call current found changed cancelled =>
      refine effort_move found _ rfl rfl rfl ?_
      simp [CancelPoint.rank, cancelled]
  | cancelRetries call current found changed uncancelled =>
      refine effort_move found _ rfl rfl rfl ?_
      simp [CancelPoint.rank, Slot.same_self, changed, uncancelled]
  | cancelWakes call box waker found =>
      exact effort_move found (.freeing box) rfl rfl rfl Nat.one_lt_two
  | cancelFrees call box found =>
      exact effort_move found .returned rfl rfl rfl Nat.zero_lt_one
  | cancelTakes call box found same =>
      apply effort_claim found
      simp [CancelPoint.rank, same]
  | cancelClaims call current found same =>
      apply effort_claim found
      simp [CancelPoint.rank, same]

def State.calling (state : State W T P) : Nat := state.cancels.countP (· ≠ .returned)

private theorem Point.rank_le (slot : Slot) (point : Point W T P) : point.rank slot ≤ 16 := by
  cases point with
  | exchanging waker box current =>
      simp only [rank]
      split <;> omega
  | idle | checking | polling | inner | boxing | loading | storing | rejecting | finishing
  | handing | notifying | dropping | dropped => simp only [rank]; omega

private theorem CancelPoint.weight_bound (slot : Slot) (mayStore : Bool) {call : CancelPoint}
    (calling : call ≠ .returned) : call.weight slot mayStore ≤ 6 := by
  have once := mayStore.toNat_le
  cases call with
  | returned => exact absurd rfl calling
  | exchanging current =>
      simp only [weight, rank]
      split <;> omega
  | loading | waking | freeing =>
      simp only [weight, rank]
      omega

private theorem weights_le (slot : Slot) (mayStore : Bool) (calls : List CancelPoint) :
    (calls.map (CancelPoint.weight slot mayStore)).sum ≤ 6 * calls.countP (· ≠ .returned) := by
  induction calls with
  | nil => exact Nat.le_refl 0
  | cons call rest ih =>
      rw [List.map_cons, List.sum_cons, List.countP_cons]
      by_cases returned : call = .returned
      · rw [returned]
        simpa [CancelPoint.weight] using ih
      · have here := CancelPoint.weight_bound slot mayStore returned
        rw [if_pos (decide_eq_true returned)]
        omega

private theorem effort_le (state : State W T P) : state.effort ≤ 16 + 6 * state.calling :=
  Nat.add_le_add (Point.rank_le state.slot state.point)
    (weights_le state.slot state.point.mayStore state.cancels)

/-! ### No poll and no drop gets stuck -/

/-- From some address on nothing is allocated. -/
def Roomy (state : State W T P) : Prop :=
  ∃ bound, ∀ address, bound ≤ address → state.heap address = none

private theorem free_freeBox {heap : Heap W} {address : Nat} (free : heap address = none)
    (box : Option Pointer) : freeBox heap box address = none := by
  cases box with
  | none => exact free
  | some pointer =>
      cases content : heap.read pointer with
      | none =>
          simp only [freeBox, content]
          exact free
      | some waker =>
          simp only [freeBox, content]
          by_cases here : address = pointer.address
          · rw [Heap.free, here, Function.update_self]
          · rw [Heap.free, Function.update_of_ne here]
            exact free

private theorem step_roomy (roomy : Roomy state)
    (transition : Transition state action next events) :
    Roomy next := by
  obtain ⟨bound, free⟩ := roomy
  have put (pointer : Pointer) (waker : W) : ∃ bound, ∀ address, bound ≤ address →
      state.heap.put pointer waker address = none := by
    refine ⟨max bound (pointer.address + 1), fun address past => ?_⟩
    rw [Heap.put, Function.update_of_ne (by omega)]
    exact free address (by omega)
  cases transition with
  | boxReused | boxMade => exact put _ _
  | boxRejected box | cancelFrees _ box =>
      exact ⟨bound, fun address past => free_freeBox (free address past) (some box)⟩
  | updateReturns | fieldsDropped | cancellationDrops =>
      exact ⟨bound, fun address past => free_freeBox (free address past) _⟩
  | pollsFinished | pollStarts | checkFinds | checkPasses | innerStarts | innerPends | innerEnds
  | boxDangles | updateFinds | updateLoads | updateStores | updateRejected | updateRetries
  | futureDrops | futurePanicsInPoll | futurePanicsInDrop | wakeCalled | pollEnds | dropEnds
  | dropFinishes | dropSkips | cancelStarts | cancelFinds | cancelLoads | cancelTakes
  | cancelClaims | cancelLoses | cancelRetries | cancelWakes | cancelDangles => exact ⟨bound, free⟩

theorem roomy_of_reaches {guard : Guard (State W T P) (Action W T P) (Event W T P)}
    {config : Config (State W T P) (Event W T P)}
    (run : machine.Reaches guard (.initial State.new) config) : Roomy config.state := by
  apply run.invariant (fun config => Roomy config.state) ⟨0, fun _ _ => rfl⟩
  intro before action next events _reached roomy _allowed stepped
  exact step_roomy roomy (transition_of_step stepped)

def Point.OnItsOwn : Point W T P → Prop
  | .idle => False
  | .dropped => False
  | .handing _ _ => False
  | .notifying _ => False
  | _ => True

private theorem point_goes_on (owned : Owned trace state) (roomy : Roomy state)
    (busy : state.point.OnItsOwn) :
    ∃ action, action.begins = false ∧ action.ownStep = true ∧
      (machine.step state action).isSome = true := by
  cases point : state.point with
  | idle | dropped | handing | notifying =>
      rw [point] at busy
      exact busy.elim
  | checking waker =>
      refine ⟨.check, rfl, rfl, ?_⟩
      simp only [machine, check, point]
      split <;> rfl
  | polling waker =>
      exact ⟨.pollInner, rfl, rfl, by simp [machine, pollInner, point]⟩
  | inner waker =>
      exact ⟨.innerReturn .pending, rfl, rfl, by simp [machine, innerReturn, point]⟩
  | boxing waker =>
      cases spare : state.waker with
      | some box =>
          obtain ⟨content, found⟩ := owned.live box (by simp [State.owners, spare])
          exact ⟨.reuseBox, rfl, rfl, by simp [machine, reuseBox, point, spare, found]⟩
      | none =>
          obtain ⟨bound, free⟩ := roomy
          exact ⟨.newBox bound, rfl, rfl,
            by simp [machine, newBox, point, spare, free bound (Nat.le_refl _)]⟩
  | loading waker box =>
      refine ⟨.updateLoad, rfl, rfl, ?_⟩
      simp only [machine, updateLoad, point]
      split <;> rfl
  | exchanging waker box current =>
      refine ⟨.updateExchange, rfl, rfl, ?_⟩
      simp only [machine, updateExchange, point]
      split
      · rfl
      · split <;> rfl
  | storing returned =>
      exact ⟨.updateReturn, rfl, rfl, by simp [machine, updateReturn, point]⟩
  | rejecting box =>
      exact ⟨.rejectBox, rfl, rfl, by simp [machine, rejectBox, point]⟩
  | finishing caller value =>
      exact ⟨.dropFuture false, rfl, rfl, by simp [machine, dropFuture, point]⟩
  | dropping =>
      exact ⟨.dropFields, rfl, rfl, by simp [machine, dropFields, point]⟩

end TaskFuture

/-! ### The effort of a joint -/

namespace Joint

variable {visibility : Visibility} {state next : State V T P} {action : Action V T P}
  {events : List (Event V T P)}

def WakePoint.rank : WakePoint V T P → Nat
  | .replacing _ => 4
  | .storing _ => 3
  | .matching _ => 2
  | .notifying => 1
  | _ => 0

def State.effort (state : State V T P) : Nat := state.wake.rank + state.handle.rank

private theorem effort_le (state : State V T P) : state.effort ≤ 6 := by
  have waking : state.wake.rank ≤ 4 := by
    cases state.wake <;> simp only [WakePoint.rank] <;> omega
  have calling : state.handle.rank ≤ 2 := by
    cases state.handle <;> simp only [HandlePoint.rank] <;> omega
  exact Nat.add_le_add waking calling

def Action.begins : Action V T P → Bool
  | .pollLoad _ _ => true
  | .dropStore => true
  | _ => false

def Action.ownStep : Action V T P → Bool
  | .wakeLoad _ _ => false
  | _ => true

private theorem wakeLoad_effort {value : TaskResult T P} {raw : Nat}
    (stepped : (machine visibility).step state (.wakeLoad value raw) = some (next, events)) :
    next.effort ≤ state.effort + 4 := by
  obtain ⟨wake, _, ⟨_, rfl, _⟩ | ⟨_, rfl, _⟩ | ⟨_, rfl, _⟩⟩ := wakeLoad_cases stepped <;>
    simp only [State.effort, WakePoint.rank] <;> omega

private theorem step_effort (stepped : (machine visibility).step state action = some (next, events))
    (begun : action.begins = false) (own : action.ownStep = true) :
    next.effort < state.effort := by
  cases action with
  | pollLoad | dropStore => cases begun
  | wakeLoad => cases own
  | wakeReplace =>
      obtain ⟨value, wake, rfl, _⟩ := wakeReplace_cases stepped
      simp only [State.effort, WakePoint.rank, wake]
      omega
  | wakeStore =>
      obtain ⟨previous, wake, rfl, _⟩ := wakeStore_cases stepped
      simp only [State.effort, WakePoint.rank, wake]
      omega
  | wakeMatch =>
      change wakeMatch state = some (next, events) at stepped
      unfold wakeMatch at stepped
      split at stepped <;> rename_i wake <;> cases stepped <;>
        simp only [State.effort, WakePoint.rank, wake] <;> omega
  | wakeReturn =>
      obtain ⟨wake, rfl, _⟩ := wakeReturn_cases stepped
      simp only [State.effort, WakePoint.rank, wake]
      omega
  | pollReplace =>
      rcases pollReplace_cases stepped with ⟨_, handle, rfl, _⟩ | ⟨_, _, _, handle, _, rfl, _⟩ |
        ⟨_, _, handle, _, rfl, _⟩ <;>
          simp only [State.effort, HandlePoint.rank, handle] <;> omega
  | pollSettle =>
      obtain ⟨_, _, _, handle, rfl, _⟩ := pollSettle_cases stepped
      simp only [State.effort, HandlePoint.rank, handle]
      omega
  | dropReplace =>
      obtain ⟨handle, rfl, _⟩ := dropReplace_cases stepped
      simp only [State.effort, HandlePoint.rank, handle]
      omega

private theorem wake_goes_on (visibility : Visibility) (running : 0 < state.wake.rank) :
    ∃ action, action.begins = false ∧ action.ownStep = true ∧
      ((machine visibility).step state action).isSome = true := by
  cases wake : state.wake with
  | notCalled | returned | panicked =>
      rw [wake] at running
      exact absurd running (Nat.lt_irrefl 0)
  | replacing value =>
      exact ⟨.wakeReplace, rfl, rfl, by simp [machine, wakeReplace, wake]⟩
  | storing previous =>
      exact ⟨.wakeStore, rfl, rfl, by simp [machine, wakeStore, wake]⟩
  | matching previous =>
      exact ⟨.wakeMatch, rfl, rfl, by cases previous <;> simp [machine, wakeMatch, wake]⟩
  | notifying =>
      exact ⟨.wakeReturn, rfl, rfl, by simp [machine, wakeReturn, wake]⟩

private theorem wakeLoad_goes_on (visibility : Visibility) {trace : List (Event V T P)}
    (stages : StageFacts trace state) (uncalled : state.wake = .notCalled)
    (value : TaskResult T P) : ∃ raw,
      ((machine visibility).step state (.wakeLoad value raw)).isSome = true := by
  have readable := state.stage.readable_current visibility
  obtain ⟨stage, valid⟩ := stages.valid readable.mem_values
  refine ⟨state.stage.current, ?_⟩
  cases stage <;> simp [machine, wakeLoad, uncalled, readable, valid]

end Joint

/-! ### A task beside its joint -/

namespace TaskJoin

variable {visibility : Visibility} {id : RawId} {state next : State W V T P}
  {action : Action W V T P} {events : List (Event W V T P)}
  {guard : Guard (State W V T P) (Action W V T P) (Event W V T P)}
  {config : Config (State W V T P) (Event W V T P)}

def begins : Action W V T P → Bool
  | .left action => action.begins
  | .right action => action.begins
  | .both _ => false

def effort (task : State W V T P) : Nat := task.1.effort + task.2.effort

/-- Steps enough for a poll or drop of the task, a call on its handle and its calls of `cancel`. -/
def callBound (task : State W V T P) : Nat := 22 + 6 * task.1.calling

private theorem effort_le_callBound (task : State W V T P) : effort task ≤ callBound task := by
  have own := TaskFuture.effort_le task.1
  have joint := Joint.effort_le task.2
  rw [effort, callBound]
  omega

structure AtRest (task : State W V T P) : Prop where
  poll : task.1.point = .idle ∨ task.1.point = .dropped
  cancels : ∀ call ∈ task.1.cancels, call = .returned
  handle : task.2.handle = .idle ∨ task.2.handle = .dropped
  wake : task.2.wake = .notCalled ∨ task.2.wake = .returned

private theorem step_effort {trace : List (TaskFuture.Event W T P)}
    (owned : TaskFuture.Owned trace state.1)
    (stepped : (machine visibility).step state action = some (next, events))
    (begun : begins action = false) : effort next < effort state := by
  cases productStep_of_step stepped with
  | left own moved shown alone moves =>
      have other : own ≠ .callWake := by
        rintro rfl
        cases alone
      have lower := TaskFuture.step_effort owned (TaskFuture.transition_of_step moves) begun other
      exact Nat.add_lt_add_right lower _
  | right own moved shown alone moves =>
      have its : own.ownStep = true := by
        cases own with
        | wakeLoad => cases alone
        | wakeReplace | wakeStore | wakeMatch | wakeReturn | pollLoad | pollReplace | pollSettle
        | dropStore | dropReplace => rfl
      exact Nat.add_lt_add_left (Joint.step_effort moves begun its) _
  | both raw first second moved other shown answers chosen moves answered =>
      simp only [coupling] at chosen
      split at chosen
      · rename_i caller value point
        cases chosen
        have grows := Joint.wakeLoad_effort answered
        cases TaskFuture.transition_of_step moves with
        | wakeCalled _ _ _ =>
            simp only [effort, TaskFuture.State.effort, point, TaskFuture.Point.rank,
              TaskFuture.Point.mayStore]
            omega
      · cases chosen

private theorem leftAlone_ownStep (state : State W V T P) {own : TaskFuture.Action W T P}
    (its : own.ownStep = true) : coupling.leftAlone state own = true := by
  cases own <;> first | rfl | cases its

private theorem isSome_left {own : TaskFuture.Action W T P}
    (alone : coupling.leftAlone state own = true)
    (steps : (TaskFuture.machine.step state.1 own).isSome = true) :
    ((machine visibility).step state (.left own)).isSome = true := by
  obtain ⟨⟨moved, shown⟩, moves⟩ := Option.isSome_iff_exists.mp steps
  rw [machine, Machine.product_left alone moves]
  rfl

private theorem isSome_right {own : Joint.Action V T P}
    (alone : coupling.rightAlone state own = true)
    (steps : ((Joint.machine visibility).step state.2 own).isSome = true) :
    ((machine visibility).step state (.right own)).isSome = true := by
  obtain ⟨⟨moved, shown⟩, moves⟩ := Option.isSome_iff_exists.mp steps
  rw [machine, Machine.product_right alone moves]
  rfl

private theorem handing_goes_on
    (run : (machine visibility).Reaches guard (.initial (.new id)) config)
    {caller : TaskFuture.Caller} {value : TaskResult T P}
    (point : config.state.1.point = .handing caller value) : ∃ action, begins action = false ∧
      ((machine visibility).step config.state action).isSome = true := by
  have unhanded : TaskFuture.handed config.left.trace = [] := by
    cases TaskFuture.progress_of_reaches (task_reaches run) with
    | running _ _ unhanded | finishing _ _ _ _ _ unhanded | handing _ _ _ _ _ unhanded
    | lost _ _ unhanded => exact unhanded
    | done _ _ _ _ here =>
        rw [show config.left.state.point = .handing caller value from point] at here
        cases here
  have uncalled := (linked_of_reaches run).uncalled unhanded
  obtain ⟨raw, loads⟩ := Joint.wakeLoad_goes_on visibility
    (Joint.coherent_of_reaches (joint_reaches run)).stages uncalled value
  obtain ⟨⟨moved, shown⟩, answered⟩ := Option.isSome_iff_exists.mp loads
  have calls : TaskFuture.machine.step config.state.1 .callWake =
      some ({ config.state.1 with point := .notifying caller }, [.handed value]) := by
    simp only [TaskFuture.machine, TaskFuture.callWake, point]
  have chosen : coupling.together config.state raw = some (.callWake, .wakeLoad value raw) := by
    simp only [coupling, point]
  refine ⟨.both raw, rfl, ?_⟩
  rw [machine, Machine.product_both chosen calls answered]
  rfl

private theorem notifying_goes_on
    (run : (machine visibility).Reaches guard (.initial (.new id)) config)
    {caller : TaskFuture.Caller} (point : config.state.1.point = .notifying caller)
    (rests : config.state.2.wake = .notCalled ∨ config.state.2.wake = .returned) :
    ∃ action, begins action = false ∧
      ((machine visibility).step config.state action).isSome = true := by
  have handed : TaskFuture.handed config.left.trace ≠ [] := by
    have here : config.left.state.point = .notifying caller := point
    cases TaskFuture.progress_of_reaches (task_reaches run) with
    | running _ running =>
        rw [here] at running
        cases running
    | finishing _ _ _ other | handing _ _ _ other =>
        rw [here] at other
        cases other
    | done _ _ _ _ _ split =>
        rw [split]
        simp
    | lost _ other =>
        rw [here] at other
        rcases other with other | other | other <;> cases other
  have returned : config.state.2.wake = .returned := by
    refine rests.resolve_left fun uncalled => handed ?_
    rw [← (linked_of_reaches run).calls]
    have phase := (Joint.coherent_of_reaches (joint_reaches run)).phase
    have waits : config.right.state.wake = .notCalled := uncalled
    exact (phase.waiting_facts (by rw [waits]; rfl)).2.2.2.1 waits
  have alone : coupling.leftAlone config.state .returnWake = true := by
    simp only [coupling, returned]
  refine ⟨.left .returnWake, rfl, isSome_left alone ?_⟩
  cases caller <;> simp [TaskFuture.machine, TaskFuture.returnWake, point]

private theorem point_goes_on (run : (machine visibility).Reaches guard (.initial (.new id)) config)
    (returned : TaskHandles.returned config.state = true)
    (rests : config.state.2.wake = .notCalled ∨ config.state.2.wake = .returned)
    (busy : ¬ AtRest config.state) : ∃ action, begins action = false ∧
      ((machine visibility).step config.state action).isSome = true := by
  by_cases own : config.state.1.point.OnItsOwn
  · obtain ⟨action, begun, its, steps⟩ := TaskFuture.point_goes_on
      (TaskFuture.owned_of_reaches (task_reaches run))
      (TaskFuture.roomy_of_reaches (task_reaches run)) own
    exact ⟨.left action, begun, isSome_left (leftAlone_ownStep _ its) steps⟩
  · rw [TaskHandles.returned, Bool.and_eq_true, List.all_eq_true] at returned
    have handle : config.state.2.handle = .idle ∨ config.state.2.handle = .dropped := by
      have between := returned.2
      cases handle : config.state.2.handle with
      | idle => exact .inl rfl
      | dropped => exact .inr rfl
      | taking | registering | settling | detaching =>
          rw [handle] at between
          cases between
    have cancels : ∀ call ∈ config.state.1.cancels, call = .returned := fun call member =>
      of_decide_eq_true (returned.1 call member)
    cases point : config.state.1.point with
    | idle => exact absurd ⟨.inl point, cancels, handle, rests⟩ busy
    | dropped => exact absurd ⟨.inr point, cancels, handle, rests⟩ busy
    | handing caller value => exact handing_goes_on run point
    | notifying caller => exact notifying_goes_on run point rests
    | checking | polling | inner | boxing | loading | exchanging | storing | rejecting | finishing
    | dropping =>
        rw [point] at own
        exact absurd trivial own

private theorem goes_on (run : (machine visibility).Reaches guard (.initial (.new id)) config)
    (busy : ¬ AtRest config.state) : ∃ action, begins action = false ∧
      ((machine visibility).step config.state action).isSome = true := by
  have owned := TaskFuture.owned_of_reaches (task_reaches run)
  have coherent := Joint.coherent_of_reaches (joint_reaches run)
  by_cases returned : TaskHandles.returned config.state = true
  · by_cases waking : 0 < config.state.2.wake.rank
    · obtain ⟨action, begun, its, steps⟩ := Joint.wake_goes_on visibility waking
      have alone : coupling.rightAlone config.state action = true := by
        cases action <;> first | rfl | cases its
      exact ⟨.right action, begun, isSome_right alone steps⟩
    · have rests : config.state.2.wake = .notCalled ∨ config.state.2.wake = .returned := by
        cases wake : config.state.2.wake with
        | notCalled => exact .inl rfl
        | returned => exact .inr rfl
        | panicked => exact absurd wake coherent.phase.not_panicked
        | replacing | storing | matching | notifying =>
            rw [wake] at waking
            exact absurd (Nat.zero_lt_succ _) waking
      exact point_goes_on run returned rests busy
  · obtain ⟨action, next, events, ofCall, stepped, _⟩ :=
      TaskHandles.call_descends visibility owned returned
    refine ⟨action, ?_, by rw [show (machine visibility).step _ _ = _ from stepped]; rfl⟩
    cases action with
    | left own => cases own <;> first | rfl | cases ofCall
    | right own => cases own <;> first | rfl | cases ofCall
    | both => cases ofCall

end TaskJoin

/-! ### Any number of tasks -/

namespace CallsReturn

abbrev Pool (W V T P : Type) := List (TaskJoin.State W V T P)

abbrev Action (W V T P : Type) := FamilyAction RawId (TaskJoin.Action W V T P)

abbrev Event (W V T P : Type) := FamilyEvent RawId (TaskJoin.Event W V T P)

def machine (visibility : Visibility) : Machine (Pool W V T P) (Action W V T P) (Event W V T P) :=
  (TaskJoin.machine visibility).family TaskJoin.State.new

def begins : Action W V T P → Bool
  | .create _ => true
  | .member _ action => TaskJoin.begins action

/-- Whoever takes the next step, it is one of a call that has begun. -/
def goesOn : Guard (Pool W V T P) (Action W V T P) (Event W V T P) := fun _ action =>
  begins action = false

instance (config : Config (Pool W V T P) (Event W V T P)) (action : Action W V T P) :
    Decidable (goesOn config action) := by
  unfold goesOn
  infer_instance

def effort (tasks : Pool W V T P) : Nat := (tasks.map TaskJoin.effort).sum

variable {visibility : Visibility} {guard : Guard (Pool W V T P) (Action W V T P) (Event W V T P)}
  {config : Config (Pool W V T P) (Event W V T P)}

private theorem effort_descends (run : (machine visibility).Reaches guard (.initial []) config)
    {action : Action W V T P} {next : Pool W V T P} {events : List (Event W V T P)}
    (stepped : (machine visibility).step config.state action = some (next, events))
    (begun : begins action = false) : effort next < effort config.state := by
  cases familyStep_of_step stepped with
  | creates => cases begun
  | moves index own before after shown found moves =>
      obtain ⟨id, _, reached⟩ := run.member found
      have owned := TaskFuture.owned_of_reaches (TaskJoin.task_reaches reached)
      have lower : TaskJoin.effort after < TaskJoin.effort before :=
        TaskJoin.step_effort owned moves begun
      exact sum_set_lt found lower fun _ => Nat.le_refl _

private theorem at_rest_of_stuck (run : (machine visibility).Reaches guard (.initial []) config)
    (stuck : ∀ action, begins action = false →
      (machine visibility).step config.state action = none) :
    ∀ task ∈ config.state, TaskJoin.AtRest task := by
  intro task member
  obtain ⟨index, found⟩ := List.mem_iff_getElem?.mp member
  obtain ⟨id, _, reached⟩ := run.member found
  by_contra busy
  obtain ⟨action, begun, steps⟩ := TaskJoin.goes_on reached busy
  obtain ⟨⟨next, events⟩, moves⟩ := Option.isSome_iff_exists.mp steps
  have moved : (machine visibility).step config.state (.member index action) =
      some (config.state.set index next, events.map (.member index)) :=
    Machine.family_member found moves
  rw [stuck (.member index action) begun] at moved
  cases moved

structure AllReturn (visibility : Visibility) (config : Config (Pool W V T P) (Event W V T P)) :
    Prop where
  bounded : ∀ schedule later, (machine visibility).exec goesOn config schedule = some later →
    schedule.length ≤ (config.state.map TaskJoin.callBound).sum
  returned : ∀ later, (machine visibility).Reaches goesOn config later →
    (∀ action, begins action = false → (machine visibility).step later.state action = none) →
    ∀ task ∈ later.state, TaskJoin.AtRest task

/-- However many tasks there are and however their calls interleave, with any number
of calls of `cancel` in each other's and in an update's way: the calls that are in
progress go on for a bounded number of steps, and then all of them have returned. -/
theorem all_calls_return (run : (machine visibility).Reaches guard (.initial []) config) :
    AllReturn visibility config := by
  have any := run.weaken fun _ _ _ => trivial
  have onward {later : Config (Pool W V T P) (Event W V T P)}
      (continued : (machine visibility).Reaches goesOn config later) :
      (machine visibility).Reaches .any (.initial []) later :=
    Relation.ReflTransGen.trans any (continued.weaken fun _ _ _ => trivial)
  constructor
  · intro schedule later executed
    have within := Machine.length_le_of_descent (fun config => effort config.state)
      (fun before next continued step => by
        cases step with
        | mk begun stepped => exact effort_descends (onward continued) stepped begun) executed
    have allowed : effort config.state ≤ (config.state.map TaskJoin.callBound).sum :=
      List.sum_le_sum fun task _ => TaskJoin.effort_le_callBound task
    omega
  · intro later continued stuck
    exact at_rest_of_stuck (onward continued) stuck

/-- A poll is about to store its waker, two calls of `cancel` and a poll of the handle
are under way, and the other task is dropped. -/
def contending : List (Action Nat Nat Nat Nat) :=
  [.create ⟨7⟩, .create ⟨8⟩, .member 0 (.left (.poll 1)), .member 0 (.left .check),
    .member 0 (.left .pollInner), .member 0 (.left (.innerReturn .pending)),
    .member 0 (.left (.newBox 3)), .member 0 (.left .updateLoad), .member 0 (.left .cancel),
    .member 0 (.left (.cancelLoad 0)), .member 0 (.left .cancel),
    .member 0 (.right (.pollLoad 9 0)), .member 1 (.left .drop)]

def returning : List (Action Nat Nat Nat Nat) :=
  [.member 0 (.left .updateExchange), .member 0 (.left (.cancelExchange 0)),
    .member 0 (.left (.cancelExchange 0)), .member 1 (.left (.dropFuture false)),
    .member 0 (.left (.cancelLoad 1)), .member 0 (.left (.cancelWake 0)), .member 1 (.both 0),
    .member 0 (.left .updateReturn), .member 1 (.right .wakeReplace),
    .member 1 (.right .wakeStore), .member 0 (.left (.cancelFree 0)),
    .member 0 (.right .pollReplace), .member 1 (.right .wakeMatch), .member 1 (.left .returnWake),
    .member 1 (.left .dropFields)]

theorem all_calls_return_contended : ∃ config later,
    (machine .latest).exec .any (.initial []) contending = some config ∧
    config.state.map TaskJoin.callBound = [34, 22] ∧
    (machine .latest).exec goesOn config returning = some later ∧
    later.state.map TaskJoin.effort = [0, 0] ∧ AllReturn .latest config := by
  have ran : ((machine .latest).exec .any (.initial []) contending).map (fun config =>
      (config.state.map TaskJoin.callBound, ((machine .latest).exec goesOn config returning).map
        fun later => later.state.map TaskJoin.effort)) = some ([34, 22], some [0, 0]) := by
    decide +kernel
  obtain ⟨config, executed, reads⟩ := Option.map_eq_some_iff.mp ran
  rw [Prod.mk.injEq] at reads
  obtain ⟨later, onward, rests⟩ := Option.map_eq_some_iff.mp reads.2
  exact ⟨config, later, executed, reads.1, onward, rests,
    all_calls_return (reaches_of_exec contending executed)⟩

end CallsReturn

end Spawns
