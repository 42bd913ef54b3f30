/-
`Cancellation` without its loops and boxes, and that every task simulates it.

In the reference a slot holds a waker itself, and `update` and `cancel` take it in
one step each. A call of `cancel` acts at the exchange that succeeds, or where it
finds `CANCELLED`; the loads before that, the failed exchanges and the boxes are
nothing that anyone else can see.
-/

import Spawns.Core.TaskCancel

namespace Spawns.TaskFuture

open EventMachine BoxHeap

open Machine (reaches_of_exec)

variable {W T P : Type}

namespace Reference

inductive Slot (W : Type) where
  | vacant
  | holding (waker : W)
  | cancelled
  deriving DecidableEq, Repr

inductive Point (W T P : Type) where
  | idle
  | checking (waker : W)
  | polling (waker : W)
  | inner (waker : W)
  | updating (waker : W)
  | stored
  | finishing (caller : Caller) (value : TaskResult T P)
  | handing (caller : Caller) (value : TaskResult T P)
  | notifying (caller : Caller)
  | dropping
  | dropped

inductive Call (W : Type) where
  | asked
  | waking (waker : W)
  | returned
  deriving DecidableEq, Repr

structure State (W T P : Type) where
  slot : Slot W
  hasFuture : Bool
  point : Point W T P
  calls : List (Call W)
  finished : Bool

inductive Action (W T P : Type) where
  | poll (waker : W)
  | check
  | pollInner
  | innerReturn (answer : InnerAnswer T P)
  | update
  | updateReturn
  | dropFuture (panics : Bool)
  | callWake
  | returnWake
  | drop
  | dropFields
  | cancel
  | take (call : Nat)
  | wake (call : Nat)
  | finish

def State.new : State W T P := ⟨.vacant, true, .idle, [], false⟩

def poll (state : State W T P) (waker : W) : Option (State W T P × List (Event W T P)) :=
  match state.point with
  | .idle =>
      if state.hasFuture then
        some ({ state with point := .checking waker }, [.pollStarted waker])
      else some (state, [.pollStarted waker, .pollReturned .ready])
  | _ => none

def check (state : State W T P) : Option (State W T P × List (Event W T P)) :=
  match state.point, state.slot with
  | .checking _, .cancelled =>
      some ({ state with point := .finishing .poll (.error .cancelled) }, [])
  | .checking waker, _ => some ({ state with point := .polling waker }, [])
  | _, _ => none

def pollInner (state : State W T P) : Option (State W T P × List (Event W T P)) :=
  match state.point with
  | .polling waker => some ({ state with point := .inner waker }, [.innerStarted])
  | _ => none

def innerReturn (state : State W T P) (answer : InnerAnswer T P) :
    Option (State W T P × List (Event W T P)) :=
  match state.point, answer with
  | .inner waker, .pending =>
      some ({ state with point := .updating waker }, [.innerReturned answer])
  | .inner _, .ready value =>
      some ({ state with point := .finishing .poll (.ok value) }, [.innerReturned answer])
  | .inner _, .panicked payload =>
      some ({ state with point := .finishing .poll (.error (.panic payload)) },
        [.innerReturned answer])
  | _, _ => none

/-- Stores the waker, unless the slot is cancelled. -/
def update (state : State W T P) : Option (State W T P × List (Event W T P)) :=
  match state.point, state.slot with
  | .updating _, .cancelled =>
      some ({ state with point := .finishing .poll (.error .cancelled) }, [])
  | .updating waker, _ =>
      some ({ state with slot := .holding waker, point := .stored }, [.stored waker])
  | _, _ => none

def updateReturn (state : State W T P) : Option (State W T P × List (Event W T P)) :=
  match state.point with
  | .stored => some ({ state with point := .idle }, [.pollReturned .pending])
  | _ => none

def dropFuture (state : State W T P) (panics : Bool) :
    Option (State W T P × List (Event W T P)) :=
  match state.point, panics with
  | .finishing .poll _, true =>
      some ({ state with hasFuture := false, point := .idle },
        [.futureDropped true, .pollReturned .unwound])
  | .finishing .drop _, true =>
      some ({ state with hasFuture := false, point := .dropping }, [.futureDropped true])
  | .finishing caller value, false =>
      some ({ state with hasFuture := false, point := .handing caller value },
        [.futureDropped false])
  | _, _ => none

def callWake (state : State W T P) : Option (State W T P × List (Event W T P)) :=
  match state.point with
  | .handing caller value => some ({ state with point := .notifying caller }, [.handed value])
  | _ => none

def returnWake (state : State W T P) : Option (State W T P × List (Event W T P)) :=
  match state.point with
  | .notifying .poll => some ({ state with point := .idle }, [.pollReturned .ready])
  | .notifying .drop => some ({ state with point := .dropping }, [])
  | _ => none

def drop (state : State W T P) : Option (State W T P × List (Event W T P)) :=
  match state.point with
  | .idle =>
      if state.hasFuture then
        some ({ state with point := .finishing .drop (.error .cancelled) }, [.dropBegan true])
      else some ({ state with point := .dropping }, [.dropBegan false])
  | _ => none

def dropFields (state : State W T P) : Option (State W T P × List (Event W T P)) :=
  match state.point with
  | .dropping => some ({ state with point := .dropped }, [])
  | _ => none

def cancel (state : State W T P) : Option (State W T P × List (Event W T P)) :=
  if state.finished then none else some ({ state with calls := state.calls ++ [.asked] }, [])

/-- Cancels, and takes the waker out that is to be woken. -/
def take (state : State W T P) (call : Nat) : Option (State W T P × List (Event W T P)) :=
  match state.calls[call]?, state.slot with
  | some .asked, .cancelled =>
      some ({ state with calls := state.calls.set call .returned }, [])
  | some .asked, .vacant =>
      some ({ state with slot := .cancelled, calls := state.calls.set call .returned },
        [.cancelled call])
  | some .asked, .holding waker =>
      some ({ state with slot := .cancelled, calls := state.calls.set call (.waking waker) },
        [.cancelled call])
  | _, _ => none

def wake (state : State W T P) (call : Nat) : Option (State W T P × List (Event W T P)) :=
  match state.calls[call]? with
  | some (.waking waker) =>
      some ({ state with calls := state.calls.set call .returned }, [.woke call waker])
  | _ => none

def finish (state : State W T P) : Option (State W T P × List (Event W T P)) :=
  match state.point with
  | .dropped => if state.finished then none else some ({ state with finished := true }, [])
  | _ => none

def machine : Machine (State W T P) (Action W T P) (Event W T P) where
  step state
    | .poll waker => poll state waker
    | .check => check state
    | .pollInner => pollInner state
    | .innerReturn answer => innerReturn state answer
    | .update => update state
    | .updateReturn => updateReturn state
    | .dropFuture panics => dropFuture state panics
    | .callWake => callWake state
    | .returnWake => returnWake state
    | .drop => drop state
    | .dropFields => dropFields state
    | .cancel => cancel state
    | .take call => take state call
    | .wake call => wake state call
    | .finish => finish state

end Reference

/-! ### What the reference sees of a task -/

/-- What anyone but the loops and the allocator can see. -/
@[simp] def Event.visible? : Event W T P → Option (Event W T P)
  | .updateMissed => none
  | .cancelMissed _ => none
  | .allocated _ => none
  | .released _ => none
  | .invalidAccess _ => none
  | event => some event

abbrev visible (trace : List (Event W T P)) : List (Event W T P) := observe Event.visible? trace

abbrev lastStored (trace : List (Event W T P)) : Option W := (stores trace).getLast?

@[simp] def slotView (last : Option W) : Slot → Reference.Slot W
  | .null => .vacant
  | .cancelled => .cancelled
  | .waker _ => last.elim .vacant .holding

@[simp] def Point.view : Point W T P → Reference.Point W T P
  | .idle => .idle
  | .checking waker => .checking waker
  | .polling waker => .polling waker
  | .inner waker => .inner waker
  | .boxing waker => .updating waker
  | .loading waker _ => .updating waker
  | .exchanging waker _ _ => .updating waker
  | .storing _ => .stored
  | .rejecting _ => .finishing .poll (.error .cancelled)
  | .finishing caller value => .finishing caller value
  | .handing caller value => .handing caller value
  | .notifying caller => .notifying caller
  | .dropping => .dropping
  | .dropped => .dropped

@[simp] def CancelPoint.view (last : Option W) : CancelPoint → Reference.Call W
  | .loading => .asked
  | .exchanging _ => .asked
  | .waking _ => last.elim .returned .waking
  | .freeing _ => .returned
  | .returned => .returned

@[simp] def State.view (last : Option W) (state : State W T P) : Reference.State W T P where
  slot := slotView last state.slot
  hasFuture := state.hasFuture
  point := state.point.view
  calls := state.cancels.map (CancelPoint.view last)
  finished := state.cancellationDropped

/-! ### The calls and the waker stored last -/

variable {trace events : List (Event W T P)} {state next : State W T P} {action : Action W T P}
  {guard : Guard (State W T P) (Action W T P) (Event W T P)}
  {config : Config (State W T P) (Event W T P)}

private theorem visible_freeEvents (heap : Heap W) (box : Option Pointer) :
    visible (freeEvents heap box : List (Event W T P)) = [] :=
  observe_freeEvents (fun _ => rfl) (fun _ => rfl) heap box

theorem lastStored_append (silent : stores events = []) :
    lastStored (trace ++ events) = lastStored trace := by
  simp only [lastStored, observe_append, silent, List.append_nil]

private theorem getElem?_view {last : Option W} {cancels : List CancelPoint} {call : Nat}
    {point : CancelPoint} (found : cancels[call]? = some point) :
    (cancels.map (CancelPoint.view last))[call]? = some (point.view last) := by
  rw [List.getElem?_map, found]
  rfl

private theorem view_calls {first second : Option W} {cancels : List CancelPoint}
    (unwaking : ∀ call ∈ cancels, ∀ box, call ≠ .waking box) :
    cancels.map (CancelPoint.view first) = cancels.map (CancelPoint.view second) := by
  apply List.map_congr_left
  intro call member
  cases call with
  | waking box => exact absurd rfl (unwaking _ member box)
  | loading | exchanging | freeing | returned => rfl

theorem State.view_still {last : Option W} {call : Nat} {old new : CancelPoint}
    (found : state.cancels[call]? = some old) (same : new.view last = old.view last) :
    State.view last { state with cancels := state.cancels.set call new } = state.view last := by
  have calls : (state.cancels.set call new).map (CancelPoint.view last) =
      state.cancels.map (CancelPoint.view last) := by
    rw [List.map_set, same]
    apply List.ext_getElem?
    intro other
    rw [List.getElem?_set]
    split
    · rename_i here
      subst here
      rw [getElem?_view found]
      split <;> simp_all
    · rfl
  simp only [State.view, calls]

private theorem Contents.last {box : Pointer} (contents : Contents trace state)
    (owned : Owned trace state) (present : state.cancellationDropped = false)
    (slot : state.slot = .waker box) : ∃ waker, lastStored trace = some waker := by
  obtain ⟨waker, found⟩ := owned.live box (State.slot_mem_owners present slot)
  exact ⟨waker, (contents.stored box slot present).symm.trans found⟩

/-! ### Every step is a step of the reference, or none -/

def Answered (trace events : List (Event W T P)) (state next : State W T P) : Prop :=
  (visible events = [] ∧
      next.view (lastStored (trace ++ events)) = state.view (lastStored trace)) ∨
    ∃ act, Reference.machine.step (state.view (lastStored trace)) act =
      some (next.view (lastStored (trace ++ events)), visible events)

theorem step_answered (contents : Contents trace state) (owned : Owned trace state)
    (guarded : Guarded state) (cancelling : Cancelling trace state)
    (transition : Transition state action next events) : Answered trace events state next := by
  have still (silent : stores events = []) : lastStored (trace ++ events) = lastStored trace :=
    lastStored_append silent
  have freed (heap : Heap W) (box : Option Pointer) :
      stores (freeEvents heap box : List (Event W T P)) = [] := (idle_freeEvents heap box).unstored
  have hidden (heap : Heap W) (box : Option Pointer) :
      visible (freeEvents heap box : List (Event W T P)) = [] := visible_freeEvents heap box
  cases transition with
  | pollsFinished waker point done =>
      refine .inr ⟨.poll waker, ?_⟩
      rw [still rfl]
      simp [Reference.machine, Reference.poll, point, done]
  | pollStarts waker point unfinished =>
      refine .inr ⟨.poll waker, ?_⟩
      rw [still rfl]
      simp [Reference.machine, Reference.poll, point, unfinished]
  | checkFinds waker point cancelled =>
      refine .inr ⟨.check, ?_⟩
      rw [still rfl]
      simp [Reference.machine, Reference.check, point, cancelled]
  | checkPasses waker point uncancelled =>
      refine .inr ⟨.check, ?_⟩
      rw [still rfl]
      cases slot : state.slot with
      | cancelled => exact absurd slot uncancelled
      | null => simp [Reference.machine, Reference.check, point, slot]
      | waker box =>
          cases lastStored trace with
          | none => simp [Reference.machine, Reference.check, point, slot]
          | some stored => simp [Reference.machine, Reference.check, point, slot]
  | innerStarts waker point =>
      refine .inr ⟨.pollInner, ?_⟩
      rw [still rfl]
      simp [Reference.machine, Reference.pollInner, point]
  | innerPends waker point =>
      refine .inr ⟨.innerReturn .pending, ?_⟩
      rw [still rfl]
      simp [Reference.machine, Reference.innerReturn, point]
  | innerEnds waker point answer value ends =>
      refine .inr ⟨.innerReturn answer, ?_⟩
      rw [still rfl]
      rcases ends with ⟨output, rfl, rfl⟩ | ⟨payload, rfl, rfl⟩
      · simp [Reference.machine, Reference.innerReturn, point]
      · simp [Reference.machine, Reference.innerReturn, point]
  | boxReused waker box point | boxMade waker address point =>
      refine .inl ⟨rfl, ?_⟩
      rw [still rfl]
      simp [point]
  | boxDangles => exact .inl ⟨rfl, by rw [still rfl]⟩
  | updateFinds waker box point cancelled =>
      refine .inr ⟨.update, ?_⟩
      rw [still rfl]
      simp [Reference.machine, Reference.update, point, cancelled]
  | updateRejected waker box current point _ cancelled =>
      refine .inr ⟨.update, ?_⟩
      rw [still rfl]
      simp [Reference.machine, Reference.update, point, cancelled]
  | updateLoads waker box point | updateRetries waker box current point =>
      refine .inl ⟨rfl, ?_⟩
      rw [still rfl]
      simp [point]
  | updateStores waker box current point same =>
      have uncancelled := guarded.uncancelled point same
      have calls : state.cancels.map (CancelPoint.view (some waker)) =
          state.cancels.map (CancelPoint.view (lastStored trace)) := by
        apply view_calls
        rintro call member box rfl
        exact uncancelled (guarded.calls _ member)
      have last : lastStored (trace ++ [.stored waker]) = some waker := by
        rw [lastStored, stores, observe_append]
        exact List.getLast?_concat
      refine .inr ⟨.update, ?_⟩
      rw [last]
      cases slot : state.slot with
      | cancelled => exact absurd slot uncancelled
      | null => simp [Reference.machine, Reference.update, point, slot, calls]
      | waker box =>
          cases first : lastStored trace <;>
            simp_all [Reference.machine, Reference.update]
  | updateReturns returned point =>
      refine .inr ⟨.updateReturn, ?_⟩
      have shown : visible (freeEvents state.heap state.waker ++ [.pollReturned .pending]) =
          ([.pollReturned .pending] : List (Event W T P)) := by
        rw [visible, observe_append, ← visible, hidden]
        rfl
      rw [still (idle_updateReturn _ _).unstored, shown]
      simp [Reference.machine, Reference.updateReturn, point]
  | boxRejected box point =>
      refine .inl ⟨hidden _ _, ?_⟩
      rw [still (freed _ _)]
      simp [point]
  | futureDrops caller value point =>
      refine .inr ⟨.dropFuture false, ?_⟩
      rw [still rfl]
      cases caller <;> simp [Reference.machine, Reference.dropFuture, point]
  | futurePanicsInPoll value point | futurePanicsInDrop value point =>
      refine .inr ⟨.dropFuture true, ?_⟩
      rw [still rfl]
      simp [Reference.machine, Reference.dropFuture, point]
  | wakeCalled caller value point =>
      refine .inr ⟨.callWake, ?_⟩
      rw [still rfl]
      simp [Reference.machine, Reference.callWake, point]
  | pollEnds point | dropEnds point =>
      refine .inr ⟨.returnWake, ?_⟩
      rw [still rfl]
      simp [Reference.machine, Reference.returnWake, point]
  | dropFinishes point future | dropSkips point future =>
      refine .inr ⟨.drop, ?_⟩
      rw [still rfl]
      simp [Reference.machine, Reference.drop, point, future]
  | fieldsDropped point =>
      refine .inr ⟨.dropFields, ?_⟩
      rw [still (freed _ _), hidden]
      simp [Reference.machine, Reference.dropFields, point]
  | cancelStarts present =>
      refine .inr ⟨.cancel, ?_⟩
      rw [still rfl]
      simp [Reference.machine, Reference.cancel, present]
  | cancelFinds call found cancelled =>
      refine .inr ⟨.take call, ?_⟩
      rw [still rfl]
      simp [Reference.machine, Reference.take, found, cancelled, List.map_set]
  | cancelLoads call found | cancelRetries call current found =>
      refine .inl ⟨rfl, ?_⟩
      rw [still rfl]
      exact State.view_still found rfl
  | cancelTakes call box found same =>
      have slot := owned.exchanged_call found same
      obtain ⟨waker, last⟩ := contents.last owned (guarded.present found (by simp)) slot
      refine .inr ⟨.take call, ?_⟩
      rw [still rfl, last]
      simp [Reference.machine, Reference.take, found, slot, List.map_set]
  | cancelClaims call current found same empty =>
      have null := owned.null_of_exchanged guarded found same empty
      refine .inr ⟨.take call, ?_⟩
      rw [still rfl]
      simp [Reference.machine, Reference.take, found, null, List.map_set]
  | cancelLoses call current found _ cancelled =>
      refine .inr ⟨.take call, ?_⟩
      rw [still rfl]
      simp [Reference.machine, Reference.take, found, cancelled, List.map_set]
  | cancelWakes call box waker found content =>
      have last : lastStored trace = some waker :=
        (cancelling.read_waking guarded found).symm.trans content
      refine .inr ⟨.wake call, ?_⟩
      rw [still rfl, last]
      simp [Reference.machine, Reference.wake, found, List.map_set]
  | cancelDangles => exact .inl ⟨rfl, by rw [still rfl]⟩
  | cancelFrees call box found =>
      refine .inl ⟨hidden _ _, ?_⟩
      rw [still (freed _ _)]
      exact State.view_still found rfl
  | cancellationDrops point present atEnd =>
      refine .inr ⟨.finish, ?_⟩
      rw [still (freed _ _), hidden]
      simp [Reference.machine, Reference.finish, point, present]

/-- Every task does what the reference does, with the same visible events: `update`
and `cancel` act as if each were one step, and as if the slot held the waker. -/
theorem cancellation_is_atomic (run : machine.Reaches guard (.initial State.new) config) :
    Reference.machine.Reaches .any (.initial .new)
      ⟨visible config.trace, config.state.view (lastStored config.trace)⟩ := by
  refine run.invariant (fun reached => Reference.machine.Reaches .any (.initial .new)
    ⟨visible reached.trace, reached.state.view (lastStored reached.trace)⟩) .refl ?_
  intro reached action next events before simulated _allowed stepped
  have answered : Answered reached.trace events reached.state next :=
    step_answered (contents_of_reaches before) (owned_of_reaches before)
      (guarded_of_reaches before) (cancelling_of_reaches before) (transition_of_step stepped)
  have shown : visible (reached.trace ++ events) = visible reached.trace ++ visible events :=
    observe_append _ _ _
  rw [shown]
  rcases answered with ⟨hidden, same⟩ | ⟨act, moves⟩
  · rw [hidden, same, List.append_nil]
    exact simulated
  · exact simulated.tail (.mk trivial moves)

/-- Two calls race with each other and with an `update` that loses to them. -/
def cancelWithinUpdate : List (Action Nat Nat Nat) :=
  [.poll 1, .check, .pollInner, .innerReturn .pending, .newBox 8, .updateLoad, .updateExchange,
    .updateReturn, .poll 2, .check, .pollInner, .innerReturn .pending, .newBox 9, .updateLoad,
    .cancel, .cancel, .cancelLoad 0, .cancelLoad 1, .cancelExchange 1, .cancelExchange 0,
    .updateExchange, .cancelWake 1, .cancelFree 1]

theorem cancellation_is_atomic_within_update :
    ∃ config, machine.exec .any (.initial State.new) cancelWithinUpdate = some config ∧
      visible config.trace =
        [.pollStarted 1, .innerStarted, .innerReturned .pending, .stored 1,
          .pollReturned .pending, .pollStarted 2, .innerStarted, .innerReturned .pending,
          .cancelled 1, .woke 1 1] ∧
      Reference.machine.Reaches .any (.initial .new)
        ⟨visible config.trace, config.state.view (lastStored config.trace)⟩ := by
  have ran : (machine.exec .any (.initial State.new) cancelWithinUpdate).map
      (fun config => visible config.trace) =
        some [.pollStarted 1, .innerStarted, .innerReturned .pending, .stored 1,
          .pollReturned .pending, .pollStarted 2, .innerStarted, .innerReturned .pending,
          .cancelled 1, .woke 1 1] := by rfl
  obtain ⟨config, executed, shown⟩ := Option.map_eq_some_iff.mp ran
  exact ⟨config, executed, shown,
    cancellation_is_atomic (reaches_of_exec cancelWithinUpdate executed)⟩

end Spawns.TaskFuture
