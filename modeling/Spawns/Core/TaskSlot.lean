/-
The cancellation slot and the points that depend on it.

`CANCELLED` is never overwritten: no loop compares against it, and every call
that has seen it, or put it in, leaves a trace in its own point.
-/

import Spawns.Core.TaskStep

namespace Spawns.TaskFuture

open EventMachine BoxHeap

variable {W T P : Type} {trace events : List (Event W T P)} {state next : State W T P}

def CancelPoint.Seen (slot : Slot) : CancelPoint → Prop
  | .loading => True
  | .exchanging current => current ≠ .cancelled
  | .waking _ => slot = .cancelled
  | .freeing _ => slot = .cancelled
  | .returned => slot = .cancelled

def Point.Seen (slot : Slot) : Point W T P → Prop
  | .exchanging _ _ current => current ≠ .cancelled
  | .rejecting _ => slot = .cancelled
  | _ => True

def Point.Boxed : Point W T P → Prop
  | .loading _ _ => True
  | .exchanging _ _ _ => True
  | .storing _ => True
  | .rejecting _ => True
  | _ => False

structure Guarded (state : State W T P) : Prop where
  calls : ∀ call ∈ state.cancels, call.Seen state.slot
  point : state.point.Seen state.slot
  taken : state.point.Boxed → state.waker = none
  atEnd : state.cancellationDropped = true →
    state.point = .dropped ∧ ∀ call ∈ state.cancels, call = .returned

private theorem CancelPoint.Seen.of_cancelled {slot : Slot} {call : CancelPoint}
    (seen : call.Seen slot) :
    call.Seen .cancelled := by
  cases call with
  | loading => trivial
  | exchanging => exact seen
  | waking | freeing | returned => rfl

private theorem Point.Seen.of_cancelled {slot : Slot} {point : Point W T P}
    (seen : point.Seen slot) :
    point.Seen .cancelled := by
  cases point with
  | exchanging => exact seen
  | rejecting => rfl
  | idle | checking | polling | inner | boxing | loading | storing | finishing | handing
  | notifying | dropping | dropped => trivial

theorem Guarded.uncancelled {waker : W} {box : Pointer} {current : Slot} (guarded : Guarded state)
    (point : state.point = .exchanging waker box current) (same : state.slot.same current = true) :
    state.slot ≠ .cancelled := by
  intro cancelled
  have seen := guarded.point
  rw [point] at seen
  rw [cancelled] at same
  cases current with
  | cancelled => exact seen rfl
  | null | waker => cases same

theorem Guarded.uncancelled_call {call : Nat} {current : Slot} (guarded : Guarded state)
    (found : state.cancels[call]? = some (.exchanging current))
    (same : state.slot.same current = true) : state.slot ≠ .cancelled := by
  intro cancelled
  have seen := guarded.calls _ (List.mem_of_getElem? found)
  rw [cancelled] at same
  cases current with
  | cancelled => exact seen rfl
  | null | waker => cases same

/-- No call of `cancel` and no poll runs beside the drop of the `Cancellation`. -/
theorem Guarded.present {call : Nat} {point : CancelPoint} (guarded : Guarded state)
    (found : state.cancels[call]? = some point) (running : point ≠ .returned) :
    state.cancellationDropped = false := by
  by_contra gone
  have atEnd := (guarded.atEnd (Bool.not_eq_false _ ▸ gone)).2
  exact running (atEnd _ (List.mem_of_getElem? found))

theorem Guarded.present_of_point (guarded : Guarded state) (running : state.point ≠ .dropped) :
    state.cancellationDropped = false := by
  by_contra gone
  exact running (guarded.atEnd (Bool.not_eq_false _ ▸ gone)).1

theorem step_guarded {action : Action W T P} (guarded : Guarded state)
    (transition : Transition state action next events) : Guarded next := by
  have calls_set (call : Nat) (point : CancelPoint) (seen : point.Seen state.slot) :
      ∀ other ∈ state.cancels.set call point, other.Seen state.slot := by
    intro other member
    rcases List.mem_or_eq_of_mem_set member with old | rfl
    · exact guarded.calls other old
    · exact seen
  have calls_cancelled (call : Nat) (point : CancelPoint) (seen : point.Seen .cancelled) :
      ∀ other ∈ state.cancels.set call point, other.Seen .cancelled := by
    intro other member
    rcases List.mem_or_eq_of_mem_set member with old | rfl
    · exact (guarded.calls other old).of_cancelled
    · exact seen
  -- A task that still runs keeps the `Cancellation` alive.
  have alive (running : state.point ≠ .dropped) {goal : Prop}
      (gone : state.cancellationDropped = true) : goal := by
    rw [guarded.present_of_point running] at gone
    cases gone
  cases transition with
  | pollsFinished => exact guarded
  | pollStarts _ point | checkFinds _ point | checkPasses _ point | innerStarts _ point
  | innerPends _ point | innerEnds _ point | futureDrops _ _ point | futurePanicsInPoll _ point
  | futurePanicsInDrop _ point | wakeCalled _ _ point | pollEnds point | dropEnds point
  | dropFinishes point | dropSkips point =>
      exact ⟨guarded.calls, trivial, False.elim, alive (by simp [point])⟩
  | boxReused _ _ point => exact ⟨guarded.calls, trivial, fun _ => rfl, alive (by simp [point])⟩
  | boxDangles => exact guarded
  | boxMade _ _ point spare =>
      exact ⟨guarded.calls, trivial, fun _ => spare, alive (by simp [point])⟩
  | updateFinds _ _ point cancelled =>
      exact ⟨guarded.calls, cancelled, fun _ => guarded.taken (by rw [point]; trivial),
        alive (by simp [point])⟩
  | updateLoads _ _ point uncancelled =>
      exact ⟨guarded.calls, uncancelled, fun _ => guarded.taken (by rw [point]; trivial),
        alive (by simp [point])⟩
  | updateStores waker box current point same =>
      refine ⟨?_, trivial, fun _ => guarded.taken (by rw [point]; trivial),
        alive (by simp [point])⟩
      -- Calls past the transition would have seen `CANCELLED` in the slot.
      intro call member
      have seen := guarded.calls call member
      have uncancelled := guarded.uncancelled point same
      cases call with
      | loading => trivial
      | exchanging => exact seen
      | waking | freeing | returned => exact absurd seen uncancelled
  | updateRejected _ _ _ point _ cancelled =>
      exact ⟨guarded.calls, cancelled, fun _ => guarded.taken (by rw [point]; trivial),
        alive (by simp [point])⟩
  | updateRetries _ _ _ point _ uncancelled =>
      exact ⟨guarded.calls, uncancelled, fun _ => guarded.taken (by rw [point]; trivial),
        alive (by simp [point])⟩
  | updateReturns _ point | boxRejected _ point =>
      exact ⟨guarded.calls, trivial, False.elim, alive (by simp [point])⟩
  | fieldsDropped point => exact ⟨guarded.calls, trivial, False.elim, alive (by simp [point])⟩
  | cancelStarts present =>
      refine ⟨?_, guarded.point, guarded.taken, fun gone => ?_⟩
      · intro call member
        rcases List.mem_append.mp member with old | new
        · exact guarded.calls call old
        · rw [List.mem_singleton.mp new]
          trivial
      · rw [present] at gone
        cases gone
  | cancelFinds call found cancelled =>
      refine ⟨calls_set call _ cancelled, guarded.point, guarded.taken, fun gone => ?_⟩
      rw [guarded.present found (by simp)] at gone
      cases gone
  | cancelLoads call found uncancelled =>
      refine ⟨calls_set call _ uncancelled, guarded.point, guarded.taken, fun gone => ?_⟩
      rw [guarded.present found (by simp)] at gone
      cases gone
  | cancelTakes call box found | cancelClaims call current found =>
      refine ⟨calls_cancelled call _ rfl, guarded.point.of_cancelled, guarded.taken,
        fun gone => ?_⟩
      rw [guarded.present found (by simp)] at gone
      cases gone
  | cancelLoses call current found _ cancelled =>
      refine ⟨calls_set call _ cancelled, guarded.point, guarded.taken, fun gone => ?_⟩
      rw [guarded.present found (by simp)] at gone
      cases gone
  | cancelRetries call current found _ uncancelled =>
      refine ⟨calls_set call _ uncancelled, guarded.point, guarded.taken, fun gone => ?_⟩
      rw [guarded.present found (by simp)] at gone
      cases gone
  | cancelWakes call box waker found =>
      have cancelled := guarded.calls _ (List.mem_of_getElem? found)
      refine ⟨calls_set call _ cancelled, guarded.point, guarded.taken, fun gone => ?_⟩
      rw [guarded.present found (by simp)] at gone
      cases gone
  | cancelDangles => exact guarded
  | cancelFrees call box found =>
      have cancelled := guarded.calls _ (List.mem_of_getElem? found)
      refine ⟨calls_set call _ cancelled, guarded.point, guarded.taken, fun gone => ?_⟩
      rw [guarded.present found (by simp)] at gone
      cases gone
  | cancellationDrops point _ atEnd =>
      exact ⟨guarded.calls, guarded.point, guarded.taken, fun _ => ⟨point, atEnd⟩⟩

variable {guard : Guard (State W T P) (Action W T P) (Event W T P)}
  {config later : Config (State W T P) (Event W T P)}

theorem guarded_of_reaches (run : machine.Reaches guard (.initial State.new) config) :
    Guarded config.state := by
  apply run.invariant (fun config => Guarded config.state)
  · exact ⟨by simp [Config.initial, State.new], trivial, False.elim, nofun⟩
  · intro before action next events _reached guarded _allowed stepped
    exact step_guarded guarded (transition_of_step stepped)

theorem step_cancelled {action : Action W T P} (guarded : Guarded state)
    (cancelled : state.slot = .cancelled) (transition : Transition state action next events) :
    next.slot = .cancelled := by
  cases transition with
  | updateStores waker box current point same =>
      exact absurd cancelled (guarded.uncancelled point same)
  | cancelTakes | cancelClaims => rfl
  | pollsFinished | pollStarts | checkFinds | checkPasses | innerStarts | innerPends | innerEnds
  | boxReused | boxDangles | boxMade | updateFinds | updateLoads | updateRejected | updateRetries
  | updateReturns | boxRejected | futureDrops | futurePanicsInPoll | futurePanicsInDrop
  | wakeCalled | pollEnds | dropEnds | dropFinishes | dropSkips | fieldsDropped | cancelStarts
  | cancelFinds | cancelLoads | cancelLoses | cancelRetries | cancelWakes | cancelDangles
  | cancelFrees | cancellationDrops => exact cancelled

end Spawns.TaskFuture
