/-
How often the loops of `Cancellation` go round.

A compare-exchange that fails is charged to what has changed the slot since the
call last read it: an update that stored its waker, or the one transition to
`CANCELLED`. An address that comes back only makes a compare-exchange succeed.
-/

import Spawns.Core.TaskCancel

namespace Spawns.TaskFuture

open EventMachine BoxHeap

open Machine (reaches_of_exec)

variable {W T P : Type} {trace events since : List (Event W T P)} {state next : State W T P}

@[simp] def Event.updateMiss? : Event W T P → Option Unit
  | .updateMissed => some ()
  | _ => none

@[simp] def Event.cancelMiss? : Event W T P → Option Nat
  | .cancelMissed call => some call
  | _ => none

abbrev updateMisses (trace : List (Event W T P)) : List Unit := observe Event.updateMiss? trace

abbrev cancelMisses (trace : List (Event W T P)) : List Nat := observe Event.cancelMiss? trace

/-- The iterations that an update has begun: the first, and one for each failure. -/
def updateIterations (since : List (Event W T P)) : Nat := (updateMisses since).length + 1

def cancelIterations (call : Nat) (since : List (Event W T P)) : Nat :=
  (cancelMisses since).count call + 1

/-! ### The loop of `cancel` -/

/-- The failures of a call at this point are paid for, and while its last reading
of the slot is out of date one more is. -/
def CancelPoint.Within (slot : Slot) (misses stored : Nat) : CancelPoint → Prop
  | .loading => misses = 0
  | .exchanging current =>
      misses ≤ stored ∧ (slot.same current = true ∨ slot = .cancelled ∨ misses < stored)
  | _ => misses ≤ stored + 1

private theorem CancelPoint.Within.bound {slot : Slot} {misses stored : Nat} {point : CancelPoint}
    (within : point.Within slot misses stored) : misses ≤ stored + 1 := by
  cases point with
  | loading =>
      change misses = 0 at within
      omega
  | exchanging current => exact Nat.le_succ_of_le within.1
  | waking | freeing | returned => exact within

private theorem CancelPoint.Within.of_cancelled {slot : Slot} {misses stored : Nat}
    {point : CancelPoint}
    (within : point.Within slot misses stored) : point.Within .cancelled misses stored := by
  cases point with
  | exchanging current => exact ⟨within.1, .inr (.inl rfl)⟩
  | loading | waking | freeing | returned => exact within

/-- An update that stores its waker pays for one failure. -/
private theorem CancelPoint.Within.of_stored {slot other : Slot} {misses stored : Nat}
    {point : CancelPoint} (within : point.Within slot misses stored) :
    point.Within other misses (stored + 1) := by
  cases point with
  | exchanging current =>
      exact ⟨Nat.le_succ_of_le within.1, .inr (.inr (Nat.lt_succ_of_le within.1))⟩
  | loading => exact within
  | waking | freeing | returned => exact Nat.le_succ_of_le within

/-- What a call of `cancel` has used up since it was waiting for its first load. -/
def CancelCharged (call : Nat) (since : List (Event W T P)) (state : State W T P) : Prop :=
  ∃ point, state.cancels[call]? = some point ∧
    point.Within state.slot ((cancelMisses since).count call) (stores since).length

/-- No loop of `cancel` goes round in these events, and nothing is stored. -/
structure Still (events : List (Event W T P)) : Prop where
  unmissed : cancelMisses events = []
  unstored : stores events = []

private theorem still_freeEvents (heap : Heap W) (box : Option Pointer) :
    Still (freeEvents heap box : List (Event W T P)) where
  unmissed := observe_freeEvents (fun _ => rfl) (fun _ => rfl) heap box
  unstored := (idle_freeEvents heap box).unstored

private theorem still_updateReturn (heap : Heap W) (box : Option Pointer) :
    Still (freeEvents heap box ++ [.pollReturned .pending] : List (Event W T P)) where
  unmissed := by simp [(still_freeEvents heap box).unmissed]
  unstored := (idle_updateReturn heap box).unstored

section Cancel

variable {call other : Nat}

private theorem CancelCharged.frame (charged : CancelCharged call since state)
    (still : Still events)
    (sameSlot : next.slot = state.slot) (sameCall : next.cancels[call]? = state.cancels[call]?) :
    CancelCharged call (since ++ events) next := by
  obtain ⟨point, found, within⟩ := charged
  refine ⟨point, sameCall.trans found, ?_⟩
  simpa only [observe_append, still.unmissed, still.unstored, List.append_nil, sameSlot]
    using within

private theorem CancelCharged.move {stands moved : CancelPoint}
    (charged : CancelCharged call since state) (failures : Nat)
    (found : state.cancels[other]? = some stands)
    (cancels : next.cancels = state.cancels.set other moved) (unstored : stores events = [])
    (missed : cancelMisses events = List.replicate failures other)
    (slot : next.slot = state.slot ∨ next.slot = .cancelled)
    (own : ∀ misses stored, stands.Within state.slot misses stored →
      moved.Within next.slot (misses + failures) stored) :
    CancelCharged call (since ++ events) next := by
  obtain ⟨point, foundCall, within⟩ := charged
  have missedSum : cancelMisses (since ++ events) = cancelMisses since ++ cancelMisses events :=
    observe_append _ _ _
  have storedSum : stores (since ++ events) = stores since ++ stores events :=
    observe_append _ _ _
  rw [CancelCharged, missedSum, storedSum, unstored, List.append_nil, missed, List.count_append,
    cancels]
  by_cases same : other = call
  · subst same
    rw [found, Option.some.injEq] at foundCall
    subst foundCall
    have inside : other < state.cancels.length := (List.getElem?_eq_some_iff.mp found).1
    refine ⟨moved, List.getElem?_set_self inside, ?_⟩
    rw [List.count_replicate_self]
    exact own _ _ within
  · refine ⟨point, (List.getElem?_set_ne same).trans foundCall, ?_⟩
    have silent : (List.replicate failures other).count call = 0 := by
      rw [List.count_eq_zero, List.mem_replicate]
      exact fun member => same member.2.symm
    rw [silent, Nat.add_zero]
    rcases slot with unchanged | cancelled
    · rw [unchanged]
      exact within
    · rw [cancelled]
      exact within.of_cancelled

private theorem step_cancelCharged {action : Action W T P}
    (charged : CancelCharged call since state)
    (transition : Transition state action next events) :
    CancelCharged call (since ++ events) next := by
  cases transition with
  | updateStores waker box current point same =>
      obtain ⟨point, found, within⟩ := charged
      refine ⟨point, found, ?_⟩
      simpa using within.of_stored
  | cancelStarts =>
      obtain ⟨point, found, within⟩ := charged
      have inside : call < state.cancels.length := (List.getElem?_eq_some_iff.mp found).1
      refine ⟨point, (List.getElem?_append_left inside).trans found, ?_⟩
      rw [List.append_nil]
      exact within
  | cancelFinds other found =>
      refine charged.move 0 found rfl rfl rfl (.inl rfl) ?_
      intro misses stored within
      change misses = 0 at within
      change misses + 0 ≤ stored + 1
      omega
  | cancelLoads other found =>
      refine charged.move 0 found rfl rfl rfl (.inl rfl) ?_
      intro misses stored within
      change misses = 0 at within
      exact ⟨by omega, .inl (Slot.same_self _)⟩
  | cancelTakes other box found =>
      refine charged.move 0 found rfl rfl rfl (.inr rfl) ?_
      intro misses stored within
      exact within.bound
  | cancelClaims other current found =>
      refine charged.move 0 found rfl rfl rfl (.inr rfl) ?_
      intro misses stored within
      exact within.bound
  | cancelLoses other current found =>
      refine charged.move 1 found rfl rfl rfl (.inl rfl) ?_
      intro misses stored within
      exact Nat.succ_le_succ within.1
  | cancelRetries other current found changed uncancelled =>
      refine charged.move 1 found rfl rfl rfl (.inl rfl) ?_
      intro misses stored within
      -- Only an update can have changed the slot and left it uncancelled.
      rcases within.2 with same | cancelled | paid
      · rw [changed] at same
        cases same
      · exact absurd cancelled uncancelled
      · exact ⟨paid, .inl (Slot.same_self _)⟩
  | cancelWakes other box waker found =>
      refine charged.move 0 found rfl rfl rfl (.inl rfl) ?_
      intro misses stored within
      exact within
  | cancelFrees other box found =>
      have still : Still (freeEvents state.heap (some box) : List (Event W T P)) :=
        still_freeEvents _ _
      refine charged.move 0 found rfl still.unstored still.unmissed (.inl rfl) ?_
      intro misses stored within
      exact within
  | updateReturns => exact charged.frame (still_updateReturn _ _) rfl rfl
  | boxRejected | fieldsDropped | cancellationDrops =>
      exact charged.frame (still_freeEvents _ _) rfl rfl
  | pollsFinished | pollStarts | checkFinds | checkPasses | innerStarts | innerPends | innerEnds
  | boxReused | boxDangles | boxMade | updateFinds | updateLoads | updateRejected | updateRetries
  | futureDrops | futurePanicsInPoll | futurePanicsInDrop | wakeCalled | pollEnds | dropEnds
  | dropFinishes | dropSkips | cancelDangles => exact charged.frame ⟨rfl, rfl⟩ rfl rfl

end Cancel

/-! ### The loop of `update` -/

/-- The failures of the update of a poll at this point. An update that has read
the slot finds it changed only by the transition. -/
def Point.Within (slot : Slot) (misses : Nat) : Point W T P → Prop
  | .checking _ => False
  | .polling _ => False
  | .inner _ => False
  | .boxing _ => False
  | .loading _ _ => misses = 0
  | .exchanging _ _ current => misses = 0 ∧ (slot.same current = true ∨ slot = .cancelled)
  | _ => misses ≤ 1

private theorem Point.Within.bound {slot : Slot} {misses : Nat} {point : Point W T P}
    (within : point.Within slot misses) : misses ≤ 1 := by
  cases point with
  | checking | polling | inner | boxing => cases within
  | loading =>
      change misses = 0 at within
      omega
  | exchanging =>
      have none := within.1
      omega
  | idle | storing | rejecting | finishing | handing | notifying | dropping | dropped =>
      exact within

private theorem Point.Within.of_cancelled {slot : Slot} {misses : Nat} {point : Point W T P}
    (within : point.Within slot misses) : point.Within .cancelled misses := by
  cases point with
  | exchanging => exact ⟨within.1, .inr rfl⟩
  | checking | polling | inner | boxing | loading | idle | storing | rejecting | finishing
  | handing | notifying | dropping | dropped => exact within

def UpdateCharged (since : List (Event W T P)) (state : State W T P) : Prop :=
  state.point.Within state.slot (updateMisses since).length

private theorem UpdateCharged.frame (charged : UpdateCharged since state)
    (unmissed : updateMisses events = []) (samePoint : next.point = state.point)
    (slot : next.slot = state.slot ∨ next.slot = .cancelled) :
    UpdateCharged (since ++ events) next := by
  have sum : updateMisses (since ++ events) = updateMisses since ++ updateMisses events :=
    observe_append _ _ _
  rw [UpdateCharged, sum, unmissed, List.append_nil, samePoint]
  rcases slot with unchanged | cancelled
  · rw [unchanged]
    exact charged
  · rw [cancelled]
    exact charged.of_cancelled

private theorem UpdateCharged.move {stands : Point W T P} (charged : UpdateCharged since state)
    (point : state.point = stands)
    (own : ∀ misses, stands.Within state.slot misses →
      next.point.Within next.slot (misses + (updateMisses events).length)) :
    UpdateCharged (since ++ events) next := by
  have sum : updateMisses (since ++ events) = updateMisses since ++ updateMisses events :=
    observe_append _ _ _
  rw [UpdateCharged, sum, List.length_append]
  apply own
  rw [← point]
  exact charged

private theorem updateMisses_freeEvents (heap : Heap W) (box : Option Pointer) :
    updateMisses (freeEvents heap box : List (Event W T P)) = [] :=
  observe_freeEvents (fun _ => rfl) (fun _ => rfl) heap box

private theorem step_updateCharged {action : Action W T P} (charged : UpdateCharged since state)
    (transition : Transition state action next events) (samePoll : pollStarts events = []) :
    UpdateCharged (since ++ events) next := by
  cases transition with
  | pollsFinished | pollStarts => cases samePoll
  | checkFinds _ point | checkPasses _ point | innerStarts _ point | innerPends _ point
  | innerEnds _ point | boxReused _ _ point | boxDangles _ _ point | boxMade _ _ point =>
      exact charged.move point fun misses within => within.elim
  | updateFinds waker box point =>
      apply charged.move point
      intro misses within
      exact Nat.le_succ_of_le (Nat.le_of_eq within)
  | updateLoads waker box point =>
      apply charged.move point
      intro misses within
      exact ⟨within, .inl (Slot.same_self _)⟩
  | updateStores waker box current point =>
      apply charged.move point
      intro misses within
      exact within.bound
  | updateRejected waker box current point =>
      apply charged.move point
      intro misses within
      exact Nat.succ_le_succ (Nat.le_of_eq within.1)
  | updateRetries waker box current point changed uncancelled =>
      apply charged.move point
      intro misses within
      rcases within.2 with same | cancelled
      · rw [changed] at same
        cases same
      · exact absurd cancelled uncancelled
  | updateReturns returned point =>
      apply charged.move point
      intro misses within
      have unmissed : updateMisses (freeEvents state.heap state.waker ++
          [.pollReturned .pending] : List (Event W T P)) = [] := by
        simp [updateMisses_freeEvents]
      rw [unmissed]
      exact within
  | boxRejected box point | fieldsDropped point =>
      apply charged.move point
      intro misses within
      rw [updateMisses_freeEvents]
      exact within
  | futureDrops _ _ point | futurePanicsInPoll _ point | futurePanicsInDrop _ point
  | wakeCalled _ _ point | pollEnds point | dropEnds point | dropFinishes point
  | dropSkips point => exact charged.move point fun misses within => within
  | cancelTakes | cancelClaims => exact charged.frame rfl rfl (.inr rfl)
  | cancelFrees | cancellationDrops =>
      exact charged.frame (updateMisses_freeEvents _ _) rfl (.inl rfl)
  | cancelStarts | cancelFinds | cancelLoads | cancelLoses | cancelRetries | cancelWakes
  | cancelDangles => exact charged.frame rfl rfl (.inl rfl)

/-! ### Both loops over whole runs -/

variable {guard : Guard (State W T P) (Action W T P) (Event W T P)}
  {begun later : Config (State W T P) (Event W T P)}

theorem cancelCharged_of_reaches {call : Nat}
    (loading : begun.state.cancels[call]? = some .loading)
    (continued : machine.Reaches guard begun later) :
    ∃ since, later.trace = begun.trace ++ since ∧ CancelCharged call since later.state := by
  refine continued.invariant (fun later => ∃ since, later.trace = begun.trace ++ since ∧
    CancelCharged call since later.state) ?_ ?_
  · exact ⟨[], (List.append_nil _).symm, .loading, loading, rfl⟩
  · rintro before action next events _reached ⟨since, grows, charged⟩ _allowed stepped
    refine ⟨since ++ events, by rw [grows, List.append_assoc], ?_⟩
    exact step_cancelCharged charged (transition_of_step stepped)

theorem updateCharged_of_reaches {waker : W} {box : Pointer}
    (loading : begun.state.point = .loading waker box)
    (continued : machine.Reaches guard begun later) :
    ∃ since, later.trace = begun.trace ++ since ∧
      (pollStarts since = [] → UpdateCharged since later.state) := by
  refine continued.invariant (fun later => ∃ since, later.trace = begun.trace ++ since ∧
    (pollStarts since = [] → UpdateCharged since later.state)) ?_ ?_
  · refine ⟨[], (List.append_nil _).symm, fun _ => ?_⟩
    rw [UpdateCharged, loading]
    rfl
  · rintro before action next events _reached ⟨since, grows, charged⟩ _allowed stepped
    refine ⟨since ++ events, by rw [grows, List.append_assoc], fun samePoll => ?_⟩
    rw [pollStarts, observe_append, List.append_eq_nil_iff] at samePoll
    exact step_updateCharged (charged samePoll.1) (transition_of_step stepped) samePoll.2

private theorem updateExchange_leaves {waker : W} {box : Pointer} {current : Slot}
    (point : state.point = .exchanging waker box current) :
    ∃ next events, machine.step state .updateExchange = some (next, events) ∧
      ((∃ returned, next.point = .storing returned) ∨ next.point = .rejecting box ∨
        updateMisses events = [()]) := by
  change ∃ next events, updateExchange state = some (next, events) ∧ _
  rw [updateExchange, point]
  by_cases same : state.slot.same current = true
  · exact ⟨_, _, if_pos same, .inl ⟨_, rfl⟩⟩
  · by_cases cancelled : state.slot.same .cancelled = true
    · exact ⟨_, _, (if_neg same).trans (if_pos cancelled), .inr (.inl rfl)⟩
    · exact ⟨_, _, (if_neg same).trans (if_neg cancelled), .inr (.inr rfl)⟩

private theorem cancelExchange_leaves {call : Nat} {current : Slot}
    (found : state.cancels[call]? = some (.exchanging current)) :
    ∃ next events, machine.step state (.cancelExchange call) = some (next, events) ∧
      (next.cancels[call]? = some .returned ∨
        (∃ box, next.cancels[call]? = some (.waking box)) ∨ cancelMisses events = [call]) := by
  have inside : call < state.cancels.length := (List.getElem?_eq_some_iff.mp found).1
  change ∃ next events, cancelExchange state call = some (next, events) ∧ _
  simp only [cancelExchange, found]
  by_cases same : state.slot.same current = true
  · rw [if_pos same]
    cases current.box? with
    | some box => exact ⟨_, _, rfl, .inr (.inl ⟨box, List.getElem?_set_self inside⟩)⟩
    | none => exact ⟨_, _, rfl, .inl (List.getElem?_set_self inside)⟩
  · rw [if_neg same]
    by_cases cancelled : state.slot.same .cancelled = true
    · exact ⟨_, _, if_pos cancelled, .inl (List.getElem?_set_self inside)⟩
    · exact ⟨_, _, if_neg cancelled, .inr (.inr rfl)⟩

/-- How far the loops that were about to begin have gone round since. -/
structure BoundedLoops (begun later : Config (State W T P) (Event W T P))
    (since : List (Event W T P)) : Prop where
  update : ∀ waker box, begun.state.point = .loading waker box → pollStarts since = [] →
    updateIterations since ≤ 2
  cancel : ∀ call, begun.state.cancels[call]? = some .loading →
    cancelIterations call since ≤ (stores since).length + 2
  updateGoesOn : ∀ waker box current, later.state.point = .exchanging waker box current →
    ∃ next events, machine.step later.state .updateExchange = some (next, events) ∧
      ((∃ returned, next.point = .storing returned) ∨ next.point = .rejecting box ∨
        updateMisses events = [()])
  cancelGoesOn : ∀ (call : Nat) current,
    later.state.cancels[call]? = some (CancelPoint.exchanging current) →
    ∃ next events, machine.step later.state (.cancelExchange call) = some (next, events) ∧
      (next.cancels[call]? = some CancelPoint.returned ∨
        (∃ box, next.cancels[call]? = some (CancelPoint.waking box)) ∨
        cancelMisses events = [call])

/-- Whoever interferes, an update begins at most two iterations before its poll
is over, and a call of `cancel` two more than the updates that have stored their
wakers since it was waiting for its first load. -/
theorem loops_are_bounded (continued : machine.Reaches guard begun later) :
    ∃ since, later.trace = begun.trace ++ since ∧ BoundedLoops begun later since := by
  obtain ⟨since, grows⟩ := continued.exists_suffix
  refine ⟨since, grows, ?_, ?_, fun _ _ _ => updateExchange_leaves,
    fun _ _ => cancelExchange_leaves⟩
  · intro waker box loading samePoll
    obtain ⟨same, grown, charged⟩ := updateCharged_of_reaches loading continued
    rw [grows, List.append_cancel_left_eq] at grown
    subst grown
    exact Nat.succ_le_succ (charged samePoll).bound
  · intro call loading
    obtain ⟨same, grown, point, _, within⟩ := cancelCharged_of_reaches loading continued
    rw [grows, List.append_cancel_left_eq] at grown
    subst grown
    exact Nat.succ_le_succ within.bound

def aboutToLoop : List (Action Nat Nat Nat) :=
  [.poll 1, .check, .pollInner, .innerReturn .pending, .newBox 8, .cancel, .cancel]

/-- One call of `cancel` overtakes the other one and the update. -/
def overtaken : List (Action Nat Nat Nat) :=
  [.cancelLoad 0, .cancelLoad 1, .updateLoad, .cancelExchange 0, .updateExchange,
    .cancelExchange 1]

theorem loops_are_bounded_overtaken :
    ∃ begun later, machine.exec .any (.initial State.new) aboutToLoop = some begun ∧
      machine.exec .any begun overtaken = some later ∧
      begun.state.cancels[1]? = some .loading ∧
      updateMisses later.trace = [()] ∧ cancelMisses later.trace = [1] ∧
      ∃ since, later.trace = begun.trace ++ since ∧ BoundedLoops begun later since := by
  obtain ⟨begun, later, executed, continued, waits, missedUpdate, missed⟩ :
      ∃ begun later, machine.exec .any (.initial State.new) aboutToLoop = some begun ∧
        machine.exec .any begun overtaken = some later ∧
        begun.state.cancels[1]? = some .loading ∧ updateMisses later.trace = [()] ∧
        cancelMisses later.trace = [1] :=
    ⟨_, _, rfl, rfl, rfl, rfl, rfl⟩
  exact ⟨begun, later, executed, continued, waits, missedUpdate, missed,
    loops_are_bounded (reaches_of_exec overtaken continued)⟩

end Spawns.TaskFuture
