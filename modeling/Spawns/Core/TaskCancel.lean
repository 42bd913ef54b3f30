/-
A cancellation is never lost: one call makes the transition to `CANCELLED`, the
waker stored last before it is woken by that call, and the task ends with the
poll that runs or starts next.
-/

import Spawns.Core.WakerBoxes

namespace Spawns.TaskFuture

open EventMachine BoxHeap

open Machine (reaches_of_exec)

variable {W T P : Type} {trace events : List (Event W T P)} {state next : State W T P}

@[simp] def Event.stored? : Event W T P → Option W
  | .stored waker => some waker
  | _ => none

@[simp] def Event.woke? : Event W T P → Option (Nat × W)
  | .woke call waker => some (call, waker)
  | _ => none

@[simp] def Event.pendingReturn? : Event W T P → Option Unit
  | .pollReturned .pending => some ()
  | _ => none

@[simp] def Event.pollStart? : Event W T P → Option W
  | .pollStarted waker => some waker
  | _ => none

abbrev stores (trace : List (Event W T P)) : List W := observe Event.stored? trace

abbrev wakes (trace : List (Event W T P)) : List (Nat × W) := observe Event.woke? trace

abbrev pendingReturns (trace : List (Event W T P)) : List Unit :=
  observe Event.pendingReturn? trace

abbrev pollStarts (trace : List (Event W T P)) : List W := observe Event.pollStart? trace

structure Idle (events : List (Event W T P)) : Prop where
  unstored : stores events = []
  unclaimed : cancellations events = []
  unwoken : wakes events = []

theorem idle_freeEvents (heap : Heap W) (box : Option Pointer) :
    Idle (freeEvents heap box : List (Event W T P)) where
  unstored := observe_freeEvents (fun _ => rfl) (fun _ => rfl) heap box
  unclaimed := observe_freeEvents (fun _ => rfl) (fun _ => rfl) heap box
  unwoken := observe_freeEvents (fun _ => rfl) (fun _ => rfl) heap box

theorem idle_updateReturn (heap : Heap W) (box : Option Pointer) :
    Idle (freeEvents heap box ++ [.pollReturned .pending] : List (Event W T P)) := by
  have freed : Idle (freeEvents heap box : List (Event W T P)) := idle_freeEvents heap box
  constructor
  · simp [freed.unstored]
  · simp [freed.unclaimed]
  · simp [freed.unwoken]

/-! ### What the boxes contain -/

private theorem read_freeBox {heap : Heap W} {box : Option Pointer} {other : Pointer}
    (live : ∀ pointer ∈ box.toList, heap.Live pointer) (alive : heap.Live other)
    (apart : other ∉ box.toList) : (freeBox heap box).read other = heap.read other := by
  cases box with
  | none => rfl
  | some pointer =>
      obtain ⟨content, found⟩ := live pointer (by simp)
      simp only [freeBox, found]
      exact Heap.read_free_of_live ⟨content, found⟩ alive (by simpa using apart)

private theorem step_read {action : Action W T P} (owned : Owned trace state)
    (guarded : Guarded state)
    (transition : Transition state action next events) {box : Pointer}
    (before : box ∈ state.owners) (after : box ∈ next.owners) (kept : state.waker ≠ some box) :
    next.heap.read box = state.heap.read box := by
  have freed (gone : Option Pointer) (owns : ∀ pointer ∈ gone.toList, pointer ∈ state.owners)
      (shown : events = freeEvents state.heap gone) :
      (freeBox state.heap gone).read box = state.heap.read box := by
    have live : ∀ pointer ∈ gone.toList, state.heap.Live pointer :=
      fun pointer inside => owned.live pointer (owns pointer inside)
    apply read_freeBox live (owned.live box before)
    intro inside
    have unmade : allocated events = [] := by rw [shown, allocated_freeEvents]
    apply step_unreleased owned guarded transition unmade after
    rw [shown]
    exact mem_released_freeEvents live inside
  cases transition with
  | boxReused waker reused point spare =>
      have owner : reused ∈ state.owners := by simp [State.owners, spare]
      apply Heap.read_put_of_live waker (owned.live reused owner) (owned.live box before)
      rintro rfl
      exact kept spare
  | boxMade waker address point spare unused =>
      exact Heap.read_put_of_address_ne waker ((owned.live box before).address_ne_of_free unused)
  | updateReturns returned point =>
      have spare := guarded.taken (by rw [point]; trivial)
      rw [spare]
      rfl
  | boxRejected gone point =>
      refine freed (some gone) ?_ rfl
      intro pointer inside
      rw [List.mem_singleton.mp inside]
      simp [State.owners, point, Point.held]
  | fieldsDropped point =>
      refine freed state.waker ?_ rfl
      intro pointer inside
      simp [State.owners, Option.mem_toList.mp inside]
  | cancelFrees call gone found =>
      refine freed (some gone) ?_ rfl
      intro pointer inside
      exact List.mem_append_right _ (mem_held_of_getElem? CancelPoint.held found inside)
  | cancellationDrops point present atEnd =>
      refine freed state.slot.box? ?_ rfl
      intro pointer inside
      exact State.slot_mem_owners present (Slot.box?_eq.mp (Option.mem_toList.mp inside))
  | pollsFinished | pollStarts | checkFinds | checkPasses | innerStarts | innerPends | innerEnds
  | boxDangles | updateFinds | updateLoads | updateStores | updateRejected | updateRetries
  | futureDrops | futurePanicsInPoll | futurePanicsInDrop | wakeCalled | pollEnds | dropEnds
  | dropFinishes | dropSkips | cancelStarts | cancelFinds | cancelLoads | cancelTakes
  | cancelClaims | cancelLoses | cancelRetries | cancelWakes | cancelDangles => rfl

private theorem Owned.spare_ne {box : Pointer} (owned : Owned trace state)
    (elsewhere : box ∈ state.slotHeld ++ state.point.held ++
      state.cancels.flatMap CancelPoint.held) : state.waker ≠ some box := by
  intro spare
  have held := holds_pos elsewhere
  have atMost := owned.holds_le_one box.token
  simp only [holds_append] at held
  simp only [State.owners, spare, Option.toList_some, holds_append, holds_cons, holds_nil,
    if_true] at atMost
  omega

def Point.Carries (waker : W) (box : Pointer) : Point W T P → Prop
  | .loading carried held => carried = waker ∧ held = box
  | .exchanging carried held _ => carried = waker ∧ held = box
  | _ => False

private theorem Point.Carries.mem_held {waker : W} {box : Pointer} {point : Point W T P}
    (carries : point.Carries waker box) : box ∈ point.held := by
  cases point with
  | loading | exchanging =>
      rw [carries.2]
      exact List.mem_singleton_self box
  | idle | checking | polling | inner | boxing | storing | rejecting | finishing | handing
  | notifying | dropping | dropped => cases carries

structure Contents (trace : List (Event W T P)) (state : State W T P) : Prop where
  carried : ∀ waker box, state.point.Carries waker box → state.heap.read box = some waker
  stored : ∀ box, state.slot = .waker box → state.cancellationDropped = false →
    state.heap.read box = (stores trace).getLast?
  unstored : state.slot = .null → stores trace = []

private theorem Contents.frame {action : Action W T P} (contents : Contents trace state)
    (owned : Owned trace state) (guarded : Guarded state)
    (transition : Transition state action next events) (silent : stores events = [])
    (carries : ∀ waker box, next.point.Carries waker box → state.point.Carries waker box)
    (sameSlot : next.slot = state.slot)
    (alive : next.cancellationDropped = false → state.cancellationDropped = false) :
    Contents (trace ++ events) next := by
  have same : stores (trace ++ events) = stores trace := by
    simp only [observe_append, silent, List.append_nil]
  refine ⟨?_, ?_, fun null => same.trans (contents.unstored (sameSlot ▸ null))⟩
  · intro waker box carrying
    have before := carries waker box carrying
    rw [← contents.carried waker box before]
    refine step_read owned guarded transition ?_ ?_ (owned.spare_ne ?_)
    · simp [State.owners, before.mem_held]
    · simp [State.owners, carrying.mem_held]
    · simp [before.mem_held]
  · intro box slot present
    rw [sameSlot] at slot
    have before := alive present
    rw [same, ← contents.stored box slot before]
    refine step_read owned guarded transition (State.slot_mem_owners before slot)
      (State.slot_mem_owners present (sameSlot.trans slot)) (owned.spare_ne ?_)
    simp [State.slotHeld, before, slot, Slot.box?]

theorem step_contents {action : Action W T P} (contents : Contents trace state)
    (owned : Owned trace state) (guarded : Guarded state)
    (transition : Transition state action next events) : Contents (trace ++ events) next := by
  have whole := transition
  have frame := contents.frame owned guarded transition
  -- The box of a poll that enters `update` has just been given its waker.
  have boxed (waker : W) (box : Pointer) (point : state.point = .boxing waker)
      (silent : stores events = []) (at_ : next.point = .loading waker box)
      (written : next.heap.read box = some waker) (sameSlot : next.slot = state.slot)
      (alive : next.cancellationDropped = state.cancellationDropped) :
      Contents (trace ++ events) next := by
    have same : stores (trace ++ events) = stores trace := by
      simp only [observe_append, silent, List.append_nil]
    refine ⟨?_, ?_, fun null => same.trans (contents.unstored (sameSlot ▸ null))⟩
    · intro carried held carries
      rw [at_] at carries
      rw [← carries.1, ← carries.2]
      exact written
    · intro stored slot present
      rw [sameSlot] at slot
      rw [alive] at present
      rw [same, ← contents.stored stored slot present]
      refine step_read owned guarded whole (State.slot_mem_owners present slot)
        (State.slot_mem_owners (alive.trans present) (sameSlot.trans slot)) (owned.spare_ne ?_)
      simp [State.slotHeld, present, slot, Slot.box?]
  cases transition with
  | boxReused waker box point spare =>
      exact boxed waker box point rfl rfl (Heap.read_put _ _ _) rfl rfl
  | boxMade waker address point spare unused =>
      exact boxed waker _ point rfl rfl (Heap.read_put _ _ _) rfl rfl
  | updateStores waker box current point same =>
      constructor
      · exact fun _ _ => False.elim
      · intro stored slot _present
        cases slot
        rw [contents.carried waker box (by rw [point]; exact ⟨rfl, rfl⟩)]
        simp
      · intro null
        cases null
  | updateLoads waker box point | updateRetries waker box current point =>
      refine frame rfl (fun _ _ carries => ?_) rfl id
      rw [point]
      exact carries
  | cancelTakes | cancelClaims =>
      constructor
      · exact contents.carried
      · intro box slot
        cases slot
      · intro null
        cases null
  | updateReturns => exact frame (idle_updateReturn _ _).unstored (fun _ _ => False.elim) rfl id
  | boxRejected | fieldsDropped =>
      exact frame (idle_freeEvents _ _).unstored (fun _ _ => False.elim) rfl id
  | cancelFrees => exact frame (idle_freeEvents _ _).unstored (fun _ _ => id) rfl id
  | cancellationDrops =>
      apply frame (idle_freeEvents _ _).unstored (fun _ _ => id) rfl
      intro present
      cases present
  | pollStarts | checkFinds | checkPasses | innerStarts | innerPends | innerEnds | updateFinds
  | updateRejected | futureDrops | futurePanicsInPoll | futurePanicsInDrop | wakeCalled | pollEnds
  | dropEnds | dropFinishes | dropSkips => exact frame rfl (fun _ _ => False.elim) rfl id
  | pollsFinished | boxDangles | cancelStarts | cancelFinds | cancelLoads | cancelLoses
  | cancelRetries | cancelWakes | cancelDangles => exact frame rfl (fun _ _ => id) rfl id

variable {guard : Guard (State W T P) (Action W T P) (Event W T P)}
  {config later : Config (State W T P) (Event W T P)}

theorem contents_of_reaches (run : machine.Reaches guard (.initial State.new) config) :
    Contents config.trace config.state := by
  apply run.invariant (fun config => Contents config.trace config.state)
  · exact ⟨fun _ _ => False.elim, nofun, fun _ => rfl⟩
  · intro before action next events reached contents _allowed stepped
    exact step_contents contents (owned_of_reaches reached) (guarded_of_reaches reached)
      (transition_of_step stepped)

/-! ### The transition and the wakeup -/

/-- What the call that made the transition has done about the waker stored last. -/
def Woken (trace : List (Event W T P)) (state : State W T P) (call : Nat) (last : Option W) :
    Prop :=
  (∃ box, state.cancels[call]? = some (.waking box) ∧ state.heap.read box = last ∧
    wakes trace = []) ∨
  (∀ box, state.cancels[call]? ≠ some (.waking box)) ∧
    wakes trace = last.toList.map fun waker => (call, waker)

inductive Cancelling (trace : List (Event W T P)) (state : State W T P) : Prop where
  | before (uncancelled : state.slot ≠ .cancelled) (unclaimed : cancellations trace = [])
      (unwoken : wakes trace = [])
  | after (call : Nat) (first second : List (Event W T P)) (cancelled : state.slot = .cancelled)
      (split : trace = first ++ .cancelled call :: second)
      (once : cancellations first = [] ∧ cancellations second = [])
      (unstored : stores second = [])
      (alone : ∀ other box, state.cancels[other]? = some (.waking box) → other = call)
      (woken : Woken trace state call (stores first).getLast?)

def SameWaking (before after : List CancelPoint) : Prop :=
  ∀ (call : Nat) (box : Pointer),
    after[call]? = some (CancelPoint.waking box) ↔ before[call]? = some (CancelPoint.waking box)

theorem sameWaking_set {cancels : List CancelPoint} {call : Nat} {old new : CancelPoint}
    (found : cancels[call]? = some old) (came : ∀ box, new ≠ .waking box)
    (left : ∀ box, old ≠ .waking box) : SameWaking cancels (cancels.set call new) := by
  intro other box
  rw [List.getElem?_set]
  split
  · rename_i same
    have inside : call < cancels.length := (List.getElem?_eq_some_iff.mp found).1
    rw [if_pos inside, ← same, found, Option.some.injEq, Option.some.injEq]
    exact iff_of_false (came box) (left box)
  · exact Iff.rfl

theorem sameWaking_append (cancels : List CancelPoint) :
    SameWaking cancels (cancels ++ [.loading]) := by
  intro other box
  rw [List.getElem?_append]
  split
  · exact Iff.rfl
  · rename_i outside
    apply iff_of_false
    · intro found
      rw [List.getElem?_singleton] at found
      split at found <;> cases found
    · intro found
      exact outside (List.getElem?_eq_some_iff.mp found).1

private theorem Cancelling.frame {action : Action W T P} (cancelling : Cancelling trace state)
    (owned : Owned trace state) (guarded : Guarded state)
    (transition : Transition state action next events) (idle : Idle events)
    (sameSlot : next.slot = state.slot) (same : SameWaking state.cancels next.cancels) :
    Cancelling (trace ++ events) next := by
  have sameWakes : wakes (trace ++ events) = wakes trace := by
    simp only [observe_append, idle.unwoken, List.append_nil]
  cases cancelling with
  | before uncancelled unclaimed unwoken =>
      refine .before (sameSlot ▸ uncancelled) ?_ (sameWakes.trans unwoken)
      simp only [observe_append, unclaimed, idle.unclaimed, List.append_nil]
  | after call first second cancelled split once unstored alone woken =>
      refine .after call first (second ++ events) (sameSlot.trans cancelled) ?_ ⟨once.1, ?_⟩ ?_
        (fun other box found => alone other box ((same other box).mp found)) ?_
      · rw [split, List.append_assoc, List.cons_append]
      · simp only [observe_append, once.2, idle.unclaimed, List.append_nil]
      · simp only [observe_append, unstored, idle.unstored, List.append_nil]
      · rcases woken with ⟨box, found, content, unwoken⟩ | ⟨atEnd, woke⟩
        · have still := (same call box).mpr found
          have holding : box ∈ state.cancels.flatMap CancelPoint.held :=
            mem_held_of_getElem? CancelPoint.held found (by simp [CancelPoint.held])
          have heldStill : box ∈ next.cancels.flatMap CancelPoint.held :=
            mem_held_of_getElem? CancelPoint.held still (by simp [CancelPoint.held])
          refine .inl ⟨box, still, ?_, sameWakes.trans unwoken⟩
          rw [← content]
          exact step_read owned guarded transition (List.mem_append_right _ holding)
            (List.mem_append_right _ heldStill) (owned.spare_ne (List.mem_append_right _ holding))
        · refine .inr ⟨fun box found => atEnd box ((same call box).mp found), sameWakes.trans woke⟩

private theorem Cancelling.claim {call : Nat} (cancelling : Cancelling trace state)
    (guarded : Guarded state) (uncancelled : state.slot ≠ .cancelled)
    (cancelled : next.slot = .cancelled)
    (alone : ∀ other box, other ≠ call → next.cancels[other]? = some (.waking box) →
      state.cancels[other]? = some (.waking box))
    (woken : wakes trace = [] →
      Woken (trace ++ [.cancelled call]) next call (stores trace).getLast?) :
    Cancelling (trace ++ [.cancelled call]) next := by
  cases cancelling with
  | before _ unclaimed unwoken =>
      refine .after call trace [] cancelled rfl ⟨unclaimed, rfl⟩ rfl ?_ (woken unwoken)
      intro other box found
      by_contra apart
      have earlier := alone other box apart found
      exact uncancelled (guarded.calls _ (List.mem_of_getElem? earlier))
  | after _ _ _ already => exact absurd already uncancelled

theorem step_cancelling {action : Action W T P} (cancelling : Cancelling trace state)
    (contents : Contents trace state) (owned : Owned trace state) (guarded : Guarded state)
    (transition : Transition state action next events) :
    Cancelling (trace ++ events) next := by
  have frame := cancelling.frame owned guarded transition
  have elsewhere (call : Nat) (new : CancelPoint) :
      ∀ other box, other ≠ call → (state.cancels.set call new)[other]? = some (.waking box) →
        state.cancels[other]? = some (.waking box) := by
    intro other box apart found
    rwa [List.getElem?_set_ne (Ne.symm apart)] at found
  cases transition with
  | updateStores waker box current point same =>
      have uncancelled := guarded.uncancelled point same
      cases cancelling with
      | before _ unclaimed unwoken =>
          refine .before nofun ?_ ?_
          · simp [unclaimed]
          · simp [unwoken]
      | after _ _ _ already => exact absurd already uncancelled
  | cancelTakes call box found same =>
      have slot := owned.exchanged_call found same
      have present := guarded.present found (by simp)
      have inside : call < state.cancels.length := (List.getElem?_eq_some_iff.mp found).1
      refine cancelling.claim guarded (guarded.uncancelled_call found same) rfl
        (elsewhere call _) ?_
      intro unwoken
      refine .inl ⟨box, ?_, contents.stored box slot present, ?_⟩
      · simp [inside]
      · simp [unwoken]
  | cancelClaims call current found same empty =>
      have uncancelled := guarded.uncancelled_call found same
      have slot := owned.exchanged_call found same
      have inside : call < state.cancels.length := (List.getElem?_eq_some_iff.mp found).1
      have null : state.slot = .null := by
        rw [← slot] at empty
        cases content : state.slot with
        | null => rfl
        | cancelled => exact absurd content uncancelled
        | waker box =>
            rw [content] at empty
            cases empty
      apply cancelling.claim guarded uncancelled rfl (elsewhere call _)
      intro unwoken
      refine .inr ⟨?_, ?_⟩
      · simp [inside]
      · simp [unwoken, contents.unstored null]
  | cancelWakes call box waker found content =>
      have cancelled := guarded.calls _ (List.mem_of_getElem? found)
      have inside : call < state.cancels.length := (List.getElem?_eq_some_iff.mp found).1
      cases cancelling with
      | before uncancelled => exact absurd cancelled uncancelled
      | after claimed first second _ split once unstored alone woken =>
          cases alone call box found
          rcases woken with ⟨own, waking, last, unwoken⟩ | ⟨atEnd, _⟩
          · rw [found] at waking
            cases waking
            refine .after call first (second ++ [.woke call waker]) cancelled ?_ ⟨once.1, ?_⟩ ?_
              ?_ (.inr ⟨?_, ?_⟩)
            · rw [split, List.append_assoc, List.cons_append]
            · simp [once.2]
            · simp [unstored]
            · intro other pointer still
              by_contra apart
              exact apart (alone other pointer (elsewhere call _ other pointer apart still))
            · simp [inside]
            · simp [unwoken, ← last, content]
          · exact absurd found (atEnd box)
  | cancelStarts => exact frame ⟨rfl, rfl, rfl⟩ rfl (sameWaking_append _)
  | cancelFinds call found | cancelLoads call found | cancelLoses call _ found
  | cancelRetries call _ found =>
      exact frame ⟨rfl, rfl, rfl⟩ rfl (sameWaking_set found (by simp) (by simp))
  | cancelFrees call box found =>
      exact frame (idle_freeEvents _ _) rfl (sameWaking_set found (by simp) (by simp))
  | updateReturns => exact frame (idle_updateReturn _ _) rfl fun _ _ => Iff.rfl
  | boxRejected | fieldsDropped | cancellationDrops =>
      exact frame (idle_freeEvents _ _) rfl fun _ _ => Iff.rfl
  | pollsFinished | pollStarts | checkFinds | checkPasses | innerStarts | innerPends | innerEnds
  | boxReused | boxDangles | boxMade | updateFinds | updateLoads | updateRejected | updateRetries
  | futureDrops | futurePanicsInPoll | futurePanicsInDrop | wakeCalled | pollEnds | dropEnds
  | dropFinishes | dropSkips | cancelDangles =>
      exact frame ⟨rfl, rfl, rfl⟩ rfl fun _ _ => Iff.rfl

theorem cancelling_of_reaches (run : machine.Reaches guard (.initial State.new) config) :
    Cancelling config.trace config.state := by
  apply run.invariant (fun config => Cancelling config.trace config.state)
  · exact .before nofun rfl rfl
  · intro before action next events reached cancelling _allowed stepped
    exact step_cancelling cancelling (contents_of_reaches reached) (owned_of_reaches reached)
      (guarded_of_reaches reached) (transition_of_step stepped)

theorem Owned.null_of_exchanged {call : Nat} {current : Slot} (owned : Owned trace state)
    (guarded : Guarded state) (found : state.cancels[call]? = some (.exchanging current))
    (same : state.slot.same current = true) (empty : current.box? = none) :
    state.slot = .null := by
  have slot := owned.exchanged_call found same
  have uncancelled := guarded.uncancelled_call found same
  rw [← slot] at empty
  cases content : state.slot with
  | null => rfl
  | cancelled => exact absurd content uncancelled
  | waker box =>
      rw [content] at empty
      cases empty

theorem Cancelling.read_waking {call : Nat} {box : Pointer} (cancelling : Cancelling trace state)
    (guarded : Guarded state) (found : state.cancels[call]? = some (.waking box)) :
    state.heap.read box = (stores trace).getLast? := by
  have cancelled := guarded.calls _ (List.mem_of_getElem? found)
  cases cancelling with
  | before uncancelled => exact absurd cancelled uncancelled
  | after claimed first second _ split once unstored alone woken =>
      cases alone call box found
      rcases woken with ⟨own, waking, content, _⟩ | ⟨atEnd, _⟩
      · rw [found] at waking
        cases waking
        have same : stores trace = stores first := by simp [split, unstored]
        rw [content, same]
      · exact absurd found (atEnd box)

/-! ### Whose waker is stored -/

def Point.passed? : Point W T P → Option W
  | .checking waker => some waker
  | .polling waker => some waker
  | .inner waker => some waker
  | .boxing waker => some waker
  | .loading waker _ => some waker
  | .exchanging waker _ _ => some waker
  | _ => none

def Passed (trace : List (Event W T P)) (state : State W T P) : Prop :=
  ∀ waker, state.point.passed? = some waker → (pollStarts trace).getLast? = some waker

def StoresPassed (before : List (Event W T P)) (event : Event W T P) : Prop :=
  ∀ waker, event = .stored waker → (pollStarts before).getLast? = some waker

theorem step_passed {action : Action W T P} (passed : Passed trace state)
    (transition : Transition state action next events) : Passed (trace ++ events) next := by
  have kept (silent : pollStarts events = [])
      (same : ∀ waker, next.point.passed? = some waker → state.point.passed? = some waker) :
      Passed (trace ++ events) next := by
    intro waker running
    simpa only [observe_append, silent, List.append_nil] using passed waker (same waker running)
  have freed (box : Option Pointer) :
      pollStarts (freeEvents state.heap box : List (Event W T P)) = [] :=
    observe_freeEvents (fun _ => rfl) (fun _ => rfl) _ _
  cases transition with
  | pollsFinished waker point =>
      intro other running
      rw [point] at running
      cases running
  | pollStarts waker point =>
      intro other running
      cases running
      simp
  | checkPasses _ point | innerStarts _ point | innerPends _ point | boxReused _ _ point
  | boxMade _ _ point | updateLoads _ _ point | updateRetries _ _ _ point =>
      exact kept rfl fun _ running => by rwa [point]
  | updateReturns =>
      refine kept ?_ fun _ => nofun
      simp [freed]
  | boxRejected | fieldsDropped => exact kept (freed _) fun _ => nofun
  | cancelFrees | cancellationDrops => exact kept (freed _) fun _ => id
  | checkFinds | innerEnds | updateFinds | updateStores | updateRejected | futureDrops
  | futurePanicsInPoll | futurePanicsInDrop | wakeCalled | pollEnds | dropEnds | dropFinishes
  | dropSkips => exact kept rfl fun _ => nofun
  | boxDangles | cancelStarts | cancelFinds | cancelLoads | cancelTakes | cancelClaims
  | cancelLoses | cancelRetries | cancelWakes | cancelDangles => exact kept rfl fun _ => id

theorem step_storesPassed {action : Action W T P} (passed : Passed trace state)
    (transition : Transition state action next events) (before : List (Event W T P))
    (event : Event W T P) (after : List (Event W T P)) (split : events = before ++ event :: after) :
    StoresPassed (trace ++ before) event := by
  rintro waker rfl
  have shown : waker ∈ stores events :=
    (mem_observe _).mpr ⟨.stored waker, by simp [split], rfl⟩
  have silent (none : stores events = []) : False := by
    rw [none] at shown
    cases shown
  cases transition with
  | updateStores stored box current point =>
      cases before with
      | nil =>
          cases split
          rw [List.append_nil]
          exact passed waker (by rw [point]; rfl)
      | cons head rest =>
          rw [List.cons_append, List.cons.injEq] at split
          exact absurd split.2 (by simp)
  | updateReturns => exact (silent (idle_updateReturn _ _).unstored).elim
  | boxRejected | fieldsDropped | cancelFrees | cancellationDrops =>
      exact (silent (idle_freeEvents _ _).unstored).elim
  | pollsFinished | pollStarts | checkFinds | checkPasses | innerStarts | innerPends | innerEnds
  | boxReused | boxDangles | boxMade | updateFinds | updateLoads | updateRejected | updateRetries
  | futureDrops | futurePanicsInPoll | futurePanicsInDrop | wakeCalled | pollEnds | dropEnds
  | dropFinishes | dropSkips | cancelStarts | cancelFinds | cancelLoads | cancelTakes
  | cancelClaims | cancelLoses | cancelRetries | cancelWakes | cancelDangles =>
      exact (silent rfl).elim

theorem storesPassed_of_reaches (run : machine.Reaches guard (.initial State.new) config) :
    Passed config.trace config.state ∧ AtEach StoresPassed config.trace := by
  refine run.invariant (fun config => Passed config.trace config.state ∧
    AtEach StoresPassed config.trace) ⟨fun _ => nofun, atEach_nil⟩ ?_
  intro before action next events _reached facts _allowed stepped
  have transition := transition_of_step stepped
  exact ⟨step_passed facts.1 transition, facts.2.append (step_storesPassed facts.1 transition)⟩

/-! ### After the transition -/

/-- A poll that has passed its test for `CANCELLED` calls the inner future once more. -/
def Point.innerOwed : Point W T P → Nat
  | .polling _ => 1
  | _ => 0

def Point.pendingOwed : Point W T P → Nat
  | .storing _ => 1
  | _ => 0

private theorem step_innerOwed {action : Action W T P} (cancelled : state.slot = .cancelled)
    (transition : Transition state action next events) :
    (innerStarts events).length + next.point.innerOwed ≤ state.point.innerOwed := by
  have freed (box : Option Pointer) :
      innerStarts (freeEvents state.heap box : List (Event W T P)) = [] :=
    observe_freeEvents (fun _ => rfl) (fun _ => rfl) _ _
  cases transition with
  | checkPasses _ _ uncancelled => exact absurd cancelled uncancelled
  | innerStarts _ point => simp [point, Point.innerOwed]
  | updateReturns => simp [freed, Point.innerOwed]
  | boxRejected | fieldsDropped => simp [freed, Point.innerOwed]
  | cancelFrees | cancellationDrops => simp [freed]
  | pollStarts | checkFinds | innerPends | innerEnds | boxReused | boxMade | updateFinds
  | updateLoads | updateStores | updateRejected | updateRetries | futureDrops | futurePanicsInPoll
  | futurePanicsInDrop | wakeCalled | pollEnds | dropEnds | dropFinishes | dropSkips =>
      simp [Point.innerOwed]
  | pollsFinished | boxDangles | cancelStarts | cancelFinds | cancelLoads | cancelTakes
  | cancelClaims | cancelLoses | cancelRetries | cancelWakes | cancelDangles => simp

theorem step_pendingOwed {action : Action W T P} (guarded : Guarded state)
    (cancelled : state.slot = .cancelled) (transition : Transition state action next events) :
    (pendingReturns events).length + next.point.pendingOwed ≤ state.point.pendingOwed := by
  have freed (box : Option Pointer) :
      pendingReturns (freeEvents state.heap box : List (Event W T P)) = [] :=
    observe_freeEvents (fun _ => rfl) (fun _ => rfl) _ _
  cases transition with
  | updateStores waker box current point same =>
      exact absurd cancelled (guarded.uncancelled point same)
  | updateReturns returned point => simp [freed, point, Point.pendingOwed]
  | boxRejected | fieldsDropped => simp [freed, Point.pendingOwed]
  | cancelFrees | cancellationDrops => simp [freed]
  | pollStarts | checkFinds | checkPasses | innerStarts | innerPends | innerEnds | boxReused
  | boxMade | updateFinds | updateLoads | updateRejected | updateRetries | futureDrops
  | futurePanicsInPoll | futurePanicsInDrop | wakeCalled | pollEnds | dropEnds | dropFinishes
  | dropSkips => simp [Point.pendingOwed]
  | pollsFinished | boxDangles | cancelStarts | cancelFinds | cancelLoads | cancelTakes
  | cancelClaims | cancelLoses | cancelRetries | cancelWakes | cancelDangles => simp

theorem step_ends {action : Action W T P} (progress : Progress trace state)
    (transition : Transition state action next events) (unstored : state.point.pendingOwed = 0) :
    pollAnswers events = [] ∨ next.hasFuture = false := by
  cases transition with
  | pollsFinished _ _ done => exact .inr done
  | futurePanicsInPoll => exact .inr rfl
  | pollEnds point => exact .inr (progress.gone_of_over (by rw [point]; trivial) (by simp [point]))
  | updateReturns _ point =>
      rw [point] at unstored
      cases unstored
  | boxRejected | fieldsDropped | cancelFrees | cancellationDrops =>
      exact .inl (quiet_freeEvents _ _).unanswered
  | pollStarts | checkFinds | checkPasses | innerStarts | innerPends | innerEnds | boxReused
  | boxDangles | boxMade | updateFinds | updateLoads | updateStores | updateRejected
  | updateRetries | futureDrops | futurePanicsInDrop | wakeCalled | dropEnds | dropFinishes
  | dropSkips | cancelStarts | cancelFinds | cancelLoads | cancelTakes | cancelClaims
  | cancelLoses | cancelRetries | cancelWakes | cancelDangles => exact .inl rfl

theorem step_gone {action : Action W T P} (gone : state.hasFuture = false)
    (transition : Transition state action next events) : next.hasFuture = false := by
  cases transition with
  | futureDrops | futurePanicsInPoll | futurePanicsInDrop => rfl
  | pollsFinished | pollStarts | checkFinds | checkPasses | innerStarts | innerPends | innerEnds
  | boxReused | boxDangles | boxMade | updateFinds | updateLoads | updateStores | updateRejected
  | updateRetries | updateReturns | boxRejected | wakeCalled | pollEnds | dropEnds | dropFinishes
  | dropSkips | fieldsDropped | cancelStarts | cancelFinds | cancelLoads | cancelTakes
  | cancelClaims | cancelLoses | cancelRetries | cancelWakes | cancelDangles | cancelFrees
  | cancellationDrops => exact gone

theorem step_unstored {action : Action W T P} (guarded : Guarded state)
    (cancelled : state.slot = .cancelled) (transition : Transition state action next events) :
    stores events = [] := by
  cases transition with
  | updateStores waker box current point same =>
      exact absurd cancelled (guarded.uncancelled point same)
  | updateReturns => exact (idle_updateReturn _ _).unstored
  | boxRejected | fieldsDropped | cancelFrees | cancellationDrops =>
      exact (idle_freeEvents _ _).unstored
  | pollsFinished | pollStarts | checkFinds | checkPasses | innerStarts | innerPends | innerEnds
  | boxReused | boxDangles | boxMade | updateFinds | updateLoads | updateRejected | updateRetries
  | futureDrops | futurePanicsInPoll | futurePanicsInDrop | wakeCalled | pollEnds | dropEnds
  | dropFinishes | dropSkips | cancelStarts | cancelFinds | cancelLoads | cancelTakes
  | cancelClaims | cancelLoses | cancelRetries | cancelWakes | cancelDangles => rfl

structure Spent (state : State W T P) (since : List (Event W T P)) (later : State W T P) :
    Prop where
  cancelled : later.slot = .cancelled
  unstored : stores since = []
  inner : (innerStarts since).length + later.point.innerOwed ≤ state.point.innerOwed
  pending : (pendingReturns since).length + later.point.pendingOwed ≤ state.point.pendingOwed
  ends : state.point.pendingOwed = 0 → pollAnswers since = [] ∨ later.hasFuture = false

private theorem Spent.step {start : State W T P} {since : List (Event W T P)}
    {action : Action W T P}
    (spent : Spent start since state) (progress : Progress trace state) (guarded : Guarded state)
    (transition : Transition state action next events) : Spent start (since ++ events) next := by
  have inner := step_innerOwed spent.cancelled transition
  have pending := step_pendingOwed guarded spent.cancelled transition
  have innerBefore := spent.inner
  have pendingBefore := spent.pending
  have innerSum : innerStarts (since ++ events) = innerStarts since ++ innerStarts events :=
    observe_append _ _ _
  have pendingSum : pendingReturns (since ++ events) =
      pendingReturns since ++ pendingReturns events := observe_append _ _ _
  refine
    { cancelled := step_cancelled guarded spent.cancelled transition
      unstored := ?_
      inner := ?_
      pending := ?_
      ends := ?_ }
  · simp only [observe_append, spent.unstored, step_unstored guarded spent.cancelled transition,
      List.append_nil]
  · rw [innerSum, List.length_append]
    omega
  · rw [pendingSum, List.length_append]
    omega
  · intro unstored
    rcases spent.ends unstored with quiet | gone
    · have still : state.point.pendingOwed = 0 := by omega
      rcases step_ends progress transition still with silent | ended
      · left
        simp only [observe_append, quiet, silent, List.append_nil]
      · exact .inr ended
    · exact .inr (step_gone gone transition)

theorem spent_of_reaches (run : machine.Reaches guard (.initial State.new) config)
    (cancelled : config.state.slot = .cancelled) (further : machine.Reaches guard config later) :
    ∃ since, later.trace = config.trace ++ since ∧ Spent config.state since later.state := by
  refine further.invariant (fun later => ∃ since, later.trace = config.trace ++ since ∧
    Spent config.state since later.state) ?_ ?_
  · exact ⟨[], (List.append_nil _).symm, cancelled, rfl, by simp, by simp, fun _ => .inl rfl⟩
  · intro before action next events reached grown _allowed stepped
    obtain ⟨since, grows, spent⟩ := grown
    have whole := run.trans reached
    refine ⟨since ++ events, by rw [grows, List.append_assoc], ?_⟩
    exact spent.step (progress_of_reaches whole) (guarded_of_reaches whole)
      (transition_of_step stepped)

/-! ### A cancellation is never lost -/

/-- One call makes the transition, and wakes the waker stored last before it. -/
structure CancelledOnce (config : Config (State W T P) (Event W T P)) : Prop where
  atMostOne : (cancellations config.trace).length ≤ 1
  exactlyOne : ∀ call : Nat, config.state.cancels[call]? = some CancelPoint.returned →
    (cancellations config.trace).length = 1
  inSlot : config.state.slot = .cancelled ↔ cancellations config.trace ≠ []
  unwoken : cancellations config.trace = [] → wakes config.trace = []
  wakesLast : ∀ before call after, config.trace = before ++ .cancelled call :: after →
    wakes config.trace <+: (stores before).getLast?.toList.map (fun waker => (call, waker)) ∧
    (config.state.cancels[call]? = some CancelPoint.returned →
      wakes config.trace = (stores before).getLast?.toList.map fun waker => (call, waker))
  wakesNext : ∀ (call : Nat) (box : Pointer),
    config.state.cancels[call]? = some (CancelPoint.waking box) → ∃ waker,
      machine.step config.state (.cancelWake call) =
        some ({ config.state with cancels := config.state.cancels.set call (.freeing box) },
          [.woke call waker])
  storesPassed : ∀ before waker after, config.trace = before ++ .stored waker :: after →
    (pollStarts before).getLast? = some waker

/-- What happens since a state with `CANCELLED`. -/
structure AfterTransition (state : State W T P) (since : List (Event W T P))
    (later : State W T P) : Prop where
  stays : later.slot = .cancelled
  unstored : stores since = []
  atMostOneInner : (innerStarts since).length ≤ 1
  atMostOnePending : (pendingReturns since).length ≤ 1
  ends : (∀ returned, state.point ≠ .storing returned) →
    pendingReturns since = [] ∧ (pollAnswers since = [] ∨ later.hasFuture = false)

private theorem Spent.afterTransition {since : List (Event W T P)} {final : State W T P}
    (spent : Spent state since final) : AfterTransition state since final := by
  have inner := spent.inner
  have pending := spent.pending
  have innerBound : state.point.innerOwed ≤ 1 := by
    cases state.point <;> simp [Point.innerOwed]
  have pendingBound : state.point.pendingOwed ≤ 1 := by
    cases state.point <;> simp [Point.pendingOwed]
  refine ⟨spent.cancelled, spent.unstored, by omega, by omega, ?_⟩
  intro unstored
  have none : state.point.pendingOwed = 0 := by
    cases point : state.point with
    | storing returned => exact absurd point (unstored returned)
    | idle | checking | polling | inner | boxing | loading | exchanging | rejecting | finishing
    | handing | notifying | dropping | dropped => rfl
  exact ⟨List.length_eq_zero_iff.mp (by omega), spent.ends none⟩

private theorem Woken.atMost {call : Nat} {last : Option W} (woken : Woken trace state call last) :
    wakes trace <+: last.toList.map fun waker => (call, waker) := by
  rcases woken with ⟨_, _, _, none⟩ | ⟨_, woke⟩
  · rw [none]
    exact List.nil_prefix
  · exact woke ▸ List.prefix_refl _

private theorem Woken.returned {call : Nat} {last : Option W} (woken : Woken trace state call last)
    (found : state.cancels[call]? = some .returned) :
    wakes trace = last.toList.map fun waker => (call, waker) := by
  rcases woken with ⟨box, waking, _⟩ | ⟨_, woke⟩
  · rw [found] at waking
    cases waking
  · exact woke

theorem Cancelling.cancelledOnce (cancelling : Cancelling config.trace config.state)
    (owned : Owned config.trace config.state) (guarded : Guarded config.state)
    (passed : AtEach StoresPassed config.trace) : CancelledOnce config := by
  have wakesNext (call : Nat) (box : Pointer)
      (found : config.state.cancels[call]? = some (.waking box)) :
      ∃ waker, machine.step config.state (.cancelWake call) =
        some ({ config.state with cancels := config.state.cancels.set call (.freeing box) },
          [.woke call waker]) := by
    have holding : box ∈ config.state.owners := List.mem_append_right _
      (mem_held_of_getElem? CancelPoint.held found (by simp [CancelPoint.held]))
    obtain ⟨waker, content⟩ := owned.live box holding
    refine ⟨waker, ?_⟩
    simp only [machine, cancelWake, found, content]
  have storesPassed (before : List (Event W T P)) (waker : W) (after : List (Event W T P))
      (split : config.trace = before ++ .stored waker :: after) :
      (pollStarts before).getLast? = some waker :=
    passed before (.stored waker) after split waker rfl
  cases cancelling with
  | before uncancelled unclaimed unwoken =>
      refine
        { atMostOne := by simp [unclaimed]
          exactlyOne := ?_
          inSlot := iff_of_false uncancelled (by simp [unclaimed])
          unwoken := fun _ => unwoken
          wakesLast := ?_
          wakesNext := wakesNext
          storesPassed := storesPassed }
      · intro call returned
        exact absurd (guarded.calls _ (List.mem_of_getElem? returned)) uncancelled
      · intro before call after split
        have member : .cancelled call ∈ config.trace := by simp [split]
        exact absurd unclaimed (observe_ne_nil_of_mem _ member (by simp))
  | after call first second cancelled split once unstored alone woken =>
      have one : cancellations config.trace = [call] := by
        rw [split]
        simp [once.1, once.2]
      refine
        { atMostOne := by simp [one]
          exactlyOne := fun _ _ => by simp [one]
          inSlot := iff_of_true cancelled (by simp [one])
          unwoken := fun none => by simp [one] at none
          wakesLast := ?_
          wakesNext := wakesNext
          storesPassed := storesPassed }
      intro before other after again
      obtain ⟨rfl, same, rfl⟩ := split_unique Event.cancellation?
        (again.symm.trans split) (by simp) once.1 once.2
      cases same
      exact ⟨woken.atMost, woken.returned⟩

theorem cancelledOnce_of_reaches (run : machine.Reaches guard (.initial State.new) config) :
    CancelledOnce config :=
  (cancelling_of_reaches run).cancelledOnce (owned_of_reaches run) (guarded_of_reaches run)
    (storesPassed_of_reaches run).2

/-- A call that sets `CANCELLED` wakes the waker stored last, and the task ends
with the poll that runs or comes next. -/
theorem cancellation_is_never_lost (run : machine.Reaches guard (.initial State.new) config) :
    CancelledOnce config ∧
    (config.state.slot = .cancelled → ∀ later, machine.Reaches guard config later →
      ∃ since, later.trace = config.trace ++ since ∧
        AfterTransition config.state since later.state) := by
  refine ⟨cancelledOnce_of_reaches run, ?_⟩
  intro cancelled later further
  obtain ⟨since, grows, spent⟩ := spent_of_reaches run cancelled further
  exact ⟨since, grows, spent.afterTransition⟩

/-- Two calls cancel a task between its second poll and its third. -/
def cancelBetweenPolls : List (Action Nat Nat Nat) :=
  [.poll 1, .check, .pollInner, .innerReturn .pending, .newBox 8, .updateLoad, .updateExchange,
    .updateReturn, .poll 2, .check, .pollInner, .innerReturn .pending, .newBox 9, .updateLoad,
    .updateExchange, .updateReturn, .cancel, .cancel, .cancelLoad 0, .cancelLoad 1,
    .cancelExchange 1, .cancelExchange 0, .cancelWake 1, .cancelFree 1]

theorem cancellation_is_never_lost_between_polls :
    ∃ config, machine.exec .any (.initial State.new) cancelBetweenPolls = some config ∧
      cancellations config.trace = [1] ∧ wakes config.trace = [(1, 2)] ∧
      CancelledOnce config ∧
      (config.state.slot = .cancelled → ∀ later, machine.Reaches .any config later →
        ∃ since, later.trace = config.trace ++ since ∧
          AfterTransition config.state since later.state) := by
  obtain ⟨config, executed, claimed, woke⟩ :
      ∃ config, machine.exec .any (.initial State.new) cancelBetweenPolls = some config ∧
        cancellations config.trace = [1] ∧ wakes config.trace = [(1, 2)] := ⟨_, rfl, rfl, rfl⟩
  have run : machine.Reaches .any (.initial State.new) config :=
    reaches_of_exec cancelBetweenPolls executed
  exact ⟨config, executed, claimed, woke, cancellation_is_never_lost run⟩

end Spawns.TaskFuture
