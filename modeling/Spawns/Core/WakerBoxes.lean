/-
Who owns the boxes of wakers that a task makes.

A box is owned by the `waker` field, by the slot, or by a local of one running
call. Raw pointers that a loop has loaded own nothing; they may only be compared.
-/

import Mathlib.Data.List.Nodup
import Spawns.Core.TaskProgress
import Spawns.Core.TaskSlot

namespace Spawns.TaskFuture

open EventMachine BoxHeap

open Machine (reaches_of_exec)

variable {W T P : Type} {trace events : List (Event W T P)} {state next : State W T P}

@[simp] def Event.allocated? : Event W T P → Option Nat
  | .allocated token => some token
  | _ => none

@[simp] def Event.released? : Event W T P → Option Nat
  | .released token => some token
  | _ => none

@[simp] def Event.invalidAccess? : Event W T P → Option Pointer
  | .invalidAccess pointer => some pointer
  | _ => none

abbrev allocated (trace : List (Event W T P)) : List Nat := observe Event.allocated? trace

abbrev released (trace : List (Event W T P)) : List Nat := observe Event.released? trace

abbrev invalidAccesses (trace : List (Event W T P)) : List Pointer :=
  observe Event.invalidAccess? trace

/-! ### Owners -/

/-- The box that a local of the running poll owns. -/
def Point.held : Point W T P → List Pointer
  | .loading _ box => [box]
  | .exchanging _ box _ => [box]
  | .storing returned => returned.toList
  | .rejecting box => [box]
  | _ => []

def CancelPoint.held : CancelPoint → List Pointer
  | .waking box => [box]
  | .freeing box => [box]
  | _ => []

def State.slotHeld (state : State W T P) : List Pointer :=
  if state.cancellationDropped then [] else state.slot.box?.toList

def State.owners (state : State W T P) : List Pointer :=
  state.waker.toList ++ state.slotHeld ++ state.point.held ++ state.cancels.flatMap CancelPoint.held

/-- The raw pointer that the running `update` compares against. -/
def Point.seen : Point W T P → List Pointer
  | .exchanging _ _ current => current.box?.toList
  | _ => []

def CancelPoint.seen : CancelPoint → List Pointer
  | .exchanging current => current.box?.toList
  | _ => []

def State.seen (state : State W T P) : List Pointer :=
  state.point.seen ++ state.cancels.flatMap CancelPoint.seen

structure Owned (trace : List (Event W T P)) (state : State W T P) : Prop where
  ledger : ∀ token, holds token state.owners + (released trace).count token =
    (allocated trace).count token
  numbered : allocated trace = List.range state.created
  live : ∀ box ∈ state.owners, state.heap.Live box
  valid : invalidAccesses trace = []
  seenSlot : ∀ box ∈ state.seen, ∀ found, state.slot = .waker found →
    found.address = box.address → found = box
  seenLive : state.slot ≠ .cancelled → state.point ≠ .dropped →
    ∀ box ∈ state.seen, state.heap.Live box
  emptied : state.point = .dropped → state.waker = none

theorem Owned.holds_le_one (owned : Owned trace state) (token : Nat) :
    holds token state.owners ≤ 1 := by
  have distinct : (allocated trace).Nodup := owned.numbered ▸ List.nodup_range
  have atMost := List.nodup_iff_count_le_one.mp distinct token
  have balance := owned.ledger token
  omega

/-! ### Drops of boxes -/

private theorem released_freeEvents {heap : Heap W} {box : Option Pointer}
    (live : ∀ pointer ∈ box.toList, heap.Live pointer) (token : Nat) :
    (released (freeEvents heap box : List (Event W T P))).count token =
      holds token box.toList := by
  cases box with
  | none => rfl
  | some pointer =>
      obtain ⟨content, found⟩ := live pointer (by simp)
      simp [freeEvents, found, List.count_singleton]

theorem mem_released_freeEvents {heap : Heap W} {box : Option Pointer} {pointer : Pointer}
    (live : ∀ pointer ∈ box.toList, heap.Live pointer) (inside : pointer ∈ box.toList) :
    pointer.token ∈ released (freeEvents heap box : List (Event W T P)) := by
  apply List.count_pos_iff.mp
  rw [released_freeEvents live]
  exact holds_pos inside

private theorem invalidAccesses_freeEvents {heap : Heap W} {box : Option Pointer}
    (live : ∀ pointer ∈ box.toList, heap.Live pointer) :
    invalidAccesses (freeEvents heap box : List (Event W T P)) = [] := by
  cases box with
  | none => rfl
  | some pointer =>
      obtain ⟨content, found⟩ := live pointer (by simp)
      simp [freeEvents, found]

theorem allocated_freeEvents (heap : Heap W) (box : Option Pointer) :
    allocated (freeEvents heap box : List (Event W T P)) = [] :=
  observe_freeEvents (fun _ => rfl) (fun _ => rfl) heap box

private theorem live_freeBox {heap : Heap W} {box : Option Pointer} {other : Pointer}
    (live : ∀ pointer ∈ box.toList, heap.Live pointer) (alive : heap.Live other)
    (apart : other ∉ box.toList) : (freeBox heap box).Live other := by
  cases box with
  | none => exact alive
  | some pointer =>
      have valid := live pointer (by simp)
      obtain ⟨content, found⟩ := valid
      simp only [freeBox, found]
      exact Heap.Live.free ⟨content, found⟩ alive (by simpa using apart)

/-! ### Balance of one step -/

theorem State.slot_mem_owners {box : Pointer} (present : state.cancellationDropped = false)
    (slot : state.slot = .waker box) : box ∈ state.owners := by
  simp [State.owners, State.slotHeld, present, slot, Slot.box?]

theorem Slot.box?_eq {slot : Slot} {box : Pointer} :
    slot.box? = some box ↔ slot = .waker box := by
  cases slot <;> simp [Slot.box?]

/-- The pointer that a compare-exchange found equal is the one in the slot. -/
private theorem Owned.exchanged {current : Slot} (owned : Owned trace state)
    (seen : ∀ box ∈ current.box?.toList, box ∈ state.seen)
    (same : state.slot.same current = true) : state.slot = current := by
  cases current with
  | null => exact Slot.same_null _ |>.mp same
  | cancelled => exact Slot.same_cancelled _ |>.mp same
  | waker box =>
      obtain ⟨found, slot, address⟩ := Slot.same_waker.mp same
      rw [slot, owned.seenSlot box (seen box (by simp [Slot.box?])) found slot address]

private theorem Owned.exchanged_point {waker : W} {box : Pointer} {current : Slot}
    (owned : Owned trace state) (point : state.point = .exchanging waker box current)
    (same : state.slot.same current = true) : state.slot = current := by
  refine owned.exchanged ?_ same
  intro other member
  simp [State.seen, point, Point.seen, Option.mem_toList.mp member]

theorem Owned.exchanged_call {call : Nat} {current : Slot} (owned : Owned trace state)
    (found : state.cancels[call]? = some (.exchanging current))
    (same : state.slot.same current = true) : state.slot = current := by
  refine owned.exchanged ?_ same
  intro other member
  exact List.mem_append_right _ (mem_held_of_getElem? CancelPoint.seen found member)

/-- What one step makes is held, and what it gives up is released. -/
private theorem step_balance {action : Action W T P} (owned : Owned trace state)
    (guarded : Guarded state)
    (transition : Transition state action next events) (token : Nat) :
    holds token next.owners + (released events).count token =
      holds token state.owners + (allocated events).count token := by
  have liveWaker : ∀ box ∈ state.waker.toList, state.heap.Live box := fun box member =>
    owned.live box (by simp [State.owners, Option.mem_toList.mp member])
  cases transition with
  | pollsFinished | boxDangles | cancelDangles => simp
  | pollStarts _ point | checkFinds _ point | checkPasses _ point | innerStarts _ point
  | innerPends _ point | innerEnds _ point | futureDrops _ _ point | futurePanicsInPoll _ point
  | futurePanicsInDrop _ point | wakeCalled _ _ point | pollEnds point | dropEnds point
  | dropFinishes point | dropSkips point | updateFinds _ _ point | updateLoads _ _ point
  | updateRejected _ _ _ point | updateRetries _ _ _ point =>
      simp [State.owners, State.slotHeld, point, Point.held]
  | boxReused waker box point spare =>
      simp [State.owners, State.slotHeld, point, Point.held, spare]
      omega
  | boxMade waker address point spare =>
      simp [State.owners, State.slotHeld, point, Point.held, spare, List.count_singleton]
      omega
  | updateStores waker box current point same =>
      have slot := owned.exchanged_point point same
      have present := guarded.present_of_point (by simp [point])
      simp [State.owners, State.slotHeld, point, Point.held, present, slot, Slot.box?]
      omega
  | updateReturns returned point =>
      have spare := guarded.taken (by rw [point]; trivial)
      simp [State.owners, State.slotHeld, point, Point.held, spare, freeEvents]
      omega
  | boxRejected box point =>
      have live : ∀ pointer ∈ (some box).toList, state.heap.Live pointer := fun pointer member =>
        owned.live pointer (by
          rw [List.mem_singleton.mp member]
          simp [State.owners, point, Point.held])
      rw [released_freeEvents live, allocated_freeEvents]
      simp [State.owners, State.slotHeld, point, Point.held]
      omega
  | fieldsDropped point =>
      rw [released_freeEvents liveWaker, allocated_freeEvents]
      simp [State.owners, State.slotHeld, point, Point.held]
      omega
  | cancelStarts => simp [State.owners, State.slotHeld, CancelPoint.held]
  | cancelFinds call found =>
      have places := holds_set CancelPoint.held token .returned found
      simp [State.owners, State.slotHeld, CancelPoint.held] at places ⊢
      omega
  | cancelLoads call found =>
      have places := holds_set CancelPoint.held token (.exchanging state.slot) found
      simp [State.owners, State.slotHeld, CancelPoint.held] at places ⊢
      omega
  | cancelLoses call current found =>
      have places := holds_set CancelPoint.held token .returned found
      simp [State.owners, State.slotHeld, CancelPoint.held] at places ⊢
      omega
  | cancelRetries call current found =>
      have places := holds_set CancelPoint.held token (.exchanging state.slot) found
      simp [State.owners, State.slotHeld, CancelPoint.held] at places ⊢
      omega
  | cancelWakes call box waker found =>
      have places := holds_set CancelPoint.held token (.freeing box) found
      simp [State.owners, State.slotHeld, CancelPoint.held] at places ⊢
      omega
  | cancelTakes call box found same =>
      have slot := owned.exchanged_call found same
      have present := guarded.present found (by simp)
      have places := holds_set CancelPoint.held token (.waking box) found
      simp [State.owners, State.slotHeld, CancelPoint.held, present, slot, Slot.box?] at places ⊢
      omega
  | cancelClaims call current found same empty =>
      have slot := owned.exchanged_call found same
      have present := guarded.present found (by simp)
      have places := holds_set CancelPoint.held token .returned found
      have none : Slot.cancelled.box? = none := rfl
      rw [← slot] at empty
      simp [State.owners, State.slotHeld, CancelPoint.held, present, empty, none] at places ⊢
      omega
  | cancelFrees call box found =>
      have live : ∀ pointer ∈ (some box).toList, state.heap.Live pointer := fun pointer member =>
        owned.live pointer (List.mem_append_right _
          (mem_held_of_getElem? CancelPoint.held found member))
      have places := holds_set CancelPoint.held token .returned found
      rw [released_freeEvents live, allocated_freeEvents]
      simp [State.owners, State.slotHeld, CancelPoint.held] at places ⊢
      omega
  | cancellationDrops point present atEnd =>
      have live : ∀ pointer ∈ state.slot.box?.toList, state.heap.Live pointer :=
        fun pointer member => owned.live pointer
          (State.slot_mem_owners present (Slot.box?_eq.mp (Option.mem_toList.mp member)))
      rw [released_freeEvents live, allocated_freeEvents]
      simp [State.owners, State.slotHeld, present]
      omega

/-! ### What one step keeps alive -/

private theorem step_owners {action : Action W T P} (owned : Owned trace state)
    (guarded : Guarded state)
    (transition : Transition state action next events) {box : Pointer}
    (member : box ∈ next.owners) :
    box ∈ state.owners ∨
      box.token = state.created ∧ action = .newBox box.address ∧
        state.heap box.address = none := by
  have calls_set (call : Nat) (point : CancelPoint)
      (holding : ∀ box ∈ point.held, box ∈ state.owners)
      (inside : box ∈ (state.cancels.set call point).flatMap CancelPoint.held) :
      box ∈ state.owners := by
    rcases mem_held_of_set CancelPoint.held inside with old | new
    · exact List.mem_append_right _ old
    · exact holding box new
  have elsewhere (outside : box ∈ state.waker.toList ++ state.slotHeld ++ state.point.held) :
      box ∈ state.owners := List.mem_append_left _ outside
  cases transition with
  | pollsFinished | boxDangles | cancelDangles => exact .inl member
  | pollStarts _ point | checkFinds _ point | checkPasses _ point | innerStarts _ point
  | innerPends _ point | innerEnds _ point | futureDrops _ _ point | futurePanicsInPoll _ point
  | futurePanicsInDrop _ point | wakeCalled _ _ point | pollEnds point | dropEnds point
  | dropFinishes point | dropSkips point | updateFinds _ _ point | updateLoads _ _ point
  | updateRejected _ _ _ point | updateRetries _ _ _ point =>
      left
      simpa [State.owners, State.slotHeld, point, Point.held] using member
  | boxReused waker box point spare =>
      left
      simp [State.owners, State.slotHeld, point, Point.held, spare] at member ⊢
      tauto
  | boxMade waker address point spare unused =>
      simp [State.owners, State.slotHeld, point, Point.held, spare] at member ⊢
      rcases member with slot | rfl | call
      · exact .inl (.inl slot)
      · exact .inr ⟨rfl, rfl, unused⟩
      · exact .inl (.inr call)
  | updateStores waker box current point same =>
      have slot := owned.exchanged_point point same
      have present := guarded.present_of_point (by simp [point])
      left
      simp [State.owners, State.slotHeld, point, Point.held, present, slot, Slot.box?] at member ⊢
      tauto
  | updateReturns returned point =>
      have spare := guarded.taken (by rw [point]; trivial)
      left
      simp [State.owners, State.slotHeld, point, Point.held, spare] at member ⊢
      tauto
  | boxRejected box point | fieldsDropped point =>
      left
      simp [State.owners, State.slotHeld, point, Point.held] at member ⊢
      tauto
  | cancelStarts =>
      left
      simpa [State.owners, State.slotHeld, CancelPoint.held] using member
  | cancelFinds call found | cancelLoads call found | cancelLoses call _ found
  | cancelRetries call _ found =>
      left
      rcases List.mem_append.mp member with outside | inside
      · exact elsewhere outside
      · exact calls_set call _ (by simp [CancelPoint.held]) inside
  | cancelWakes call box waker found =>
      left
      rcases List.mem_append.mp member with outside | inside
      · exact elsewhere outside
      · refine calls_set call _ (fun other holding => List.mem_append_right _ ?_) inside
        exact mem_held_of_getElem? CancelPoint.held found holding
  | cancelTakes call box found same =>
      have slot := owned.exchanged_call found same
      have present := guarded.present found (by simp)
      left
      rcases List.mem_append.mp member with outside | inside
      · apply elsewhere
        simp [State.slotHeld, present, Slot.box?] at outside ⊢
        tauto
      · refine calls_set call _ (fun other holding => ?_) inside
        rw [List.mem_singleton.mp holding]
        exact State.slot_mem_owners present slot
  | cancelClaims call current found same empty =>
      left
      rcases List.mem_append.mp member with outside | inside
      · apply elsewhere
        simp [State.slotHeld, Slot.box?] at outside ⊢
        tauto
      · exact calls_set call _ (by simp [CancelPoint.held]) inside
  | cancelFrees call box found =>
      left
      rcases List.mem_append.mp member with outside | inside
      · exact elsewhere outside
      · exact calls_set call _ (by simp [CancelPoint.held]) inside
  | cancellationDrops =>
      left
      simp [State.owners, State.slotHeld] at member ⊢
      tauto

theorem step_unreleased {action : Action W T P} (owned : Owned trace state)
    (guarded : Guarded state) (transition : Transition state action next events)
    (unmade : allocated events = []) {box : Pointer} (member : box ∈ next.owners) :
    box.token ∉ released events := by
  intro gone
  have balance := step_balance owned guarded transition box.token
  have held := holds_pos member
  have before := owned.holds_le_one box.token
  have dropped := List.count_pos_iff.mpr gone
  rw [unmade, List.count_nil] at balance
  omega

private theorem step_live {action : Action W T P} (owned : Owned trace state)
    (guarded : Guarded state)
    (transition : Transition state action next events) :
    ∀ box ∈ next.owners, next.heap.Live box := by
  intro box member
  have origin := step_owners owned guarded transition member
  have old (other : ∀ address, action ≠ .newBox address) : box ∈ state.owners := by
    rcases origin with before | ⟨_, made, _⟩
    · exact before
    · exact absurd made (other _)
  have kept (other : ∀ address, action ≠ .newBox address) : state.heap.Live box :=
    owned.live box (old other)
  -- A drop frees a box that nobody owns afterwards.
  have freed (gone : Option Pointer) (owns : ∀ pointer ∈ gone.toList, pointer ∈ state.owners)
      (shown : events = freeEvents state.heap gone)
      (other : ∀ address, action ≠ .newBox address) :
      (freeBox state.heap gone).Live box := by
    have live : ∀ pointer ∈ gone.toList, state.heap.Live pointer :=
      fun pointer inside => owned.live pointer (owns pointer inside)
    apply live_freeBox live (kept other)
    intro inside
    have unmade : allocated events = [] := by rw [shown, allocated_freeEvents]
    apply step_unreleased owned guarded transition unmade member
    rw [shown]
    exact mem_released_freeEvents live inside
  cases transition with
  | boxReused waker reused point spare =>
      have owner : reused ∈ state.owners := by simp [State.owners, spare]
      exact Heap.Live.put waker (owned.live reused owner) (kept nofun)
  | boxMade waker address point spare unused =>
      rcases origin with before | ⟨token, made, _⟩
      · exact Heap.Live.put_fresh waker unused (owned.live box before)
      · cases made
        rw [show (⟨box.address, state.created⟩ : Pointer) = box by rw [← token]]
        exact ⟨waker, Heap.read_put _ _ _⟩
  | updateReturns returned point =>
      have spare := guarded.taken (by rw [point]; trivial)
      rw [spare]
      exact kept nofun
  | boxRejected gone point =>
      refine freed (some gone) ?_ rfl nofun
      intro pointer inside
      rw [List.mem_singleton.mp inside]
      simp [State.owners, point, Point.held]
  | fieldsDropped point =>
      refine freed state.waker ?_ rfl nofun
      intro pointer inside
      simp [State.owners, Option.mem_toList.mp inside]
  | cancelFrees call gone found =>
      refine freed (some gone) ?_ rfl nofun
      intro pointer inside
      exact List.mem_append_right _ (mem_held_of_getElem? CancelPoint.held found inside)
  | cancellationDrops point present atEnd =>
      refine freed state.slot.box? ?_ rfl nofun
      intro pointer inside
      exact State.slot_mem_owners present (Slot.box?_eq.mp (Option.mem_toList.mp inside))
  | pollsFinished | pollStarts | checkFinds | checkPasses | innerStarts | innerPends | innerEnds
  | boxDangles | updateFinds | updateLoads | updateStores | updateRejected | updateRetries
  | futureDrops | futurePanicsInPoll | futurePanicsInDrop | wakeCalled | pollEnds | dropEnds
  | dropFinishes | dropSkips | cancelStarts | cancelFinds | cancelLoads | cancelTakes
  | cancelClaims | cancelLoses | cancelRetries | cancelWakes | cancelDangles => exact kept nofun

private theorem step_valid {action : Action W T P} (owned : Owned trace state)
    (guarded : Guarded state)
    (transition : Transition state action next events) : invalidAccesses events = [] := by
  cases transition with
  | boxDangles waker box point spare dangling =>
      exact absurd (owned.live box (by simp [State.owners, spare])) dangling
  | cancelDangles call box found dangling =>
      have member : box ∈ state.owners := List.mem_append_right _
        (mem_held_of_getElem? CancelPoint.held found (by simp [CancelPoint.held]))
      exact absurd (owned.live box member) dangling
  | updateReturns returned point =>
      have spare := guarded.taken (by rw [point]; trivial)
      simp [spare, freeEvents]
  | boxRejected box point =>
      refine invalidAccesses_freeEvents fun pointer inside => owned.live pointer ?_
      rw [List.mem_singleton.mp inside]
      simp [State.owners, point, Point.held]
  | fieldsDropped point =>
      refine invalidAccesses_freeEvents fun pointer inside => owned.live pointer ?_
      simp [State.owners, Option.mem_toList.mp inside]
  | cancelFrees call box found =>
      refine invalidAccesses_freeEvents fun pointer inside => owned.live pointer ?_
      exact List.mem_append_right _ (mem_held_of_getElem? CancelPoint.held found inside)
  | cancellationDrops point present atEnd =>
      refine invalidAccesses_freeEvents fun pointer inside => owned.live pointer ?_
      exact State.slot_mem_owners present (Slot.box?_eq.mp (Option.mem_toList.mp inside))
  | pollsFinished | pollStarts | checkFinds | checkPasses | innerStarts | innerPends | innerEnds
  | boxReused | boxMade | updateFinds | updateLoads | updateStores | updateRejected
  | updateRetries | futureDrops | futurePanicsInPoll | futurePanicsInDrop | wakeCalled | pollEnds
  | dropEnds | dropFinishes | dropSkips | cancelStarts | cancelFinds | cancelLoads | cancelTakes
  | cancelClaims | cancelLoses | cancelRetries | cancelWakes => rfl

private theorem step_numbered {action : Action W T P}
    (numbered : allocated trace = List.range state.created)
    (transition : Transition state action next events) :
    allocated (trace ++ events) = List.range next.created := by
  have kept (unmade : allocated events = []) (same : next.created = state.created) :
      allocated (trace ++ events) = List.range next.created := by
    simp only [observe_append, unmade, numbered, same, List.append_nil]
  cases transition with
  | boxMade => simp [numbered, List.range_succ]
  | updateReturns =>
      refine kept ?_ rfl
      simp [allocated_freeEvents]
  | boxRejected | fieldsDropped | cancelFrees | cancellationDrops =>
      exact kept (allocated_freeEvents _ _) rfl
  | pollsFinished | pollStarts | checkFinds | checkPasses | innerStarts | innerPends | innerEnds
  | boxReused | boxDangles | updateFinds | updateLoads | updateStores | updateRejected
  | updateRetries | futureDrops | futurePanicsInPoll | futurePanicsInDrop | wakeCalled | pollEnds
  | dropEnds | dropFinishes | dropSkips | cancelStarts | cancelFinds | cancelLoads | cancelTakes
  | cancelClaims | cancelLoses | cancelRetries | cancelWakes | cancelDangles => exact kept rfl rfl

/-! ### Pointers that are only compared -/

/-- A loop compares against pointers it had before, or against the slot's own. -/
private theorem step_seen {action : Action W T P} (transition : Transition state action next events)
    {box : Pointer} (member : box ∈ next.seen) : box ∈ state.seen ∨ state.slot = .waker box := by
  have calls_set (call : Nat) (point : CancelPoint)
      (fresh : ∀ box ∈ point.seen, state.slot = .waker box)
      (inside : box ∈ (state.cancels.set call point).flatMap CancelPoint.seen) :
      box ∈ state.seen ∨ state.slot = .waker box := by
    rcases mem_held_of_set CancelPoint.seen inside with old | new
    · exact .inl (List.mem_append_right _ old)
    · exact .inr (fresh box new)
  have loaded (inside : box ∈ state.slot.box?.toList) : state.slot = .waker box :=
    Slot.box?_eq.mp (Option.mem_toList.mp inside)
  cases transition with
  | pollsFinished | boxDangles | cancelDangles | cancellationDrops => exact .inl member
  | pollStarts | checkFinds | checkPasses | innerStarts | innerPends | innerEnds | boxReused
  | boxMade | updateFinds | updateStores | updateRejected | updateReturns | boxRejected
  | futureDrops | futurePanicsInPoll | futurePanicsInDrop | wakeCalled | pollEnds | dropEnds
  | dropFinishes | dropSkips | fieldsDropped =>
      exact .inl (List.mem_append_right _ member)
  | updateLoads | updateRetries =>
      rcases List.mem_append.mp member with point | inside
      · exact .inr (loaded point)
      · exact .inl (List.mem_append_right _ inside)
  | cancelStarts =>
      left
      simpa [State.seen, CancelPoint.seen] using member
  | cancelFinds | cancelTakes | cancelClaims | cancelLoses | cancelWakes | cancelFrees =>
      rcases List.mem_append.mp member with point | inside
      · exact .inl (List.mem_append_left _ point)
      · exact calls_set _ _ (by simp [CancelPoint.seen]) inside
  | cancelLoads call | cancelRetries call _ =>
      rcases List.mem_append.mp member with point | inside
      · exact .inl (List.mem_append_left _ point)
      · refine calls_set call (.exchanging state.slot) (fun box fresh => ?_) inside
        exact Slot.box?_eq.mp (Option.mem_toList.mp fresh)

private theorem step_seenSlot {action : Action W T P} (owned : Owned trace state)
    (guarded : Guarded state) (transition : Transition state action next events) :
    ∀ box ∈ next.seen, ∀ found, next.slot = .waker found → found.address = box.address →
      found = box := by
  intro box member found slot address
  have origin := step_seen transition member
  have kept (same : state.slot = .waker found) : found = box := by
    rcases origin with before | own
    · exact owned.seenSlot box before found same address
    · rw [own] at same
      cases same
      rfl
  cases transition with
  | updateStores waker _ current point same =>
      cases slot
      have uncancelled := guarded.uncancelled point same
      have running : state.point ≠ .dropped := by simp [point]
      have owner : found ∈ state.owners := by simp [State.owners, point, Point.held]
      have alive : state.heap.Live box := by
        rcases origin with before | own
        · exact owned.seenLive uncancelled running box before
        · exact owned.live box
            (State.slot_mem_owners (guarded.present_of_point running) own)
      exact (owned.live found owner).eq_of_address alive address
  | cancelTakes | cancelClaims => cases slot
  | pollsFinished | pollStarts | checkFinds | checkPasses | innerStarts | innerPends | innerEnds
  | boxReused | boxDangles | boxMade | updateFinds | updateLoads | updateRejected | updateRetries
  | updateReturns | boxRejected | futureDrops | futurePanicsInPoll | futurePanicsInDrop
  | wakeCalled | pollEnds | dropEnds | dropFinishes | dropSkips | fieldsDropped | cancelStarts
  | cancelFinds | cancelLoads | cancelLoses | cancelRetries | cancelWakes | cancelDangles
  | cancelFrees | cancellationDrops => exact kept slot

/-- Until the transition to `CANCELLED` or the end of the task no box is freed. -/
private theorem step_seenLive {action : Action W T P} (owned : Owned trace state)
    (guarded : Guarded state) (transition : Transition state action next events)
    (uncancelled : next.slot ≠ .cancelled) (running : next.point ≠ .dropped) :
    ∀ box ∈ next.seen, next.heap.Live box := by
  intro box member
  have uncancelledBefore : state.slot ≠ .cancelled := fun cancelled =>
    uncancelled (step_cancelled guarded cancelled transition)
  have alive (runningBefore : state.point ≠ .dropped) : state.heap.Live box := by
    rcases step_seen transition member with before | own
    · exact owned.seenLive uncancelledBefore runningBefore box before
    · exact owned.live box
        (State.slot_mem_owners (guarded.present_of_point runningBefore) own)
  cases transition with
  | boxReused waker reused point spare =>
      have owner : reused ∈ state.owners := by simp [State.owners, spare]
      exact Heap.Live.put waker (owned.live reused owner) (alive (by simp [point]))
  | boxMade waker address point spare unused =>
      exact Heap.Live.put_fresh waker unused (alive (by simp [point]))
  | updateReturns returned point =>
      have spare := guarded.taken (by rw [point]; trivial)
      rw [spare]
      exact alive (by simp [point])
  | boxRejected gone point =>
      have cancelled := guarded.point
      rw [point] at cancelled
      exact absurd cancelled uncancelledBefore
  | cancelFrees call gone found =>
      exact absurd (guarded.calls _ (List.mem_of_getElem? found)) uncancelledBefore
  | fieldsDropped => exact absurd rfl running
  | cancellationDrops point => exact absurd point running
  | pollsFinished _ point | pollStarts _ point | checkFinds _ point | checkPasses _ point
  | innerStarts _ point | innerPends _ point | innerEnds _ point | boxDangles _ _ point
  | updateFinds _ _ point | updateLoads _ _ point | updateStores _ _ _ point
  | updateRejected _ _ _ point | updateRetries _ _ _ point | futureDrops _ _ point
  | futurePanicsInPoll _ point | futurePanicsInDrop _ point | wakeCalled _ _ point
  | pollEnds point | dropEnds point | dropFinishes point | dropSkips point =>
      exact alive (by simp [point])
  | cancelStarts | cancelFinds | cancelLoads | cancelTakes | cancelClaims | cancelLoses
  | cancelRetries | cancelWakes | cancelDangles => exact alive running

/-! ### The invariant of every run -/

theorem step_owned {action : Action W T P} (owned : Owned trace state) (guarded : Guarded state)
    (transition : Transition state action next events) : Owned (trace ++ events) next where
  ledger := by
    intro token
    have before := owned.ledger token
    have balance := step_balance owned guarded transition token
    have releases : released (trace ++ events) = released trace ++ released events :=
      observe_append _ _ _
    have makes : allocated (trace ++ events) = allocated trace ++ allocated events :=
      observe_append _ _ _
    rw [releases, makes, List.count_append, List.count_append]
    omega
  numbered := step_numbered owned.numbered transition
  live := step_live owned guarded transition
  valid := by
    simp only [observe_append, owned.valid, step_valid owned guarded transition, List.append_nil]
  seenSlot := step_seenSlot owned guarded transition
  seenLive := step_seenLive owned guarded transition
  emptied := by
    intro dropped
    cases transition with
    | fieldsDropped => rfl
    | pollsFinished | boxDangles | cancelStarts | cancelFinds | cancelLoads | cancelTakes
    | cancelClaims | cancelLoses | cancelRetries | cancelWakes | cancelDangles | cancelFrees
    | cancellationDrops => exact owned.emptied dropped
    | pollStarts | checkFinds | checkPasses | innerStarts | innerPends | innerEnds | boxReused
    | boxMade | updateFinds | updateLoads | updateStores | updateRejected | updateRetries
    | updateReturns | boxRejected | futureDrops | futurePanicsInPoll | futurePanicsInDrop
    | wakeCalled | pollEnds | dropEnds | dropFinishes | dropSkips => cases dropped

variable {guard : Guard (State W T P) (Action W T P) (Event W T P)}
  {config : Config (State W T P) (Event W T P)}

theorem owned_of_reaches (run : machine.Reaches guard (.initial State.new) config) :
    Owned config.trace config.state := by
  apply run.invariant (fun config => Owned config.trace config.state)
  · exact
      { ledger := fun _ => rfl
        numbered := rfl
        live := nofun
        valid := rfl
        seenSlot := nofun
        seenLive := fun _ _ => nofun
        emptied := fun _ => rfl }
  · intro before action next events reached owned _allowed stepped
    exact step_owned owned (guarded_of_reaches reached) (transition_of_step stepped)

/-! ### At most two boxes -/

def Point.Unboxed : Point W T P → Prop
  | .idle => True
  | .checking _ => True
  | .polling _ => True
  | .inner _ => True
  | .boxing _ => True
  | _ => False

/-- The second box is made only by a poll that finds the first one in the slot,
or taken from it. -/
structure Bounded (state : State W T P) : Prop where
  atMostTwo : state.created ≤ 2
  unstored : state.slot = .null → state.waker = none ∧ state.created ≤ state.point.held.length
  spareless : state.hasFuture = true → state.point.Unboxed → state.waker = none →
    state.created ≤ 1
  returning : ∀ returned, state.point = .storing returned → state.slot ≠ .null ∧
    (returned = none → state.created ≤ 1)

theorem step_bounded {action : Action W T P} (bounded : Bounded state)
    (progress : Progress trace state) (guarded : Guarded state)
    (transition : Transition state action next events) : Bounded next := by
  have unheld (stays : next.slot = state.slot) (spare : next.waker = state.waker)
      (made : next.created = state.created) (at_ : state.point.held.length ≤ next.point.held.length)
      (null : next.slot = .null) :
      next.waker = none ∧ next.created ≤ next.point.held.length := by
    have before := bounded.unstored (stays ▸ null)
    exact ⟨spare.trans before.1, by omega⟩
  cases transition with
  | pollsFinished | boxDangles | cancelDangles => exact bounded
  | pollStarts _ point future =>
      exact ⟨bounded.atMostTwo, unheld rfl rfl rfl (by simp [point, Point.held]),
        fun _ _ => bounded.spareless future (by rw [point]; trivial), nofun⟩
  | checkPasses _ point | innerStarts _ point | innerPends _ point =>
      exact ⟨bounded.atMostTwo, unheld rfl rfl rfl (by simp [point, Point.held]),
        fun future _ => bounded.spareless future (by rw [point]; trivial), nofun⟩
  | checkFinds _ point | innerEnds _ point | dropFinishes point | dropSkips point
  | wakeCalled _ _ point | dropEnds point | futureDrops _ _ point | futurePanicsInDrop _ point =>
      exact ⟨bounded.atMostTwo, unheld rfl rfl rfl (by simp [point, Point.held]), nofun, nofun⟩
  | futurePanicsInPoll _ point =>
      exact ⟨bounded.atMostTwo, unheld rfl rfl rfl (by simp [point, Point.held]), nofun, nofun⟩
  | pollEnds point =>
      have gone := progress.gone_of_over (by rw [point]; trivial) (by simp [point])
      refine ⟨bounded.atMostTwo, unheld rfl rfl rfl (by simp [point, Point.held]), ?_, nofun⟩
      intro future
      rw [gone] at future
      cases future
  | boxReused waker box point spare =>
      refine ⟨bounded.atMostTwo, fun null => ?_, nofun, nofun⟩
      have before := (bounded.unstored null).1
      rw [spare] at before
      cases before
  | boxMade waker address point spare =>
      have future := progress.future_of_running (by rw [point]; trivial)
        (by rw [point]; exact not_false)
      have one := bounded.spareless future (by rw [point]; trivial) spare
      refine ⟨Nat.succ_le_succ one, fun null => ⟨spare, ?_⟩, nofun, nofun⟩
      have before := (bounded.unstored null).2
      simp only [point, Point.held, List.length_nil, List.length_singleton] at before ⊢
      omega
  | updateFinds _ _ point | updateLoads _ _ point | updateRejected _ _ _ point
  | updateRetries _ _ _ point =>
      exact ⟨bounded.atMostTwo, unheld rfl rfl rfl (by simp [point, Point.held]), nofun, nofun⟩
  | updateStores waker box current point same =>
      refine ⟨bounded.atMostTwo, nofun, nofun, ?_⟩
      intro returned storing
      refine ⟨nofun, fun nothing => ?_⟩
      have empty : current.box? = none := by
        have shown : current.box? = returned := by simpa using storing
        rw [shown, nothing]
      have null : state.slot = .null := by
        have uncancelled := guarded.uncancelled point same
        cases current with
        | null => exact (Slot.same_null _).mp same
        | cancelled => exact absurd ((Slot.same_cancelled _).mp same) uncancelled
        | waker => cases empty
      have before := (bounded.unstored null).2
      simpa only [point, Point.held, List.length_singleton] using before
  | updateReturns returned point =>
      have stored := bounded.returning returned point
      exact ⟨bounded.atMostTwo, fun null => absurd null stored.1, fun _ _ => stored.2, nofun⟩
  | boxRejected box point =>
      have cancelled := guarded.point
      rw [point] at cancelled
      refine ⟨bounded.atMostTwo, fun null => ?_, nofun, nofun⟩
      rw [show state.slot = .cancelled from cancelled] at null
      cases null
  | fieldsDropped point =>
      refine ⟨bounded.atMostTwo, fun null => ⟨rfl, ?_⟩, nofun, nofun⟩
      have before := (bounded.unstored null).2
      simpa only [point, Point.held] using before
  | cancelStarts | cancelFinds | cancelLoads | cancelLoses | cancelRetries | cancelWakes
  | cancelFrees | cancellationDrops =>
      exact ⟨bounded.atMostTwo, bounded.unstored, bounded.spareless, bounded.returning⟩
  | cancelTakes | cancelClaims =>
      exact ⟨bounded.atMostTwo, nofun, bounded.spareless,
        fun returned storing => ⟨nofun, (bounded.returning returned storing).2⟩⟩

theorem bounded_of_reaches (run : machine.Reaches guard (.initial State.new) config) :
    Bounded config.state := by
  apply run.invariant (fun config => Bounded config.state)
  · exact ⟨by simp [Config.initial, State.new], fun _ => ⟨rfl, Nat.le_refl 0⟩,
      fun _ _ _ => by simp [Config.initial, State.new], nofun⟩
  · intro before action next events reached bounded _allowed stepped
    exact step_bounded bounded (progress_of_reaches reached) (guarded_of_reaches reached)
      (transition_of_step stepped)

/-- Every box made is owned in one place until it is released, once, and none is misused. -/
structure BoxesKept (trace : List (Event W T P)) (state : State W T P) : Prop where
  valid : invalidAccesses trace = []
  accounted : ∀ token ∈ allocated trace, holds token state.owners + (released trace).count token = 1
  allReleased : state.cancellationDropped = true → state.owners = []

theorem Owned.boxesKept (owned : Owned trace state) (guarded : Guarded state) :
    BoxesKept trace state := by
  refine ⟨owned.valid, ?_, ?_⟩
  · intro token member
    rw [owned.ledger token]
    exact List.count_eq_one_of_mem (owned.numbered ▸ List.nodup_range) member
  · intro gone
    obtain ⟨dropped, atEnd⟩ := guarded.atEnd gone
    have callsHold : state.cancels.flatMap CancelPoint.held = [] := by
      rw [List.flatMap_eq_nil_iff]
      intro call member
      rw [atEnd call member]
      rfl
    simp [State.owners, State.slotHeld, gone, owned.emptied dropped, dropped, Point.held,
      callsHold]

/-! ### Conservation -/

structure Conserved (config : Config (State W T P) (Event W T P)) : Prop where
  heldOnce : ∀ token ∈ allocated config.trace, token ∉ released config.trace →
    holds token config.state.owners = 1
  releasedOnce : ∀ token ∈ released config.trace,
    (released config.trace).count token = 1 ∧ holds token config.state.owners = 0
  onlyMade : ∀ box ∈ config.state.owners, box.token ∈ allocated config.trace
  apart : ∀ spare stored, config.state.waker = some spare → config.state.slot = .waker stored →
    spare.token ≠ stored.token
  noDanglingAccess : invalidAccesses config.trace = []
  allReleased : config.state.cancellationDropped = true →
    config.state.owners = [] ∧ ∀ token ∈ allocated config.trace,
      (released config.trace).count token = 1
  atMostTwo : (allocated config.trace).length ≤ 2

/-- Every box made by a task is owned in one place until it is released, once. -/
theorem waker_boxes_are_conserved (run : machine.Reaches guard (.initial State.new) config) :
    Conserved config := by
  have owned := owned_of_reaches run
  have guarded := guarded_of_reaches run
  have made (token : Nat) (member : token ∈ allocated config.trace) :
      (allocated config.trace).count token = 1 :=
    List.count_eq_one_of_mem (owned.numbered ▸ List.nodup_range) member
  have once (token : Nat) : (allocated config.trace).count token ≤ 1 :=
    List.nodup_iff_count_le_one.mp (owned.numbered ▸ List.nodup_range) token
  refine
    { heldOnce := ?_
      releasedOnce := ?_
      onlyMade := ?_
      apart := ?_
      noDanglingAccess := owned.valid
      allReleased := ?_
      atMostTwo := ?_ }
  · intro token member unreleased
    have balance := owned.ledger token
    rw [made token member, List.count_eq_zero.mpr unreleased] at balance
    omega
  · intro token member
    have balance := owned.ledger token
    have atMost := once token
    have gone := List.count_pos_iff.mpr member
    omega
  · intro box member
    have balance := owned.ledger box.token
    have held := holds_pos member
    exact List.count_pos_iff.mp (by omega)
  · intro spare stored waker slot same
    have present : config.state.cancellationDropped = false := by
      by_contra gone
      have dropped := (guarded.atEnd (Bool.not_eq_false _ ▸ gone)).1
      rw [owned.emptied dropped] at waker
      cases waker
    have atMost := owned.holds_le_one stored.token
    simp [State.owners, State.slotHeld, present, waker, slot, Slot.box?, same] at atMost
  · intro gone
    obtain ⟨dropped, atEnd⟩ := guarded.atEnd gone
    have callsHold : config.state.cancels.flatMap CancelPoint.held = [] := by
      rw [List.flatMap_eq_nil_iff]
      intro call member
      rw [atEnd call member]
      rfl
    have nobody : config.state.owners = [] := by
      simp [State.owners, State.slotHeld, gone, owned.emptied dropped, dropped, Point.held,
        callsHold]
    refine ⟨nobody, fun token member => ?_⟩
    have balance := owned.ledger token
    rw [nobody, made token member, holds_nil] at balance
    omega
  · rw [owned.numbered, List.length_range]
    exact (bounded_of_reaches run).atMostTwo

/-- A cancel compares against an address that left the slot and came back. -/
def boxReturnsToSlot : List (Action Nat Nat Nat) :=
  [.poll 1, .check, .pollInner, .innerReturn .pending, .newBox 8, .updateLoad, .updateExchange,
    .updateReturn, .cancel, .cancelLoad 0,
    .poll 2, .check, .pollInner, .innerReturn .pending, .newBox 9, .updateLoad, .updateExchange,
    .updateReturn,
    .poll 3, .check, .pollInner, .innerReturn .pending, .reuseBox, .updateLoad, .updateExchange,
    .updateReturn, .cancelExchange 0, .cancelWake 0, .cancelFree 0,
    .poll 4, .check, .dropFuture false, .callWake, .returnWake, .drop, .dropFields,
    .dropCancellation]

theorem waker_boxes_are_conserved_returning :
    ∃ config, machine.exec .any (.initial State.new) boxReturnsToSlot = some config ∧
      config.state.cancellationDropped = true ∧ released config.trace = [0, 1] ∧
      Conserved config := by
  obtain ⟨config, executed, gone, freed⟩ :
      ∃ config, machine.exec .any (.initial State.new) boxReturnsToSlot = some config ∧
        config.state.cancellationDropped = true ∧ released config.trace = [0, 1] :=
    ⟨_, rfl, rfl, rfl⟩
  have run : machine.Reaches .any (.initial State.new) config :=
    reaches_of_exec boxReturnsToSlot executed
  exact ⟨config, executed, gone, freed, waker_boxes_are_conserved run⟩

end Spawns.TaskFuture
