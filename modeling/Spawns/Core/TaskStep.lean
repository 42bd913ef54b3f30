/-
What one step of a task can do: every branch of every action, with its guards.

Later proofs case on `Transition` and never unfold an action.
-/

import Spawns.Core.TaskFuture

namespace Spawns

open EventMachine BoxHeap

theorem Slot.same_self (slot : Slot) : slot.same slot = true := by
  cases slot <;> simp [Slot.same]

theorem Slot.same_cancelled (slot : Slot) :
    slot.same .cancelled = true ↔ slot = .cancelled := by
  cases slot <;> simp [Slot.same]

theorem Slot.same_null (slot : Slot) : slot.same .null = true ↔ slot = .null := by
  cases slot <;> simp [Slot.same]

theorem Slot.same_waker {slot : Slot} {box : Pointer} :
    slot.same (.waker box) = true ↔ ∃ found, slot = .waker found ∧ found.address = box.address := by
  cases slot <;> simp [Slot.same]

namespace TaskFuture

variable {W T P : Type} {trace events : List (Event W T P)} {state next : State W T P}

inductive Transition (state : State W T P) :
    Action W T P → State W T P → List (Event W T P) → Prop where
  | pollsFinished (waker : W) (point : state.point = .idle) (done : state.hasFuture = false) :
      Transition state (.poll waker) state [.pollStarted waker, .pollReturned .ready]
  | pollStarts (waker : W) (point : state.point = .idle) (unfinished : state.hasFuture = true) :
      Transition state (.poll waker) { state with point := .checking waker } [.pollStarted waker]
  | checkFinds (waker : W) (point : state.point = .checking waker)
      (cancelled : state.slot = .cancelled) :
      Transition state .check { state with point := .finishing .poll (.error .cancelled) } []
  | checkPasses (waker : W) (point : state.point = .checking waker)
      (uncancelled : state.slot ≠ .cancelled) :
      Transition state .check { state with point := .polling waker } []
  | innerStarts (waker : W) (point : state.point = .polling waker) :
      Transition state .pollInner { state with point := .inner waker } [.innerStarted]
  | innerPends (waker : W) (point : state.point = .inner waker) :
      Transition state (.innerReturn .pending) { state with point := .boxing waker }
        [.innerReturned .pending]
  | innerEnds (waker : W) (point : state.point = .inner waker) (answer : InnerAnswer T P)
      (value : TaskResult T P)
      (ends : (∃ output, answer = .ready output ∧ value = .ok output) ∨
        ∃ payload, answer = .panicked payload ∧ value = .error (.panic payload)) :
      Transition state (.innerReturn answer) { state with point := .finishing .poll value }
        [.innerReturned answer]
  | boxReused (waker : W) (box : Pointer) (point : state.point = .boxing waker)
      (spare : state.waker = some box) (live : state.heap.Live box) :
      Transition state .reuseBox { state with
        waker := none
        heap := state.heap.put box waker
        point := .loading waker box } []
  | boxDangles (waker : W) (box : Pointer) (point : state.point = .boxing waker)
      (spare : state.waker = some box) (dangling : ¬ state.heap.Live box) :
      Transition state .reuseBox state [.invalidAccess box]
  | boxMade (waker : W) (address : Nat) (point : state.point = .boxing waker)
      (spare : state.waker = none) (unused : state.heap address = none) :
      Transition state (.newBox address) { state with
        heap := state.heap.put ⟨address, state.created⟩ waker
        created := state.created + 1
        point := .loading waker ⟨address, state.created⟩ } [.allocated state.created]
  | updateFinds (waker : W) (box : Pointer) (point : state.point = .loading waker box)
      (cancelled : state.slot = .cancelled) :
      Transition state .updateLoad { state with point := .rejecting box } []
  | updateLoads (waker : W) (box : Pointer) (point : state.point = .loading waker box)
      (uncancelled : state.slot ≠ .cancelled) :
      Transition state .updateLoad { state with point := .exchanging waker box state.slot } []
  | updateStores (waker : W) (box : Pointer) (current : Slot)
      (point : state.point = .exchanging waker box current)
      (same : state.slot.same current = true) :
      Transition state .updateExchange
        { state with slot := .waker box, point := .storing current.box? }
        [.stored waker]
  | updateRejected (waker : W) (box : Pointer) (current : Slot)
      (point : state.point = .exchanging waker box current)
      (changed : state.slot.same current = false) (cancelled : state.slot = .cancelled) :
      Transition state .updateExchange { state with point := .rejecting box } [.updateMissed]
  | updateRetries (waker : W) (box : Pointer) (current : Slot)
      (point : state.point = .exchanging waker box current)
      (changed : state.slot.same current = false) (uncancelled : state.slot ≠ .cancelled) :
      Transition state .updateExchange { state with point := .exchanging waker box state.slot }
        [.updateMissed]
  | updateReturns (returned : Option Pointer) (point : state.point = .storing returned) :
      Transition state .updateReturn { state with
        waker := returned
        heap := freeBox state.heap state.waker
        point := .idle } (freeEvents state.heap state.waker ++ [.pollReturned .pending])
  | boxRejected (box : Pointer) (point : state.point = .rejecting box) :
      Transition state .rejectBox { state with
        heap := freeBox state.heap (some box)
        point := .finishing .poll (.error .cancelled) } (freeEvents state.heap (some box))
  | futureDrops (caller : Caller) (value : TaskResult T P)
      (point : state.point = .finishing caller value) :
      Transition state (.dropFuture false)
        { state with hasFuture := false, point := .handing caller value }
        [.futureDropped false]
  | futurePanicsInPoll (value : TaskResult T P) (point : state.point = .finishing .poll value) :
      Transition state (.dropFuture true) { state with hasFuture := false, point := .idle }
        [.futureDropped true, .pollReturned .unwound]
  | futurePanicsInDrop (value : TaskResult T P) (point : state.point = .finishing .drop value) :
      Transition state (.dropFuture true) { state with hasFuture := false, point := .dropping }
        [.futureDropped true]
  | wakeCalled (caller : Caller) (value : TaskResult T P)
      (point : state.point = .handing caller value) :
      Transition state .callWake { state with point := .notifying caller } [.handed value]
  | pollEnds (point : state.point = .notifying .poll) :
      Transition state .returnWake { state with point := .idle } [.pollReturned .ready]
  | dropEnds (point : state.point = .notifying .drop) :
      Transition state .returnWake { state with point := .dropping } []
  | dropFinishes (point : state.point = .idle) (unfinished : state.hasFuture = true) :
      Transition state .drop { state with point := .finishing .drop (.error .cancelled) }
        [.dropBegan true]
  | dropSkips (point : state.point = .idle) (done : state.hasFuture = false) :
      Transition state .drop { state with point := .dropping } [.dropBegan false]
  | fieldsDropped (point : state.point = .dropping) :
      Transition state .dropFields { state with
        waker := none
        heap := freeBox state.heap state.waker
        point := .dropped } (freeEvents state.heap state.waker)
  | cancelStarts (present : state.cancellationDropped = false) :
      Transition state .cancel { state with cancels := state.cancels ++ [.loading] } []
  | cancelFinds (call : Nat) (found : state.cancels[call]? = some .loading)
      (cancelled : state.slot = .cancelled) :
      Transition state (.cancelLoad call) { state with cancels := state.cancels.set call .returned }
        []
  | cancelLoads (call : Nat) (found : state.cancels[call]? = some .loading)
      (uncancelled : state.slot ≠ .cancelled) :
      Transition state (.cancelLoad call) { state with
        cancels := state.cancels.set call (.exchanging state.slot) } []
  | cancelTakes (call : Nat) (box : Pointer)
      (found : state.cancels[call]? = some (.exchanging (.waker box)))
      (same : state.slot.same (.waker box) = true) :
      Transition state (.cancelExchange call) { state with
        slot := .cancelled
        cancels := state.cancels.set call (.waking box) } [.cancelled call]
  | cancelClaims (call : Nat) (current : Slot)
      (found : state.cancels[call]? = some (.exchanging current))
      (same : state.slot.same current = true) (empty : current.box? = none) :
      Transition state (.cancelExchange call) { state with
        slot := .cancelled
        cancels := state.cancels.set call .returned } [.cancelled call]
  | cancelLoses (call : Nat) (current : Slot)
      (found : state.cancels[call]? = some (.exchanging current))
      (changed : state.slot.same current = false) (cancelled : state.slot = .cancelled) :
      Transition state (.cancelExchange call)
        { state with cancels := state.cancels.set call .returned }
        [.cancelMissed call]
  | cancelRetries (call : Nat) (current : Slot)
      (found : state.cancels[call]? = some (.exchanging current))
      (changed : state.slot.same current = false) (uncancelled : state.slot ≠ .cancelled) :
      Transition state (.cancelExchange call) { state with
        cancels := state.cancels.set call (.exchanging state.slot) } [.cancelMissed call]
  | cancelWakes (call : Nat) (box : Pointer) (waker : W)
      (found : state.cancels[call]? = some (.waking box))
      (content : state.heap.read box = some waker) :
      Transition state (.cancelWake call)
        { state with cancels := state.cancels.set call (.freeing box) }
        [.woke call waker]
  | cancelDangles (call : Nat) (box : Pointer) (found : state.cancels[call]? = some (.waking box))
      (dangling : ¬ state.heap.Live box) :
      Transition state (.cancelWake call) state [.invalidAccess box]
  | cancelFrees (call : Nat) (box : Pointer)
      (found : state.cancels[call]? = some (.freeing box)) :
      Transition state (.cancelFree call) { state with
        heap := freeBox state.heap (some box)
        cancels := state.cancels.set call .returned } (freeEvents state.heap (some box))
  | cancellationDrops (point : state.point = .dropped)
      (present : state.cancellationDropped = false)
      (atEnd : ∀ call ∈ state.cancels, call = .returned) :
      Transition state .dropCancellation { state with
        heap := freeBox state.heap state.slot.box?
        cancellationDropped := true } (freeEvents state.heap state.slot.box?)

private theorem live_of_read {heap : Heap W} {box : Pointer} {content : W}
    (found : heap.read box = some content) : heap.Live box := ⟨content, found⟩

private theorem not_live_of_read {heap : Heap W} {box : Pointer} (missing : heap.read box = none) :
    ¬ heap.Live box := by
  rintro ⟨content, found⟩
  rw [missing] at found
  cases found

private theorem poll_transition {waker : W} (stepped : poll state waker = some (next, events)) :
    Transition state (.poll waker) next events := by
  unfold poll at stepped
  split at stepped
  · rename_i point
    split at stepped <;> rename_i unfinished <;> cases stepped
    · exact .pollStarts waker point unfinished
    · exact .pollsFinished waker point (Bool.eq_false_iff.mpr unfinished)
  · cases stepped

private theorem check_transition (stepped : check state = some (next, events)) :
    Transition state .check next events := by
  unfold check at stepped
  split at stepped
  · rename_i waker point
    split at stepped <;> rename_i cancelled <;> rw [Slot.same_cancelled] at cancelled <;>
      cases stepped
    · exact .checkFinds waker point cancelled
    · exact .checkPasses waker point cancelled
  · cases stepped

private theorem innerReturn_transition {answer : InnerAnswer T P}
    (stepped : innerReturn state answer = some (next, events)) :
    Transition state (.innerReturn answer) next events := by
  unfold innerReturn at stepped
  split at stepped
  · rename_i waker point
    split at stepped <;> cases stepped
    · exact .innerPends waker point
    · exact .innerEnds waker point _ _ (.inl ⟨_, rfl, rfl⟩)
    · exact .innerEnds waker point _ _ (.inr ⟨_, rfl, rfl⟩)
  · cases stepped

private theorem reuseBox_transition (stepped : reuseBox state = some (next, events)) :
    Transition state .reuseBox next events := by
  unfold reuseBox at stepped
  split at stepped
  · rename_i waker box point spare
    split at stepped <;> rename_i found <;> cases stepped
    · exact .boxReused waker box point spare (live_of_read found)
    · exact .boxDangles waker box point spare (not_live_of_read found)
  · cases stepped

private theorem newBox_transition {address : Nat}
    (stepped : newBox state address = some (next, events)) :
    Transition state (.newBox address) next events := by
  unfold newBox at stepped
  split at stepped
  · rename_i waker point spare unused
    cases stepped
    exact .boxMade waker address point spare unused
  · cases stepped

private theorem updateLoad_transition (stepped : updateLoad state = some (next, events)) :
    Transition state .updateLoad next events := by
  unfold updateLoad at stepped
  split at stepped
  · rename_i waker box point
    split at stepped <;> rename_i cancelled <;> rw [Slot.same_cancelled] at cancelled <;>
      cases stepped
    · exact .updateFinds waker box point cancelled
    · exact .updateLoads waker box point cancelled
  · cases stepped

private theorem updateExchange_transition (stepped : updateExchange state = some (next, events)) :
    Transition state .updateExchange next events := by
  unfold updateExchange at stepped
  split at stepped
  · rename_i waker box current point
    split at stepped
    · rename_i same
      cases stepped
      exact .updateStores waker box current point same
    · rename_i changed
      have changed := Bool.eq_false_iff.mpr changed
      split at stepped <;> rename_i cancelled <;> rw [Slot.same_cancelled] at cancelled <;>
        cases stepped
      · exact .updateRejected waker box current point changed cancelled
      · exact .updateRetries waker box current point changed cancelled
  · cases stepped

private theorem dropFuture_transition {panics : Bool}
    (stepped : dropFuture state panics = some (next, events)) :
    Transition state (.dropFuture panics) next events := by
  unfold dropFuture at stepped
  split at stepped
  · rename_i caller value point
    cases panics with
    | true =>
        cases caller with
        | poll => cases stepped; exact .futurePanicsInPoll value point
        | drop => cases stepped; exact .futurePanicsInDrop value point
    | false => cases stepped; exact .futureDrops caller value point
  · cases stepped

private theorem returnWake_transition (stepped : returnWake state = some (next, events)) :
    Transition state .returnWake next events := by
  unfold returnWake at stepped
  split at stepped
  · rename_i point
    cases stepped
    exact .pollEnds point
  · rename_i point
    cases stepped
    exact .dropEnds point
  · cases stepped

private theorem drop_transition (stepped : drop state = some (next, events)) :
    Transition state .drop next events := by
  unfold drop at stepped
  split at stepped
  · rename_i point
    split at stepped <;> rename_i unfinished <;> cases stepped
    · exact .dropFinishes point unfinished
    · exact .dropSkips point (Bool.eq_false_iff.mpr unfinished)
  · cases stepped

private theorem cancelLoad_transition {call : Nat}
    (stepped : cancelLoad state call = some (next, events)) :
    Transition state (.cancelLoad call) next events := by
  unfold cancelLoad at stepped
  split at stepped
  · rename_i found
    split at stepped <;> rename_i cancelled <;> rw [Slot.same_cancelled] at cancelled <;>
      cases stepped
    · exact .cancelFinds call found cancelled
    · exact .cancelLoads call found cancelled
  · cases stepped

private theorem cancelExchange_transition {call : Nat}
    (stepped : cancelExchange state call = some (next, events)) :
    Transition state (.cancelExchange call) next events := by
  unfold cancelExchange at stepped
  split at stepped
  · rename_i current found
    split at stepped
    · rename_i same
      cases current with
      | waker box => cases stepped; exact .cancelTakes call box found same
      | null => cases stepped; exact .cancelClaims call .null found same rfl
      | cancelled => cases stepped; exact .cancelClaims call .cancelled found same rfl
    · rename_i changed
      have changed := Bool.eq_false_iff.mpr changed
      split at stepped <;> rename_i cancelled <;> rw [Slot.same_cancelled] at cancelled <;>
        cases stepped
      · exact .cancelLoses call current found changed cancelled
      · exact .cancelRetries call current found changed cancelled
  · cases stepped

private theorem cancelWake_transition {call : Nat}
    (stepped : cancelWake state call = some (next, events)) :
    Transition state (.cancelWake call) next events := by
  unfold cancelWake at stepped
  split at stepped
  · rename_i box found
    split at stepped <;> rename_i content <;> cases stepped
    · exact .cancelWakes call box _ found content
    · exact .cancelDangles call box found (not_live_of_read content)
  · cases stepped

private theorem dropCancellation_transition
    (stepped : dropCancellation state = some (next, events)) :
    Transition state .dropCancellation next events := by
  unfold dropCancellation at stepped
  split at stepped
  · rename_i point
    split at stepped
    · rename_i last
      cases stepped
      exact .cancellationDrops point last.1 last.2
    · cases stepped
  · cases stepped

theorem transition_of_step {action : Action W T P}
    (stepped : machine.step state action = some (next, events)) :
    Transition state action next events := by
  cases action with
  | poll waker => exact poll_transition stepped
  | check => exact check_transition stepped
  | pollInner =>
      change pollInner state = some (next, events) at stepped
      unfold pollInner at stepped
      split at stepped <;> cases stepped
      exact .innerStarts _ ‹_›
  | innerReturn answer => exact innerReturn_transition stepped
  | reuseBox => exact reuseBox_transition stepped
  | newBox address => exact newBox_transition stepped
  | updateLoad => exact updateLoad_transition stepped
  | updateExchange => exact updateExchange_transition stepped
  | updateReturn =>
      change updateReturn state = some (next, events) at stepped
      unfold updateReturn at stepped
      split at stepped <;> cases stepped
      exact .updateReturns _ ‹_›
  | rejectBox =>
      change rejectBox state = some (next, events) at stepped
      unfold rejectBox at stepped
      split at stepped <;> cases stepped
      exact .boxRejected _ ‹_›
  | dropFuture panics => exact dropFuture_transition stepped
  | callWake =>
      change callWake state = some (next, events) at stepped
      unfold callWake at stepped
      split at stepped <;> cases stepped
      exact .wakeCalled _ _ ‹_›
  | returnWake => exact returnWake_transition stepped
  | drop => exact drop_transition stepped
  | dropFields =>
      change dropFields state = some (next, events) at stepped
      unfold dropFields at stepped
      split at stepped <;> cases stepped
      exact .fieldsDropped ‹_›
  | cancel =>
      change cancel state = some (next, events) at stepped
      unfold cancel at stepped
      split at stepped <;> rename_i present <;> cases stepped
      exact .cancelStarts (Bool.eq_false_iff.mpr present)
  | cancelLoad call => exact cancelLoad_transition stepped
  | cancelExchange call => exact cancelExchange_transition stepped
  | cancelWake call => exact cancelWake_transition stepped
  | cancelFree call =>
      change cancelFree state call = some (next, events) at stepped
      unfold cancelFree at stepped
      split at stepped <;> cases stepped
      exact .cancelFrees call _ ‹_›
  | dropCancellation => exact dropCancellation_transition stepped

end TaskFuture

end Spawns
