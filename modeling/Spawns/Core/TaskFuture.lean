/-
`TaskFuture` and its `Cancellation`: polls and the drop of one task against any
number of concurrent cancel calls.

Every load and compare-exchange of `Cancellation.waker` is one action. The
inner future is the environment: each of its polls answers at will, and its
destructor returns or panics at will. Functions of a waker's vtable are taken to
return. `Joint::wake` is one call here, which hands over a value.
-/

import Spawns.Foundation.BoxHeap
import Spawns.Foundation.EventMachine
import Spawns.Core.Joint

namespace Spawns

open EventMachine BoxHeap

/-- The value of `Cancellation.waker`. -/
inductive Slot where
  | null
  | cancelled
  | waker (pointer : Pointer)
  deriving DecidableEq, Repr

/-- `ptr::eq`, which sees addresses only. -/
def Slot.same : Slot → Slot → Bool
  | .null, .null => true
  | .cancelled, .cancelled => true
  | .waker left, .waker right => left.address == right.address
  | _, _ => false

/-- What `Box::from_raw` reclaims, after the test for null. -/
def Slot.box? : Slot → Option Pointer
  | .waker pointer => some pointer
  | _ => none

/-- What one poll of the inner future answers; a panic is caught. -/
inductive InnerAnswer (T P : Type) where
  | pending
  | ready (value : T)
  | panicked (payload : P)
  deriving DecidableEq, Repr

namespace TaskFuture

inductive Caller where
  | poll
  | drop
  deriving DecidableEq, Repr

/-- How a poll of the `TaskFuture` ends; `unwound` by a panicking destructor. -/
inductive PollAnswer where
  | pending
  | ready
  | unwound
  deriving DecidableEq, Repr

inductive Point (W T P : Type) where
  | idle
  | checking (waker : W)
  | polling (waker : W)
  | inner (waker : W)
  | boxing (waker : W)
  | loading (waker : W) (box : Pointer)
  | exchanging (waker : W) (box : Pointer) (current : Slot)
  | storing (returned : Option Pointer)
  | rejecting (box : Pointer)
  | finishing (caller : Caller) (value : TaskResult T P)
  | handing (caller : Caller) (value : TaskResult T P)
  | notifying (caller : Caller)
  | dropping
  | dropped

inductive CancelPoint where
  | loading
  | exchanging (current : Slot)
  | waking (box : Pointer)
  | freeing (box : Pointer)
  | returned
  deriving DecidableEq, Repr

/-- The fields of `TaskFuture` and `Cancellation`, the boxes they reach, and the
points of all calls. `hasFuture` is `future.is_some()`. -/
structure State (W T P : Type) where
  waker : Option Pointer
  slot : Slot
  hasFuture : Bool
  heap : Heap W
  created : Nat
  point : Point W T P
  cancels : List CancelPoint
  cancellationDropped : Bool

inductive Event (W T P : Type) where
  | pollStarted (waker : W)
  | innerStarted
  | innerReturned (answer : InnerAnswer T P)
  | stored (waker : W)
  | updateMissed
  | pollReturned (answer : PollAnswer)
  | dropBegan (unfinished : Bool)
  | futureDropped (panicked : Bool)
  | handed (value : TaskResult T P)
  | cancelled (call : Nat)
  | cancelMissed (call : Nat)
  | woke (call : Nat) (waker : W)
  | allocated (token : Nat)
  | released (token : Nat)
  | invalidAccess (pointer : Pointer)

inductive Action (W T P : Type) where
  | poll (waker : W)
  | check
  | pollInner
  | innerReturn (answer : InnerAnswer T P)
  | reuseBox
  | newBox (address : Nat)
  | updateLoad
  | updateExchange
  | updateReturn
  | rejectBox
  | dropFuture (panics : Bool)
  | callWake
  | returnWake
  | drop
  | dropFields
  | cancel
  | cancelLoad (call : Nat)
  | cancelExchange (call : Nat)
  | cancelWake (call : Nat)
  | cancelFree (call : Nat)
  | dropCancellation

variable {W T P : Type}

def State.new : State W T P :=
  { waker := none
    slot := .null
    hasFuture := true
    heap := .empty
    created := 0
    point := .idle
    cancels := []
    cancellationDropped := false }

def freeBox (heap : Heap W) : Option Pointer → Heap W
  | none => heap
  | some box =>
      match heap.read box with
      | some _ => heap.free box
      | none => heap

def freeEvents (heap : Heap W) : Option Pointer → List (Event W T P)
  | none => []
  | some box =>
      match heap.read box with
      | some _ => [.released box.token]
      | none => [.invalidAccess box]

/-! ### `TaskFuture::poll` -/

/-- `if task.future.is_none() { return Poll::Ready(()) }` -/
def poll (state : State W T P) (waker : W) : Option (State W T P × List (Event W T P)) :=
  match state.point with
  | .idle =>
      if state.hasFuture then
        some ({ state with point := .checking waker }, [.pollStarted waker])
      else some (state, [.pollStarted waker, .pollReturned .ready])
  | _ => none

/-- `else if task.cancellation.is_cancelled()` -/
def check (state : State W T P) : Option (State W T P × List (Event W T P)) :=
  match state.point with
  | .checking waker =>
      if state.slot.same .cancelled then
        some ({ state with point := .finishing .poll (.error .cancelled) }, [])
      else some ({ state with point := .polling waker }, [])
  | _ => none

def pollInner (state : State W T P) : Option (State W T P × List (Event W T P)) :=
  match state.point with
  | .polling waker => some ({ state with point := .inner waker }, [.innerStarted])
  | _ => none

/-- `match panic::catch_unwind(..)` -/
def innerReturn (state : State W T P) (answer : InnerAnswer T P) :
    Option (State W T P × List (Event W T P)) :=
  match state.point with
  | .inner waker =>
      match answer with
      | .pending => some ({ state with point := .boxing waker }, [.innerReturned answer])
      | .ready value =>
          some ({ state with point := .finishing .poll (.ok value) }, [.innerReturned answer])
      | .panicked payload =>
          some ({ state with point := .finishing .poll (.error (.panic payload)) },
            [.innerReturned answer])
  | _ => none

/-- `match task.waker.take()`: `Some(mut waker)` with its `clone_from`. -/
def reuseBox (state : State W T P) : Option (State W T P × List (Event W T P)) :=
  match state.point, state.waker with
  | .boxing waker, some box =>
      match state.heap.read box with
      | some _ =>
          some ({ state with
            waker := none
            heap := state.heap.put box waker
            point := .loading waker box }, [])
      | none => some (state, [.invalidAccess box])
  | _, _ => none

/-- `match task.waker.take()`: `None` with its `Box::new`, at an unused address. -/
def newBox (state : State W T P) (address : Nat) : Option (State W T P × List (Event W T P)) :=
  match state.point, state.waker, state.heap address with
  | .boxing waker, none, none =>
      some ({ state with
        heap := state.heap.put ⟨address, state.created⟩ waker
        created := state.created + 1
        point := .loading waker ⟨address, state.created⟩ }, [.allocated state.created])
  | _, _, _ => none

/-! ### `Cancellation::update` -/

/-- `let mut current = self.waker.load(..)`, then the head of the loop. -/
def updateLoad (state : State W T P) : Option (State W T P × List (Event W T P)) :=
  match state.point with
  | .loading waker box =>
      if state.slot.same .cancelled then some ({ state with point := .rejecting box }, [])
      else some ({ state with point := .exchanging waker box state.slot }, [])
  | _ => none

/-- `compare_exchange(current, raw_waker, ..)`; a failure goes to the head of the loop. -/
def updateExchange (state : State W T P) : Option (State W T P × List (Event W T P)) :=
  match state.point with
  | .exchanging waker box current =>
      if state.slot.same current then
        some ({ state with slot := .waker box, point := .storing current.box? },
          [.stored waker])
      else if state.slot.same .cancelled then
        some ({ state with point := .rejecting box }, [.updateMissed])
      else some ({ state with point := .exchanging waker box state.slot }, [.updateMissed])
  | _ => none

/-- `mem::forget(waker)`, then `task.waker = waker; Poll::Pending` -/
def updateReturn (state : State W T P) : Option (State W T P × List (Event W T P)) :=
  match state.point with
  | .storing returned =>
      some ({ state with
        waker := returned
        heap := freeBox state.heap state.waker
        point := .idle }, freeEvents state.heap state.waker ++ [.pollReturned .pending])
  | _ => none

/-- `return Err(())` drops the box; the poll then finishes as cancelled. -/
def rejectBox (state : State W T P) : Option (State W T P × List (Event W T P)) :=
  match state.point with
  | .rejecting box =>
      some ({ state with
        heap := freeBox state.heap (some box)
        point := .finishing .poll (.error .cancelled) }, freeEvents state.heap (some box))
  | _ => none

/-! ### `TaskFuture::finish` and the drop -/

/-- `self.future = None`; when the destructor panics, `None` is stored all the
same, `value` is dropped and the caller unwinds. -/
def dropFuture (state : State W T P) (panics : Bool) :
    Option (State W T P × List (Event W T P)) :=
  match state.point with
  | .finishing caller value =>
      if panics then
        match caller with
        | .poll =>
            some ({ state with hasFuture := false, point := .idle },
              [.futureDropped true, .pollReturned .unwound])
        | .drop =>
            some ({ state with hasFuture := false, point := .dropping }, [.futureDropped true])
      else
        some ({ state with hasFuture := false, point := .handing caller value },
          [.futureDropped false])
  | _ => none

def callWake (state : State W T P) : Option (State W T P × List (Event W T P)) :=
  match state.point with
  | .handing caller value => some ({ state with point := .notifying caller }, [.handed value])
  | _ => none

/-- `self.joint.wake(value)` has returned; `Poll::Ready(())` -/
def returnWake (state : State W T P) : Option (State W T P × List (Event W T P)) :=
  match state.point with
  | .notifying .poll => some ({ state with point := .idle }, [.pollReturned .ready])
  | .notifying .drop => some ({ state with point := .dropping }, [])
  | _ => none

/-- `Drop`: `if self.future.is_some() { let _ = self.finish(Err(Cancelled)); }` -/
def drop (state : State W T P) : Option (State W T P × List (Event W T P)) :=
  match state.point with
  | .idle =>
      if state.hasFuture then
        some ({ state with point := .finishing .drop (.error .cancelled) }, [.dropBegan true])
      else some ({ state with point := .dropping }, [.dropBegan false])
  | _ => none

/-- The drop of the fields after `Drop::drop`, also when that unwinds. -/
def dropFields (state : State W T P) : Option (State W T P × List (Event W T P)) :=
  match state.point with
  | .dropping =>
      some ({ state with
        waker := none
        heap := freeBox state.heap state.waker
        point := .dropped }, freeEvents state.heap state.waker)
  | _ => none

/-! ### `Cancellation::cancel` and the drop -/

def cancel (state : State W T P) : Option (State W T P × List (Event W T P)) :=
  if state.cancellationDropped then none
  else some ({ state with cancels := state.cancels ++ [.loading] }, [])

/-- `let mut current = self.waker.load(..)`, then the head of the loop. -/
def cancelLoad (state : State W T P) (call : Nat) :
    Option (State W T P × List (Event W T P)) :=
  match state.cancels[call]? with
  | some .loading =>
      if state.slot.same .cancelled then
        some ({ state with cancels := state.cancels.set call .returned }, [])
      else some ({ state with cancels := state.cancels.set call (.exchanging state.slot) }, [])
  | _ => none

/-- `compare_exchange(current, CANCELLED, ..)`; a failure goes to the head of the loop. -/
def cancelExchange (state : State W T P) (call : Nat) :
    Option (State W T P × List (Event W T P)) :=
  match state.cancels[call]? with
  | some (.exchanging current) =>
      if state.slot.same current then
        match current.box? with
        | some box =>
            some ({ state with
              slot := .cancelled
              cancels := state.cancels.set call (.waking box) }, [.cancelled call])
        | none =>
            some ({ state with
              slot := .cancelled
              cancels := state.cancels.set call .returned }, [.cancelled call])
      else if state.slot.same .cancelled then
        some ({ state with cancels := state.cancels.set call .returned }, [.cancelMissed call])
      else
        some ({ state with cancels := state.cancels.set call (.exchanging state.slot) },
          [.cancelMissed call])
  | _ => none

/-- `waker.wake()` moves the waker out of its box. -/
def cancelWake (state : State W T P) (call : Nat) :
    Option (State W T P × List (Event W T P)) :=
  match state.cancels[call]? with
  | some (.waking box) =>
      match state.heap.read box with
      | some waker =>
          some ({ state with cancels := state.cancels.set call (.freeing box) },
            [.woke call waker])
      | none => some (state, [.invalidAccess box])
  | _ => none

/-- The emptied box is freed when `waker.wake()` has returned. -/
def cancelFree (state : State W T P) (call : Nat) :
    Option (State W T P × List (Event W T P)) :=
  match state.cancels[call]? with
  | some (.freeing box) =>
      some ({ state with
        heap := freeBox state.heap (some box)
        cancels := state.cancels.set call .returned }, freeEvents state.heap (some box))
  | _ => none

/-- `Drop for Cancellation`, by the last owner: the task and every call are gone. -/
def dropCancellation (state : State W T P) : Option (State W T P × List (Event W T P)) :=
  match state.point with
  | .dropped =>
      if state.cancellationDropped = false ∧ ∀ call ∈ state.cancels, call = .returned then
        some ({ state with
          heap := freeBox state.heap state.slot.box?
          cancellationDropped := true }, freeEvents state.heap state.slot.box?)
      else none
  | _ => none

def machine : Machine (State W T P) (Action W T P) (Event W T P) where
  step state
    | .poll waker => poll state waker
    | .check => check state
    | .pollInner => pollInner state
    | .innerReturn answer => innerReturn state answer
    | .reuseBox => reuseBox state
    | .newBox address => newBox state address
    | .updateLoad => updateLoad state
    | .updateExchange => updateExchange state
    | .updateReturn => updateReturn state
    | .rejectBox => rejectBox state
    | .dropFuture panics => dropFuture state panics
    | .callWake => callWake state
    | .returnWake => returnWake state
    | .drop => drop state
    | .dropFields => dropFields state
    | .cancel => cancel state
    | .cancelLoad call => cancelLoad state call
    | .cancelExchange call => cancelExchange state call
    | .cancelWake call => cancelWake state call
    | .cancelFree call => cancelFree state call
    | .dropCancellation => dropCancellation state

end TaskFuture

end Spawns
