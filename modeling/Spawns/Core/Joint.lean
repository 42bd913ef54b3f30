/-
The joint of one task: `Joint::wake` against the polls and the drop of its
single `JoinHandle`.

Every load or store of `Joint.stage` and every critical section of the
`Joint.result` mutex is one action. A critical section here never runs code
that can panic: destructors of values and wakers are taken to return, so the
mutex is never poisoned. The handle is polled and dropped through `&mut` and
by value, hence by one call at a time; it may be polled again after any
outcome, a caught panic included.
-/

import Spawns.Foundation.Cells
import Spawns.Foundation.EventMachine

namespace Spawns

open EventMachine

structure RawId where
  value : UInt64
  deriving DecidableEq, Repr

structure Id where
  value : UInt64
  deriving DecidableEq, Repr

/-- `From<RawId> for Id`. -/
def RawId.toId (raw : RawId) : Id := ⟨raw.value⟩

def Id.asRaw (id : Id) : RawId := ⟨id.value⟩

/-- Lower-case hexadecimal, `0x` first, zero-padded to `width` digits. -/
def hexadecimal (width value : Nat) : String :=
  let digits := Nat.toDigits 16 value
  String.ofList ('0' :: 'x' :: (List.replicate (width - digits.length) '0' ++ digits))

/-- `Display for Id`: eight digits up to `u32::MAX`, sixteen above it. -/
def Id.display (id : Id) : String :=
  if id.value.toNat ≤ 4294967295 then hexadecimal 8 id.value.toNat
  else hexadecimal 16 id.value.toNat

def Id.debug (id : Id) : String := "TaskId(" ++ id.display ++ ")"

inductive Stage where
  | running
  | finished
  | detached
  deriving DecidableEq, Repr

/-- `stage as usize`. -/
def Stage.toUsize : Stage → Nat
  | .running => 0
  | .finished => 1
  | .detached => 2

/-- `From<usize> for Stage`; `none` is its `unreachable!` arm. -/
def Stage.ofUsize : Nat → Option Stage
  | 0 => some .running
  | 1 => some .finished
  | 2 => some .detached
  | _ => none

@[simp] theorem Stage.ofUsize_toUsize (stage : Stage) :
    Stage.ofUsize stage.toUsize = some stage := by
  cases stage <;> rfl

inductive InnerJoinError (P : Type) where
  | cancelled
  | panic (payload : P)
  deriving DecidableEq, Repr

/-- `Result<T, InnerJoinError>`, what a task hands to its joint. -/
abbrev TaskResult (T P : Type) := Except (InnerJoinError P) T

structure JoinError (P : Type) where
  id : Id
  inner : InnerJoinError P
  deriving DecidableEq, Repr

inductive JoinResult (W T P : Type) where
  | empty
  | joining (waker : W)
  | joined
  | finished (value : TaskResult T P)
  | detached

inductive JoinPanic where
  | alreadyJoined (id : Id)
  | alreadyDetached (id : Id)
  | noTaskResult
  | invalidStage (raw : Nat)
  deriving DecidableEq, Repr

def JoinPanic.message : JoinPanic → String
  | .alreadyJoined id => "task(" ++ id.display ++ ") already joined"
  | .alreadyDetached id => "task(" ++ id.display ++ ") already detached"
  -- Both are texts of `unreachable!`.
  | .noTaskResult =>
      "internal error: entered unreachable code: get no task result after stage finished"
  | .invalidStage raw =>
      "internal error: entered unreachable code: " ++ toString raw ++ " is not valid for Stage"

inductive PollOutcome (T P : Type) where
  | pending
  | ready (output : Except (JoinError P) T)
  | panicked (panic : JoinPanic)

/-- `result.map_err(|inner| JoinError { id, inner })`. -/
def joinOutput {T P : Type} (id : RawId) (value : TaskResult T P) : Except (JoinError P) T :=
  value.mapError fun inner => ⟨id.toId, inner⟩

namespace Joint

inductive WakePoint (W T P : Type) where
  | notCalled
  | replacing (value : TaskResult T P)
  | storing (previous : JoinResult W T P)
  | matching (previous : JoinResult W T P)
  | notifying
  | returned
  | panicked

inductive HandlePoint (W T P : Type) where
  | idle
  | taking (waker : W)
  | registering (waker : W) (loaded : Nat)
  | settling (waker : W) (loaded : Nat) (value : TaskResult T P)
  | detaching
  | dropped

structure State (W T P : Type) where
  id : RawId
  stage : AtomicCell Nat
  result : JoinResult W T P
  wake : WakePoint W T P
  handle : HandlePoint W T P

/-- A finished poll: the waker it was given, the raw stage it loaded, its outcome. -/
structure PollReturn (W T P : Type) where
  waker : W
  loaded : Nat
  outcome : PollOutcome T P

inductive Event (W T P : Type) where
  | wakeCalled (value : TaskResult T P)
  | published (previous : JoinResult W T P)
  | woken (waker : W)
  | pollReturned (poll : PollReturn W T P)
  | detachBegan
  | discarded (value : TaskResult T P)

inductive Action (W T P : Type) where
  | wakeLoad (value : TaskResult T P) (raw : Nat)
  | wakeReplace
  | wakeStore
  | wakeMatch
  | wakeReturn
  | pollLoad (waker : W) (raw : Nat)
  | pollReplace
  | pollSettle
  | dropStore
  | dropReplace

variable {W T P : Type}

def State.new (id : RawId) : State W T P :=
  { id := id
    stage := .new Stage.running.toUsize
    result := .empty
    wake := .notCalled
    handle := .idle }

def discardedOf : JoinResult W T P → List (Event W T P)
  | .finished value => [.discarded value]
  | _ => []

/-- `let stage = self.stage(); if stage != Stage::Running { return; }` -/
def wakeLoad (visibility : Visibility) (state : State W T P)
    (value : TaskResult T P) (raw : Nat) : Option (State W T P × List (Event W T P)) :=
  match state.wake with
  | .notCalled =>
      if state.stage.Readable visibility raw then
        match Stage.ofUsize raw with
        | some .running =>
            some ({ state with wake := .replacing value }, [.wakeCalled value])
        | some _ =>
            some ({ state with wake := .returned }, [.wakeCalled value, .discarded value])
        | none =>
            some ({ state with wake := .panicked }, [.wakeCalled value, .discarded value])
      else none
  | _ => none

/-- `mem::replace(&mut *lock, JoinResult::Finished(value))` -/
def wakeReplace (state : State W T P) : Option (State W T P × List (Event W T P)) :=
  match state.wake with
  | .replacing value =>
      some ({ state with result := .finished value, wake := .storing state.result },
        [.published state.result])
  | _ => none

/-- `self.stage.store(Stage::Finished as usize, Ordering::Relaxed)` -/
def wakeStore (state : State W T P) : Option (State W T P × List (Event W T P)) :=
  match state.wake with
  | .storing previous =>
      some ({ state with
        stage := state.stage.store Stage.finished.toUsize
        wake := .matching previous }, [])
  | _ => none

/-- `match result { .. }`; `Joining` enters `waker.wake()`. -/
def wakeMatch (state : State W T P) : Option (State W T P × List (Event W T P)) :=
  match state.wake with
  | .matching .empty => some ({ state with wake := .returned }, [])
  | .matching (.joining waker) => some ({ state with wake := .notifying }, [.woken waker])
  | .matching (.finished value) => some ({ state with wake := .panicked }, [.discarded value])
  | .matching .joined => some ({ state with wake := .panicked }, [])
  | .matching .detached =>
      some ({ state with result := .detached, wake := .returned }, discardedOf state.result)
  | _ => none

/-- `waker.wake()` returns. -/
def wakeReturn (state : State W T P) : Option (State W T P × List (Event W T P)) :=
  match state.wake with
  | .notifying => some ({ state with wake := .returned }, [])
  | _ => none

/-- `let stage = self.joint.stage(); if stage == Stage::Finished { .. }` -/
def pollLoad (visibility : Visibility) (state : State W T P)
    (waker : W) (raw : Nat) : Option (State W T P × List (Event W T P)) :=
  match state.handle with
  | .idle =>
      if state.stage.Readable visibility raw then
        match Stage.ofUsize raw with
        | some .finished => some ({ state with handle := .taking waker }, [])
        | some _ => some ({ state with handle := .registering waker raw }, [])
        | none => some (state, [.pollReturned ⟨waker, raw, .panicked (.invalidStage raw)⟩])
      else none
  | _ => none

/-- The fast path's `match result` after `Joined` went in. -/
def takingOutcome (id : RawId) : JoinResult W T P → PollOutcome T P
  | .finished value => .ready (joinOutput id value)
  | .joined => .panicked (.alreadyJoined id.toId)
  | .detached => .panicked (.alreadyDetached id.toId)
  | _ => .panicked .noTaskResult

/-- The slow path's `match result` after `Joining(waker)` went in. -/
def registeringOutcome (id : RawId) : JoinResult W T P → PollOutcome T P
  | .finished value => .ready (joinOutput id value)
  | .empty => .pending
  | .joining _ => .pending
  | .joined => .panicked (.alreadyJoined id.toId)
  | .detached => .panicked (.alreadyDetached id.toId)

/-- The critical section that replaces the result, on either path. On the slow
path a `Finished` result is returned only after `Joined` replaced the waker. -/
def pollReplace (state : State W T P) : Option (State W T P × List (Event W T P)) :=
  match state.handle with
  | .taking waker =>
      some ({ state with result := .joined, handle := .idle },
        [.pollReturned ⟨waker, Stage.finished.toUsize, takingOutcome state.id state.result⟩])
  | .registering waker loaded =>
      match state.result with
      | .finished value =>
          some ({ state with
            result := .joining waker
            handle := .settling waker loaded value }, [])
      | result =>
          some ({ state with result := .joining waker, handle := .idle },
            [.pollReturned ⟨waker, loaded, registeringOutcome state.id result⟩])
  | _ => none

/-- `*self.joint.result.lock().unwrap() = JoinResult::Joined`, then `Ready`. -/
def pollSettle (state : State W T P) : Option (State W T P × List (Event W T P)) :=
  match state.handle with
  | .settling waker loaded value =>
      some ({ state with result := .joined, handle := .idle },
        discardedOf state.result ++
          [.pollReturned ⟨waker, loaded, .ready (joinOutput state.id value)⟩])
  | _ => none

/-- `Drop`: `stage.store(Stage::Detached as usize, Ordering::Relaxed)` -/
def dropStore (state : State W T P) : Option (State W T P × List (Event W T P)) :=
  match state.handle with
  | .idle =>
      some ({ state with
        stage := state.stage.store Stage.detached.toUsize
        handle := .detaching }, [.detachBegan])
  | _ => none

/-- `Drop`: `*self.joint.result.lock().unwrap() = JoinResult::Detached` -/
def dropReplace (state : State W T P) : Option (State W T P × List (Event W T P)) :=
  match state.handle with
  | .detaching =>
      some ({ state with result := .detached, handle := .dropped }, discardedOf state.result)
  | _ => none

/-- The joint under a memory whose loads of `stage` have the given visibility. -/
def machine (visibility : Visibility) : Machine (State W T P) (Action W T P) (Event W T P) where
  step state
    | .wakeLoad value raw => wakeLoad visibility state value raw
    | .wakeReplace => wakeReplace state
    | .wakeStore => wakeStore state
    | .wakeMatch => wakeMatch state
    | .wakeReturn => wakeReturn state
    | .pollLoad waker raw => pollLoad visibility state waker raw
    | .pollReplace => pollReplace state
    | .pollSettle => pollSettle state
    | .dropStore => dropStore state
    | .dropReplace => dropReplace state

end Joint

end Spawns
