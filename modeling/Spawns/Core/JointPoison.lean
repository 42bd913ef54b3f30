/-
The mutex of a joint, where destructors may panic.

`*lock = ..` drops the old `JoinResult` while the lock is held. A panic of that
destructor poisons the mutex, and from then on `lock().unwrap()` panics. What a
destructor does once the lock is released is no matter of the mutex and not part
of this model, nor is a second panic on top of the first, which aborts.
-/

import Spawns.Core.JointPoll

namespace Spawns.JointPoison

open EventMachine Joint

open Machine (reaches_of_exec)

variable {W T P : Type}

inductive Destructor where
  | output
  | waker
  deriving DecidableEq, Repr

structure State (W T P : Type) where
  joint : Joint.State W T P
  poisoned : Bool

inductive Event (W T P : Type) where
  | joint (event : Joint.Event W T P)
  | destructorPanicked (destructor : Destructor)
  | poisonFound

/-- An action of the joint, or one in which a destructor panics. -/
inductive Action (W T P : Type) where
  | act (action : Joint.Action W T P)
  | panic (action : Joint.Action W T P)

def State.new (id : RawId) : State W T P := ⟨.new id, false⟩

def destructor? : JoinResult W T P → Option Destructor
  | .finished _ => some .output
  | .joining _ => some .waker
  | _ => none

/-- The result that an action drops while it holds the lock. -/
def overwritten? (state : Joint.State W T P) : Joint.Action W T P → Option (JoinResult W T P)
  | .wakeMatch =>
      match state.wake with
      | .matching .detached => some state.result
      | _ => none
  | .pollSettle => some state.result
  | .dropReplace => some state.result
  | _ => none

/-- `lock().unwrap()` panics; `none` where the action does not lock. -/
def refuse (state : Joint.State W T P) :
    Joint.Action W T P → Option (Joint.State W T P × List (Joint.Event W T P))
  | .wakeReplace =>
      match state.wake with
      | .replacing value => some ({ state with wake := .panicked }, [.discarded value])
      | _ => none
  | .wakeMatch =>
      match state.wake with
      | .matching .detached => some ({ state with wake := .panicked }, [])
      | _ => none
  | .pollReplace =>
      match state.handle with
      | .taking _ => some ({ state with handle := .idle }, [])
      | .registering _ _ => some ({ state with handle := .idle }, [])
      | _ => none
  | .pollSettle =>
      match state.handle with
      | .settling _ _ value => some ({ state with handle := .idle }, [.discarded value])
      | _ => none
  | .dropReplace =>
      match state.handle with
      | .detaching => some ({ state with handle := .dropped }, [])
      | _ => none
  | _ => none

/-- The new result is in place when the destructor of the old one unwinds; a poll
does not return what it has taken. -/
def unwind (visibility : Visibility) (state : Joint.State W T P) :
    Joint.Action W T P → Option (Joint.State W T P × List (Joint.Event W T P))
  | .pollSettle =>
      match state.handle with
      | .settling _ _ value =>
          some ({ state with result := .joined, handle := .idle },
            discardedOf state.result ++ [.discarded value])
      | _ => none
  | action => (Joint.machine visibility).step state action

def act (visibility : Visibility) (state : State W T P) (action : Joint.Action W T P) :
    Option (State W T P × List (Event W T P)) :=
  if state.poisoned ∧ (refuse state.joint action).isSome then
    (refuse state.joint action).map fun (next, events) =>
      ({ state with joint := next }, events.map .joint ++ [.poisonFound])
  else
    ((Joint.machine visibility).step state.joint action).map fun (next, events) =>
      ({ state with joint := next }, events.map .joint)

def panic (visibility : Visibility) (state : State W T P) (action : Joint.Action W T P) :
    Option (State W T P × List (Event W T P)) :=
  match (overwritten? state.joint action).bind destructor? with
  | some destructor =>
      if state.poisoned then none
      else (unwind visibility state.joint action).map fun (next, events) =>
        (⟨next, true⟩, events.map .joint ++ [.destructorPanicked destructor])
  | none => none

def machine (visibility : Visibility) : Machine (State W T P) (Action W T P) (Event W T P) where
  step state
    | .act action => act visibility state action
    | .panic action => panic visibility state action

/-! ### Observables of a trace -/

@[simp] def Event.joint? : Event W T P → Option (Joint.Event W T P)
  | .joint event => some event
  | _ => none

@[simp] def Event.wakerPanic? : Event W T P → Option Unit
  | .destructorPanicked .waker => some ()
  | _ => none

@[simp] def Event.poisonFound? : Event W T P → Option Unit
  | .poisonFound => some ()
  | _ => none

abbrev jointTrace (trace : List (Event W T P)) : List (Joint.Event W T P) :=
  observe Event.joint? trace

abbrev wakerPanics (trace : List (Event W T P)) : List Unit := observe Event.wakerPanic? trace

abbrev poisonsFound (trace : List (Event W T P)) : List Unit :=
  observe Event.poisonFound? trace

@[simp] theorem jointTrace_map (events : List (Joint.Event W T P)) :
    jointTrace (events.map .joint) = events := observe_map_some _ _ fun _ => rfl

@[simp] theorem wakerPanics_map (events : List (Joint.Event W T P)) :
    wakerPanics (events.map .joint) = [] := observe_map_none _ _ fun _ => rfl

@[simp] theorem poisonsFound_map (events : List (Joint.Event W T P)) :
    poisonsFound (events.map .joint) = [] := observe_map_none _ _ fun _ => rfl

/-! ### What one step can do -/

variable {visibility : Visibility} {state next : State W T P} {events : List (Event W T P)}

inductive Transition (visibility : Visibility) (state : State W T P) :
    Action W T P → State W T P → List (Event W T P) → Prop where
  | acts (action : Joint.Action W T P) (joint : Joint.State W T P)
      (events : List (Joint.Event W T P))
      (moves : (Joint.machine visibility).step state.joint action = some (joint, events)) :
      Transition visibility state (.act action) { state with joint := joint }
        (events.map .joint)
  | finds (action : Joint.Action W T P) (joint : Joint.State W T P)
      (events : List (Joint.Event W T P)) (poisoned : state.poisoned = true)
      (refused : refuse state.joint action = some (joint, events)) :
      Transition visibility state (.act action) { state with joint := joint }
        (events.map .joint ++ [.poisonFound])
  | poisons (action : Joint.Action W T P) (joint : Joint.State W T P)
      (events : List (Joint.Event W T P)) (result : JoinResult W T P) (destructor : Destructor)
      (old : overwritten? state.joint action = some result)
      (drops : destructor? result = some destructor) (clean : state.poisoned = false)
      (moves : unwind visibility state.joint action = some (joint, events)) :
      Transition visibility state (.panic action) ⟨joint, true⟩
        (events.map .joint ++ [.destructorPanicked destructor])

private theorem transition_of_step {action : Action W T P}
    (stepped : (machine visibility).step state action = some (next, events)) :
    Transition visibility state action next events := by
  cases action with
  | act action =>
      change act visibility state action = some (next, events) at stepped
      unfold act at stepped
      split at stepped
      · rename_i found
        obtain ⟨⟨joint, emitted⟩, refused, same⟩ := Option.map_eq_some_iff.mp stepped
        cases same
        exact .finds action joint emitted found.1 refused
      · obtain ⟨⟨joint, emitted⟩, moves, same⟩ := Option.map_eq_some_iff.mp stepped
        cases same
        exact .acts action joint emitted moves
  | panic action =>
      change panic visibility state action = some (next, events) at stepped
      unfold panic at stepped
      split at stepped
      · rename_i destructor drops
        obtain ⟨result, old, drops⟩ := Option.bind_eq_some_iff.mp drops
        split at stepped
        · cases stepped
        · rename_i clean
          obtain ⟨⟨joint, emitted⟩, moves, same⟩ := Option.map_eq_some_iff.mp stepped
          cases same
          exact .poisons action joint emitted result destructor old drops
            (Bool.eq_false_iff.mpr clean) moves
      · cases stepped

/-! ### Nothing locks after the destructor of an output -/

/-- The rest of `Joint::wake` does not lock. -/
def PastLocks : WakePoint W T P → Prop
  | .notCalled => False
  | .replacing _ => False
  | .storing previous => previous.Registrable
  | .matching previous => previous.Registrable
  | _ => True

structure Spent (joint : Joint.State W T P) : Prop where
  dropped : joint.handle = .dropped
  past : PastLocks joint.wake

private theorem pastLocks_of_after {trace : List (Joint.Event W T P)} {previous : JoinResult W T P}
    {wake : WakePoint W T P} (after : WakePoint.After trace previous wake)
    (took : previous.Registrable) : PastLocks wake := by
  cases after with
  | storing | matching => exact took
  | notifying | returned => trivial

variable {joint moved : Joint.State W T P} {action : Joint.Action W T P}
  {emitted : List (Joint.Event W T P)}

private theorem Spent.unrefused (spent : Spent joint) : refuse joint action = none := by
  obtain ⟨dropped, past⟩ := spent
  cases action with
  | wakeReplace => cases wake : joint.wake <;> simp_all [refuse, PastLocks]
  | wakeMatch =>
      cases wake : joint.wake with
      | matching previous =>
          rw [wake] at past
          cases previous with
          | detached => cases past
          | empty | joining | joined | finished => simp [refuse, wake]
      | notCalled | replacing | storing | notifying | returned | panicked =>
          simp [refuse, wake]
  | pollReplace | pollSettle | dropReplace => simp [refuse, dropped]
  | wakeLoad | wakeStore | wakeReturn | pollLoad | dropStore => rfl

private theorem Spent.step (spent : Spent joint)
    (moves : (Joint.machine visibility).step joint action = some (moved, emitted)) :
    Spent moved := by
  obtain ⟨dropped, past⟩ := spent
  cases action with
  | wakeLoad value raw =>
      have wake := (wakeLoad_cases moves).1
      rw [wake] at past
      cases past
  | wakeReplace =>
      obtain ⟨value, wake, _⟩ := wakeReplace_cases moves
      rw [wake] at past
      cases past
  | wakeStore =>
      obtain ⟨previous, wake, rfl, _⟩ := wakeStore_cases moves
      rw [wake] at past
      exact ⟨dropped, past⟩
  | wakeMatch =>
      obtain ⟨previous, wake⟩ := wakeMatch_cases moves
      rw [wake] at past
      obtain ⟨point, rfl, _, rfl | rfl⟩ := wakeMatch_registrable wake past moves
      · exact ⟨dropped, trivial⟩
      · exact ⟨dropped, trivial⟩
  | wakeReturn =>
      obtain ⟨_, rfl, _⟩ := wakeReturn_cases moves
      exact ⟨dropped, trivial⟩
  | pollLoad waker raw =>
      have idle := (pollLoad_cases moves).1
      rw [dropped] at idle
      cases idle
  | pollReplace =>
      rcases pollReplace_cases moves with ⟨_, busy, _⟩ | ⟨_, _, _, busy, _⟩ | ⟨_, _, busy, _⟩
      all_goals rw [dropped] at busy; cases busy
  | pollSettle =>
      obtain ⟨_, _, _, busy, _⟩ := pollSettle_cases moves
      rw [dropped] at busy
      cases busy
  | dropStore =>
      have idle := (dropStore_cases moves).1
      rw [dropped] at idle
      cases idle
  | dropReplace =>
      have busy := (dropReplace_cases moves).1
      rw [dropped] at busy
      cases busy

private theorem settling_result {trace : List (Joint.Event W T P)} (phase : Phase trace joint)
    {waker : W} {loaded : Nat} {value : TaskResult T P}
    (busy : joint.handle = .settling waker loaded value) : joint.result = .joining waker := by
  cases phase with
  | settling _ _ _ _ _ _ _ _ handle result =>
      rw [busy] at handle
      cases handle
      exact result
  | fresh _ _ _ _ _ handle =>
      rw [busy] at handle
      cases handle.1
  | available _ _ _ _ _ _ handle | taken _ _ _ _ _ _ _ _ handle =>
      rw [busy] at handle
      cases handle
  | abandoned _ _ _ _ _ handle | revoked _ _ _ _ _ _ _ handle | late _ _ _ _ _ _ _ handle =>
      rw [busy] at handle
      cases handle
  | refused _ _ _ _ _ _ _ handle =>
      rcases handle with ⟨handle, _⟩ | ⟨handle, _⟩
      all_goals rw [busy] at handle; cases handle

/-- Who drops an output under the lock is the last to lock. -/
private theorem spent_of_output {trace : List (Joint.Event W T P)} (phase : Phase trace joint)
    {result : JoinResult W T P} (old : overwritten? joint action = some result)
    (drops : destructor? result = some .output)
    (moves : unwind visibility joint action = some (moved, emitted)) :
    Spent moved ∧ (Joint.machine visibility).step joint action = some (moved, emitted) := by
  cases result with
  | empty | joining | joined | detached => cases drops
  | finished value =>
      cases action with
      | wakeLoad | wakeReplace | wakeStore | wakeReturn | pollLoad | pollReplace | dropStore =>
          cases old
      | wakeMatch =>
          refine ⟨?_, moves⟩
          obtain ⟨previous, wake⟩ := wakeMatch_cases moves
          rcases phase.took (.inr wake) with ⟨_, took, _⟩ | ⟨rfl, _, _, _, _, _, _, dropped, _⟩
          · cases previous <;> simp_all [overwritten?, JoinResult.Registrable]
          · obtain ⟨rfl, _⟩ := wakeMatch_detached wake moves
            exact ⟨dropped, trivial⟩
      | pollSettle =>
          rw [overwritten?, Option.some.injEq] at old
          rw [unwind] at moves
          split at moves
          · rename_i busy
            rw [settling_result phase busy] at old
            cases old
          · cases moves
      | dropReplace =>
          refine ⟨?_, moves⟩
          obtain ⟨busy, rfl, _⟩ := dropReplace_cases moves
          rw [overwritten?, Option.some.injEq] at old
          refine ⟨rfl, ?_⟩
          cases phase with
          | available _ after => exact pastLocks_of_after after (registered_registrable trace)
          | fresh _ _ _ _ _ _ held =>
              have took := registered_registrable trace
              rw [← held, old] at took
              cases took
          | refused _ wake => rw [wake]; trivial
          | taken _ _ after took => exact pastLocks_of_after after took
          | settling _ _ _ _ _ _ _ _ handle => rw [busy] at handle; cases handle
          | abandoned _ _ _ _ _ handle | revoked _ _ _ _ _ _ _ handle
          | late _ _ _ _ _ _ _ handle => rw [busy] at handle; cases handle

/-! ### Whole runs -/

variable {guard : Guard (State W T P) (Action W T P) (Event W T P)} {id : RawId}
  {config : Config (State W T P) (Event W T P)}

structure Unspread (visibility : Visibility) (id : RawId)
    (config : Config (State W T P) (Event W T P)) : Prop where
  unfound : poisonsFound config.trace = []
  plain : (Joint.machine visibility).Reaches .any (.initial (.new id))
    ⟨jointTrace config.trace, config.state.joint⟩
  spent : config.state.poisoned = true → Spent config.state.joint

theorem unspread_of_reaches
    (run : (machine visibility).Reaches guard (.initial (.new id)) config)
    (returns : wakerPanics config.trace = []) : Unspread visibility id config := by
  refine run.invariant
    (fun reached => wakerPanics reached.trace = [] → Unspread visibility id reached)
    (fun _ => ⟨rfl, .refl, nofun⟩) ?_ returns
  intro reached action next events _before unspread _allowed stepped returns
  rw [wakerPanics, observe_append, List.append_eq_nil_iff] at returns
  obtain ⟨unfound, plain, spent⟩ := unspread returns.1
  cases transition_of_step stepped with
  | acts action joint emitted moves =>
      refine ⟨?_, ?_, fun poisoned => (spent poisoned).step moves⟩
      · simp [unfound]
      · simpa using plain.tail (.mk trivial moves)
  | finds action joint emitted poisoned refused =>
      rw [(spent poisoned).unrefused] at refused
      cases refused
  | poisons action joint emitted result destructor old drops clean moves =>
      cases destructor with
      | waker => simp at returns
      | output =>
          have phase := (coherent_of_reaches plain).phase
          obtain ⟨past, moves⟩ := spent_of_output phase old drops moves
          refine ⟨?_, ?_, fun _ => past⟩
          · simp [unfound]
          · simpa using plain.tail (.mk trivial moves)

/-- Panicking destructors of outputs poison the mutex for nobody: unless the
destructor of a waker has panicked under the lock, every `lock().unwrap()` gets the
lock, and the joint runs as it does when all destructors return. -/
theorem poison_comes_from_wakers
    (run : (machine visibility).Reaches guard (.initial (.new id)) config)
    (returns : wakerPanics config.trace = []) :
    poisonsFound config.trace = [] ∧
      (Joint.machine visibility).Reaches .any (.initial (.new id))
        ⟨jointTrace config.trace, config.state.joint⟩ :=
  ⟨(unspread_of_reaches run returns).unfound, (unspread_of_reaches run returns).plain⟩

/-- The handle is dropped between the replace of `wake` and its store, and the
destructor of the output panics. -/
def outputPanics : List (Action Nat Nat Nat) :=
  [.act (.pollLoad 7 0), .act .pollReplace, .act (.wakeLoad (.ok 5) 0), .act .wakeReplace,
    .act .dropStore, .panic .dropReplace, .act .wakeStore, .act .wakeMatch, .act .wakeReturn]

theorem poison_comes_from_wakers_dropped :
    ∃ config, (machine .anyStored).exec .any (.initial (.new ⟨1⟩)) outputPanics = some config ∧
      config.state.poisoned = true ∧ woken (jointTrace config.trace) = [7] ∧
      poisonsFound config.trace = [] ∧
      (Joint.machine .anyStored).Reaches .any (.initial (.new ⟨1⟩))
        ⟨jointTrace config.trace, config.state.joint⟩ := by
  have ran : ((machine .anyStored).exec .any (.initial (.new ⟨1⟩)) outputPanics).map
      (fun config => (config.state.poisoned, woken (jointTrace config.trace),
        wakerPanics config.trace)) = some (true, [7], []) := by rfl
  obtain ⟨config, executed, reads⟩ := Option.map_eq_some_iff.mp ran
  simp only [Prod.mk.injEq] at reads
  obtain ⟨poisoned, woke, returns⟩ := reads
  exact ⟨config, executed, poisoned, woke,
    poison_comes_from_wakers (reaches_of_exec outputPanics executed) returns⟩

/-- With a waker it is otherwise: a poll takes the output, the destructor of its
own waker panics, and `Drop` of the handle finds the mutex poisoned. -/
example :
    ((machine .anyStored).exec .any (.initial (.new ⟨1⟩))
      [.act (.pollLoad 7 0), .act (.wakeLoad (.ok (5 : Nat)) 0), .act .wakeReplace,
        .act .pollReplace, .panic .pollSettle, .act .dropStore,
        (.act .dropReplace : Action Nat Nat Nat)]).map
      (fun config => (wakerPanics config.trace, poisonsFound config.trace,
        deliveries (jointTrace config.trace))) = some ([()], [()], []) := by rfl

end Spawns.JointPoison
