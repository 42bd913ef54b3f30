/-
The phases of one joint, and that every step moves between them.

A phase ties the two program points to the result cell and to the trace.
It holds for loads of any visibility and for a handle that is polled again
after it returned `Ready`, so it promises no outcome of such later polls.
-/

import Mathlib.Data.List.Basic
import Spawns.Core.Joint

namespace Spawns

open EventMachine

variable {W T P : Type}

/-- What a waker-registering poll can find and leave behind. -/
def JoinResult.Registrable : JoinResult W T P → Prop
  | .empty => True
  | .joining _ => True
  | _ => False

/-- The wakers `Joint::wake` owes a call, given what its replace took out. -/
def JoinResult.owedWakers : JoinResult W T P → List W
  | .joining waker => [waker]
  | _ => []

namespace Joint

/-! ### Observables of a trace -/

@[simp] def Event.call? : Event W T P → Option (TaskResult T P)
  | .wakeCalled value => some value
  | _ => none

@[simp] def Event.published? : Event W T P → Option (JoinResult W T P)
  | .published previous => some previous
  | _ => none

@[simp] def Event.woken? : Event W T P → Option W
  | .woken waker => some waker
  | _ => none

@[simp] def Event.poll? : Event W T P → Option (PollReturn W T P)
  | .pollReturned poll => some poll
  | _ => none

@[simp] def Event.discarded? : Event W T P → Option (TaskResult T P)
  | .discarded value => some value
  | _ => none

@[simp] def Event.delivery? : Event W T P → Option (Except (JoinError P) T)
  | .pollReturned ⟨_, _, .ready output⟩ => some output
  | _ => none

abbrev calls (trace : List (Event W T P)) : List (TaskResult T P) := observe Event.call? trace

abbrev published (trace : List (Event W T P)) : List (JoinResult W T P) :=
  observe Event.published? trace

abbrev woken (trace : List (Event W T P)) : List W := observe Event.woken? trace

abbrev polls (trace : List (Event W T P)) : List (PollReturn W T P) := observe Event.poll? trace

abbrev discarded (trace : List (Event W T P)) : List (TaskResult T P) :=
  observe Event.discarded? trace

abbrev deliveries (trace : List (Event W T P)) : List (Except (JoinError P) T) :=
  observe Event.delivery? trace

def AllPending (trace : List (Event W T P)) : Prop :=
  ∀ poll ∈ polls trace, poll.outcome = .pending

@[simp] theorem allPending_nil : AllPending ([] : List (Event W T P)) := by
  intro poll member
  cases member

@[simp] theorem allPending_cons (event : Event W T P) (trace : List (Event W T P)) :
    AllPending (event :: trace) ↔
      (∀ poll, event.poll? = some poll → poll.outcome = .pending) ∧ AllPending trace := by
  simp only [AllPending, observe_cons, List.forall_mem_append, Option.mem_toList]

@[simp] theorem allPending_append (first second : List (Event W T P)) :
    AllPending (first ++ second) ↔ AllPending first ∧ AllPending second := by
  simp only [AllPending, observe_append, List.forall_mem_append]

theorem AllPending.deliveries_nil {trace : List (Event W T P)} (pending : AllPending trace) :
    deliveries trace = [] := by
  apply List.filterMap_eq_nil_iff.mpr
  intro event member
  cases event with
  | pollReturned poll =>
      obtain ⟨waker, loaded, outcome⟩ := poll
      have outcomePending : outcome = .pending :=
        pending _ ((mem_observe Event.poll?).mpr ⟨_, member, rfl⟩)
      rw [outcomePending]
      rfl
  | _ => rfl

/-- The result cell as the polls so far left it, before anything else touched it. -/
def registered (trace : List (Event W T P)) : JoinResult W T P :=
  match (polls trace).getLast? with
  | none => .empty
  | some poll => .joining poll.waker

theorem registered_registrable (trace : List (Event W T P)) :
    JoinResult.Registrable (registered trace) := by
  unfold registered
  split <;> trivial

theorem registered_append {trace events : List (Event W T P)} (silent : polls events = []) :
    registered (trace ++ events) = registered trace := by
  simp only [registered, observe_append, silent, List.append_nil]

theorem registered_pollReturned (trace : List (Event W T P)) (poll : PollReturn W T P) :
    registered (trace ++ [.pollReturned poll]) = .joining poll.waker := by
  simp [registered]

/-! ### Program points -/

def HandlePoint.Open : HandlePoint W T P → Prop
  | .settling _ _ _ => False
  | .dropped => False
  | _ => True

def HandlePoint.Taking : HandlePoint W T P → Prop
  | .taking _ => True
  | _ => False

def HandlePoint.Leaving : HandlePoint W T P → Prop
  | .detaching => True
  | .dropped => True
  | _ => False

/-- Where `Joint::wake` can stand after its replace took `previous` out. -/
inductive WakePoint.After (trace : List (Event W T P)) (previous : JoinResult W T P) :
    WakePoint W T P → Prop where
  | storing (quiet : woken trace = []) : After trace previous (.storing previous)
  | matching (quiet : woken trace = []) : After trace previous (.matching previous)
  | notifying (owed : woken trace = JoinResult.owedWakers previous) :
      After trace previous .notifying
  | returned (owed : woken trace = JoinResult.owedWakers previous) :
      After trace previous .returned

theorem WakePoint.After.append {trace events : List (Event W T P)}
    {previous : JoinResult W T P} {wake : WakePoint W T P}
    (after : WakePoint.After trace previous wake) (silent : woken events = []) :
    WakePoint.After (trace ++ events) previous wake := by
  have same : woken (trace ++ events) = woken trace := by
    simp only [observe_append, silent, List.append_nil]
  cases after with
  | storing quiet => exact .storing (same.trans quiet)
  | matching quiet => exact .matching (same.trans quiet)
  | notifying owed => exact .notifying (same.trans owed)
  | returned owed => exact .returned (same.trans owed)

/-! ### The phases -/

inductive Phase (trace : List (Event W T P)) (state : State W T P) : Prop where
  | fresh
      (waiting : state.wake = .notCalled ∧ calls trace = [] ∨
        ∃ value, state.wake = .replacing value ∧ calls trace = [value])
      (unpublished : published trace = []) (quiet : woken trace = [])
      (kept : discarded trace = []) (pending : AllPending trace)
      (handle : state.handle.Open ∧ ¬ state.handle.Taking)
      (result : state.result = registered trace)
  | abandoned
      (waiting : state.wake = .notCalled ∧ calls trace = [] ∨
        ∃ value, state.wake = .replacing value ∧ calls trace = [value])
      (unpublished : published trace = []) (quiet : woken trace = [])
      (kept : discarded trace = []) (pending : AllPending trace)
      (handle : state.handle = .dropped) (result : state.result = .detached)
  | refused (value : TaskResult T P)
      (wake : state.wake = .returned) (called : calls trace = [value])
      (unpublished : published trace = []) (quiet : woken trace = [])
      (lost : discarded trace = [value]) (pending : AllPending trace)
      (handle : state.handle = .detaching ∧ JoinResult.Registrable state.result ∨
        state.handle = .dropped ∧ state.result = .detached)
  | available (value : TaskResult T P)
      (wake : WakePoint.After trace (registered trace) state.wake)
      (called : calls trace = [value]) (publishes : published trace = [registered trace])
      (kept : discarded trace = []) (pending : AllPending trace)
      (handle : state.handle.Open) (result : state.result = .finished value)
  | settling (value : TaskResult T P) (waker : W) (loaded : Nat)
      (wake : WakePoint.After trace (registered trace) state.wake)
      (called : calls trace = [value]) (publishes : published trace = [registered trace])
      (kept : discarded trace = []) (pending : AllPending trace)
      (handle : state.handle = .settling waker loaded value)
      (result : state.result = .joining waker)
  | taken (value : TaskResult T P) (previous : JoinResult W T P)
      (wake : WakePoint.After trace previous state.wake)
      (took : JoinResult.Registrable previous)
      (called : calls trace = [value]) (publishes : published trace = [previous])
      (kept : discarded trace = []) (delivered : deliveries trace = [joinOutput state.id value])
      (handle : state.handle.Open)
      (result : state.result = .joined ∨ ∃ waker, state.result = .joining waker)
  | revoked (value : TaskResult T P) (previous : JoinResult W T P)
      (wake : WakePoint.After trace previous state.wake)
      (took : JoinResult.Registrable previous ∨
        previous = .detached ∧ state.wake = .returned)
      (called : calls trace = [value]) (publishes : published trace = [previous])
      (settled : deliveries trace = [joinOutput state.id value] ∧ discarded trace = [] ∨
        AllPending trace ∧ discarded trace = [value])
      (handle : state.handle = .dropped) (result : state.result = .detached)
  | late (value : TaskResult T P)
      (wake : state.wake = .storing .detached ∨ state.wake = .matching .detached)
      (called : calls trace = [value]) (publishes : published trace = [.detached])
      (quiet : woken trace = []) (kept : discarded trace = []) (pending : AllPending trace)
      (handle : state.handle = .dropped) (result : state.result = .finished value)

/-- A stored `Finished` or `Detached` shows how far the storing party has come. -/
def StageFacts (trace : List (Event W T P)) (state : State W T P) : Prop :=
  ∀ raw ∈ state.stage.values, raw = Stage.running.toUsize ∨
    raw = Stage.finished.toUsize ∧ published trace ≠ [] ∨
    raw = Stage.detached.toUsize ∧ state.handle.Leaving

structure Coherent (config : Config (State W T P) (Event W T P)) : Prop where
  phase : Phase config.trace config.state
  stages : StageFacts config.trace config.state

theorem StageFacts.valid {trace : List (Event W T P)} {state : State W T P}
    (stages : StageFacts trace state) {raw : Nat} (member : raw ∈ state.stage.values) :
    ∃ stage, Stage.ofUsize raw = some stage := by
  rcases stages raw member with same | ⟨same, _⟩ | ⟨same, _⟩
  all_goals exact ⟨_, by rw [same, Stage.ofUsize_toUsize]⟩

theorem coherent_new (id : RawId) :
    Coherent (.initial (State.new id) : Config (State W T P) (Event W T P)) where
  phase := .fresh (.inl ⟨rfl, rfl⟩) rfl rfl rfl allPending_nil ⟨trivial, not_false⟩ rfl
  stages := by
    intro raw member
    simp only [Config.initial, State.new, AtomicCell.new_values, List.mem_singleton] at member
    exact .inl member

end Joint

end Spawns
