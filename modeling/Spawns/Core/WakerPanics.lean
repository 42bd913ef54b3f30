/-
A task beside its joiner, where the functions of wakers may panic.

Wakers are user code. One is cloned in either poll, one is dropped with the box that
a cancelled poll cannot store, and one is called by `Joint::wake`. A waker that
panics elsewhere changes nothing but how a call ends, or its destructor panics under
the lock of the joint: that is left out here, and `JointPoison` shows what it does.
-/

import Spawns.Core.JoinError
import Spawns.Core.TaskJoinStep
import Spawns.Core.WakerBoxes

namespace Spawns

open EventMachine BoxHeap

open Machine (reaches_of_exec)

/-! ### A poll of the handle that might not have begun -/

namespace Joint

variable {V T P : Type} {visibility : Visibility} {state next : State V T P}
  {action : Action V T P} {events : List (Event V T P)}

/-- Until it takes the lock, a poll of the handle concerns nobody else. -/
private theorem step_unregistered {waker : V} {loaded : Nat}
    (stepped : (machine visibility).step state action = some (next, events))
    (registering : next.handle = .registering waker loaded) :
    { next with handle := .idle } = state ∧ events = [] ∨
      state.handle = .registering waker loaded ∧
        (machine visibility).step { state with handle := .idle } action =
          some ({ next with handle := .idle }, events) := by
  cases action with
  | wakeLoad value raw =>
      right
      change wakeLoad visibility state value raw = some (next, events) at stepped
      change state.handle = .registering waker loaded ∧
        wakeLoad visibility { state with handle := .idle } value raw = _
      unfold wakeLoad at stepped ⊢
      split at stepped
      · rename_i wake
        split at stepped
        · rename_i readable
          simp only [wake, readable]
          split at stepped <;> cases stepped <;> exact ⟨registering, by simp⟩
        · cases stepped
      · cases stepped
  | wakeReplace =>
      obtain ⟨value, wake, rfl, rfl⟩ := wakeReplace_cases stepped
      exact .inr ⟨registering, by simp [machine, wakeReplace, wake]⟩
  | wakeStore =>
      obtain ⟨previous, wake, rfl, rfl⟩ := wakeStore_cases stepped
      exact .inr ⟨registering, by simp [machine, wakeStore, wake]⟩
  | wakeMatch =>
      right
      change wakeMatch state = some (next, events) at stepped
      change state.handle = .registering waker loaded ∧
        wakeMatch { state with handle := .idle } = _
      unfold wakeMatch at stepped ⊢
      split at stepped <;> rename_i wake <;> cases stepped <;>
        exact ⟨registering, by simp [wake]⟩
  | wakeReturn =>
      obtain ⟨wake, rfl, rfl⟩ := wakeReturn_cases stepped
      exact .inr ⟨registering, by simp [machine, wakeReturn, wake]⟩
  | pollLoad waker raw =>
      left
      obtain ⟨idle, _, ⟨_, rfl, rfl⟩ | ⟨_, rfl, rfl⟩ | ⟨_, rfl, rfl⟩⟩ := pollLoad_cases stepped
      · cases registering
      · exact ⟨by rw [← idle], rfl⟩
      · rw [idle] at registering
        cases registering
  | pollReplace =>
      rcases pollReplace_cases stepped with ⟨_, _, rfl, rfl⟩ | ⟨_, _, _, _, _, rfl, rfl⟩ |
        ⟨_, _, _, _, rfl, rfl⟩ <;> cases registering
  | pollSettle =>
      obtain ⟨_, _, _, _, rfl, rfl⟩ := pollSettle_cases stepped
      cases registering
  | dropStore =>
      obtain ⟨_, rfl, rfl⟩ := dropStore_cases stepped
      cases registering
  | dropReplace =>
      obtain ⟨_, rfl, rfl⟩ := dropReplace_cases stepped
      cases registering

end Joint

namespace WakerPanics

variable {W V T P : Type}

/-- The call of a waker's function that panics. Its destructor is not among them where
it runs under the lock of the joint. -/
inductive Panic where
  -- `Box::new(cx.waker().clone())`
  | clone
  -- `waker.as_mut().clone_from(cx.waker())`
  | cloneFrom
  -- The drop of the box that `Cancellation::update` refuses.
  | refused
  -- `waker.wake()` in `Joint::wake`
  | joiner
  -- `cx.waker().clone()` in `JoinHandle::poll`
  | handleClone
  deriving DecidableEq, Repr

inductive Action (W V T P : Type) where
  | act (action : TaskJoin.Action W V T P)
  | panic (panic : Panic)

inductive Event (W V T P : Type) where
  | act (event : TaskJoin.Event W V T P)
  | panicked (panic : Panic)

/-- A waker panics and its caller unwinds, with the boxes that it frees on the way. -/
def panic (state : TaskJoin.State W V T P) :
    Panic → Option (TaskJoin.State W V T P × List (TaskFuture.Event W T P))
  | .clone =>
      match state.1.point, state.1.waker with
      | .boxing _, none => some (({ state.1 with point := .idle }, state.2), [])
      | _, _ => none
  | .cloneFrom =>
      match state.1.point, state.1.waker with
      | .boxing _, some box =>
          some (({ state.1 with
            waker := none
            heap := TaskFuture.freeBox state.1.heap (some box)
            point := .idle }, state.2), TaskFuture.freeEvents state.1.heap (some box))
      | _, _ => none
  | .refused =>
      match state.1.point with
      | .rejecting box =>
          some (({ state.1 with
            heap := TaskFuture.freeBox state.1.heap (some box)
            point := .idle }, state.2), TaskFuture.freeEvents state.1.heap (some box))
      | _ => none
  | .joiner =>
      match state.1.point, state.2.wake with
      | .notifying .poll, .notifying =>
          some (({ state.1 with point := .idle }, { state.2 with wake := .returned }), [])
      | .notifying .drop, .notifying =>
          some (({ state.1 with point := .dropping }, { state.2 with wake := .returned }), [])
      | _, _ => none
  | .handleClone =>
      match state.2.handle with
      | .registering _ _ => some ((state.1, { state.2 with handle := .idle }), [])
      | _ => none

def machine (visibility : Visibility) :
    Machine (TaskJoin.State W V T P) (Action W V T P) (Event W V T P) where
  step state
    | .act action => ((TaskJoin.machine visibility).step state action).map fun (next, events) =>
        (next, events.map .act)
    | .panic which => (panic state which).map fun (next, events) =>
        (next, (events.map .inl).map .act ++ [.panicked which])

/-! ### Observables of a trace -/

@[simp] def Event.act? : Event W V T P → Option (TaskJoin.Event W V T P)
  | .act event => some event
  | .panicked _ => none

@[simp] def Event.panic? : Event W V T P → Option Panic
  | .act _ => none
  | .panicked panic => some panic

abbrev acts (trace : List (Event W V T P)) : List (TaskJoin.Event W V T P) :=
  observe Event.act? trace

abbrev panics (trace : List (Event W V T P)) : List Panic := observe Event.panic? trace

def spared (config : Config (TaskJoin.State W V T P) (Event W V T P)) :
    Config (TaskJoin.State W V T P) (TaskJoin.Event W V T P) := ⟨acts config.trace, config.state⟩

/-! ### What a panic does -/

inductive Unwinds (state : TaskJoin.State W V T P) :
    Panic → TaskJoin.State W V T P → List (TaskFuture.Event W T P) → Prop where
  | clone (waker : W) (point : state.1.point = .boxing waker) (spare : state.1.waker = none) :
      Unwinds state .clone ({ state.1 with point := .idle }, state.2) []
  | cloneFrom (waker : W) (box : Pointer) (point : state.1.point = .boxing waker)
      (spare : state.1.waker = some box) :
      Unwinds state .cloneFrom ({ state.1 with
        waker := none
        heap := TaskFuture.freeBox state.1.heap (some box)
        point := .idle }, state.2) (TaskFuture.freeEvents state.1.heap (some box))
  | refused (box : Pointer) (point : state.1.point = .rejecting box) :
      Unwinds state .refused ({ state.1 with
        heap := TaskFuture.freeBox state.1.heap (some box)
        point := .idle }, state.2) (TaskFuture.freeEvents state.1.heap (some box))
  | joinerInPoll (point : state.1.point = .notifying .poll) (wake : state.2.wake = .notifying) :
      Unwinds state .joiner
        ({ state.1 with point := .idle }, { state.2 with wake := .returned }) []
  | joinerInDrop (point : state.1.point = .notifying .drop) (wake : state.2.wake = .notifying) :
      Unwinds state .joiner
        ({ state.1 with point := .dropping }, { state.2 with wake := .returned }) []
  | handleClone (waker : V) (loaded : Nat) (handle : state.2.handle = .registering waker loaded) :
      Unwinds state .handleClone (state.1, { state.2 with handle := .idle }) []

private theorem unwinds_of_panic {state next : TaskJoin.State W V T P} {which : Panic}
    {events : List (TaskFuture.Event W T P)} (unwound : panic state which = some (next, events)) :
    Unwinds state which next events := by
  cases which with
  | clone =>
      simp only [panic] at unwound
      split at unwound <;> cases unwound
      exact .clone _ ‹_› ‹_›
  | cloneFrom =>
      simp only [panic] at unwound
      split at unwound <;> cases unwound
      exact .cloneFrom _ _ ‹_› ‹_›
  | refused =>
      simp only [panic] at unwound
      split at unwound <;> cases unwound
      exact .refused _ ‹_›
  | joiner =>
      simp only [panic] at unwound
      split at unwound <;> cases unwound
      · exact .joinerInPoll ‹_› ‹_›
      · exact .joinerInDrop ‹_› ‹_›
  | handleClone =>
      simp only [panic] at unwound
      split at unwound <;> cases unwound
      exact .handleClone _ _ ‹_›

/-! ### What a panic keeps -/

structure Sound (visibility : Visibility) (id : RawId)
    (config : Config (TaskJoin.State W V T P) (TaskJoin.Event W V T P)) : Prop where
  facts : TaskFuture.SlotFacts config.left.trace config.left.state
  progress : TaskFuture.Progress config.left.trace config.left.state
  guarded : TaskFuture.Guarded config.left.state
  linked : TaskJoin.Linked config
  joint : (Joint.machine visibility).Reaches .any (.initial (.new id)) config.right
  /-- The joint might as well have come here without the poll that registers. -/
  unregistered : ∀ waker loaded, config.right.state.handle = .registering waker loaded →
    (Joint.machine visibility).Reaches .any (.initial (.new id))
      ⟨config.right.trace, { config.right.state with handle := .idle }⟩

variable {visibility : Visibility} {id : RawId} {state next : TaskJoin.State W V T P}
  {trace : List (TaskJoin.Event W V T P)} {which : Panic}
  {events : List (TaskFuture.Event W T P)}

private theorem step_sound {action : TaskJoin.Action W V T P}
    {shown : List (TaskJoin.Event W V T P)}
    (sound : Sound visibility id ⟨trace, state⟩)
    (stepped : (TaskJoin.machine visibility).step state action = some (next, shown)) :
    Sound visibility id ⟨trace ++ shown, next⟩ := by
  have lefts_sum : lefts (trace ++ shown) = lefts trace ++ lefts shown := observe_append _ _ _
  have rights_sum : rights (trace ++ shown) = rights trace ++ rights shown := observe_append _ _ _
  have task : TaskFuture.SlotFacts (lefts (trace ++ shown)) next.1 ∧
      TaskFuture.Progress (lefts (trace ++ shown)) next.1 ∧ TaskFuture.Guarded next.1 := by
    rw [lefts_sum]
    rcases TaskJoin.task_step stepped with ⟨own, transition, _⟩ | ⟨same, silent⟩
    · exact ⟨TaskFuture.step_slotFacts sound.facts transition,
        TaskFuture.step_progress sound.progress sound.facts transition,
        TaskFuture.step_guarded sound.guarded transition⟩
    · rw [same, silent, List.append_nil]
      exact ⟨sound.facts, sound.progress, sound.guarded⟩
  have joint : (Joint.machine visibility).Reaches .any (.initial (.new id))
        ⟨rights (trace ++ shown), next.2⟩ ∧
      ∀ waker loaded, next.2.handle = .registering waker loaded →
        (Joint.machine visibility).Reaches .any (.initial (.new id))
          ⟨rights (trace ++ shown), { next.2 with handle := .idle }⟩ := by
    rw [rights_sum]
    rcases TaskJoin.joint_step stepped with ⟨own, moves, _⟩ | ⟨same, silent⟩
    · refine ⟨sound.joint.tail (.mk trivial moves), fun waker loaded registering => ?_⟩
      rcases Joint.step_unregistered moves registering with ⟨same, silent⟩ | ⟨before, apart⟩
      · rw [same, silent, List.append_nil]
        exact sound.joint
      · exact (sound.unregistered waker loaded before).tail (.mk trivial apart)
    · rw [same, silent, List.append_nil]
      exact ⟨sound.joint, sound.unregistered⟩
  exact ⟨task.1, task.2.1, task.2.2, TaskJoin.step_linked sound.linked stepped, joint.1, joint.2⟩

private theorem linked_of_unwinds (linked : TaskJoin.Linked ⟨trace, state⟩)
    (unwinds : Unwinds state which next events) :
    TaskJoin.Linked ⟨trace ++ events.map .inl, next⟩ := by
  have unhanded : TaskFuture.handed events = [] := by
    cases unwinds with
    | cloneFrom | refused => exact (TaskFuture.quiet_freeEvents _ _).unhanded
    | clone | joinerInPoll | joinerInDrop | handleClone => rfl
  have handed : TaskFuture.handed (lefts (trace ++ events.map .inl)) =
      TaskFuture.handed (lefts trace) := by
    simp only [observe_append, lefts_map_inl, unhanded, List.append_nil]
  have called : Joint.calls (rights (trace ++ events.map .inl)) = Joint.calls (rights trace) := by
    simp only [observe_append, rights_map_inl, List.append_nil]
  refine ⟨?_, ?_, ?_⟩
  · exact called.trans (linked.calls.trans handed.symm)
  · intro none
    have before : state.2.wake = .notCalled := linked.uncalled (handed.symm.trans none)
    cases unwinds with
    | joinerInPoll _ wake | joinerInDrop _ wake =>
        rw [before] at wake
        cases wake
    | clone | cloneFrom | refused | handleClone => exact before
  · intro some
    have before := linked.returned fun none => some (handed.trans none)
    cases unwinds with
    | clone _ point | cloneFrom _ _ point | refused _ point =>
        rcases before with ⟨caller, notifying⟩ | returned
        · rw [show state.1.point = .notifying caller from notifying] at point
          cases point
        · exact .inr returned
    | joinerInPoll | joinerInDrop => exact .inr rfl
    | handleClone => exact before

private theorem progress_of_unwinds {trace : List (TaskFuture.Event W T P)}
    (progress : TaskFuture.Progress trace state.1) (unwinds : Unwinds state which next events) :
    TaskFuture.Progress (trace ++ events) next.1 := by
  -- A poll that stores its waker runs on a task that still has its future.
  have running {waker : W} (point : state.1.point = .boxing waker) :=
    progress.future_of_running (by rw [point]; trivial) (by rw [point]; exact not_false)
  cases unwinds with
  | clone waker point =>
      exact progress.run (by rw [point]; trivial) (running point) trivial rfl rfl rfl (by simp) rfl
        (by simp)
  | cloneFrom waker box point =>
      have quiet : TaskFuture.Quiet (TaskFuture.freeEvents state.1.heap (some box) :
          List (TaskFuture.Event W T P)) := TaskFuture.quiet_freeEvents _ _
      exact progress.run (by rw [point]; trivial) (running point) trivial rfl quiet.unhanded
        quiet.pending (by simp [quiet.unanswered]) quiet.undestroyed (by simp)
  | refused box point =>
      have quiet : TaskFuture.Quiet (TaskFuture.freeEvents state.1.heap (some box) :
          List (TaskFuture.Event W T P)) := TaskFuture.quiet_freeEvents _ _
      have future := progress.future_of_running (by rw [point]; trivial)
        (by rw [point]; exact not_false)
      exact progress.run (by rw [point]; trivial) future trivial rfl quiet.unhanded quiet.pending
        (by simp [quiet.unanswered]) quiet.undestroyed (by simp)
  | joinerInPoll point =>
      have gone := progress.gone_of_over (by rw [point]; trivial) (by simp [point])
      exact progress.end gone rfl (.inl rfl) (by simp [point]) rfl rfl rfl
  | joinerInDrop point =>
      have gone := progress.gone_of_over (by rw [point]; trivial) (by simp [point])
      exact progress.end gone rfl (.inr (.inl rfl)) (by simp [point]) rfl rfl rfl
  | handleClone =>
      rw [List.append_nil]
      exact progress

private theorem guarded_of_unwinds (guarded : TaskFuture.Guarded state.1)
    (unwinds : Unwinds state which next events) : TaskFuture.Guarded next.1 := by
  have alive (running : state.1.point ≠ .dropped) {goal : Prop}
      (gone : state.1.cancellationDropped = true) : goal := by
    rw [guarded.present_of_point running] at gone
    cases gone
  cases unwinds with
  | clone _ point | cloneFrom _ _ point | refused _ point | joinerInPoll point
  | joinerInDrop point => exact ⟨guarded.calls, trivial, False.elim, alive (by simp [point])⟩
  | handleClone => exact guarded

private theorem joint_of_unwinds (sound : Sound visibility id ⟨trace, state⟩)
    (unwinds : Unwinds state which next events) :
    (Joint.machine visibility).Reaches .any (.initial (.new id)) ⟨rights trace, next.2⟩ ∧
      ∀ waker loaded, next.2.handle = .registering waker loaded →
        (Joint.machine visibility).Reaches .any (.initial (.new id))
          ⟨rights trace, { next.2 with handle := .idle }⟩ := by
  -- For the joint, a joiner's waker that panics might as well have returned.
  have returns (wake : state.2.wake = .notifying) :
      (Joint.machine visibility).step state.2 .wakeReturn =
        some ({ state.2 with wake := .returned }, []) := by
    simp [Joint.machine, Joint.wakeReturn, wake]
  have woken (wake : state.2.wake = .notifying) :
      (Joint.machine visibility).Reaches .any (.initial (.new id))
          ⟨rights trace, { state.2 with wake := .returned }⟩ ∧
        ∀ waker loaded, state.2.handle = .registering waker loaded →
          (Joint.machine visibility).Reaches .any (.initial (.new id))
            ⟨rights trace, { state.2 with wake := .returned, handle := .idle }⟩ := by
    have joint := sound.joint.tail (.mk trivial (returns wake))
    rw [List.append_nil] at joint
    refine ⟨joint, fun waker loaded registering => ?_⟩
    rcases Joint.step_unregistered (returns wake) registering with ⟨same, _⟩ | ⟨before, apart⟩
    · rw [← same] at wake
      cases wake
    · have idle := (sound.unregistered waker loaded before).tail (.mk trivial apart)
      rw [List.append_nil] at idle
      exact idle
  cases unwinds with
  | clone | cloneFrom | refused => exact ⟨sound.joint, sound.unregistered⟩
  | joinerInPoll _ wake | joinerInDrop _ wake => exact woken wake
  | handleClone waker loaded handle =>
      exact ⟨sound.unregistered waker loaded handle, fun _ _ registering => by cases registering⟩

private theorem panic_sound (sound : Sound visibility id ⟨trace, state⟩)
    (unwinds : Unwinds state which next events) :
    Sound visibility id ⟨trace ++ events.map .inl, next⟩ := by
  have task : TaskFuture.SlotFacts (lefts (trace ++ events.map .inl)) next.1 ∧
      TaskFuture.Progress (lefts (trace ++ events.map .inl)) next.1 := by
    have sum : lefts (trace ++ events.map .inl) = lefts trace ++ events := by
      simp only [observe_append, lefts_map_inl]
    have slot : next.1.slot = state.1.slot := by cases unwinds <;> rfl
    rw [sum]
    exact ⟨fun cancelled => observe_append_ne_nil _ (sound.facts (slot ▸ cancelled)) events,
      progress_of_unwinds sound.progress unwinds⟩
  have joint : (Joint.machine visibility).Reaches .any (.initial (.new id))
        ⟨rights (trace ++ events.map .inl), next.2⟩ ∧
      ∀ waker loaded, next.2.handle = .registering waker loaded →
        (Joint.machine visibility).Reaches .any (.initial (.new id))
          ⟨rights (trace ++ events.map .inl), { next.2 with handle := .idle }⟩ := by
    have sum : rights (trace ++ events.map .inl) = rights trace := by
      simp only [observe_append, rights_map_inl, List.append_nil]
    rw [sum]
    exact joint_of_unwinds sound unwinds
  exact ⟨task.1, task.2, guarded_of_unwinds sound.guarded unwinds,
    linked_of_unwinds sound.linked unwinds, joint.1, joint.2⟩

/-! ### The boxes -/

private theorem owned_at {trace : List (TaskFuture.Event W T P)} {task : TaskFuture.State W T P}
    {point : TaskFuture.Point W T P} (owned : TaskFuture.Owned trace task)
    (held : point.held = task.point.held) (seen : point.seen = task.point.seen)
    (here : task.point ≠ .dropped) (there : point ≠ .dropped) :
    TaskFuture.Owned trace { task with point := point } := by
  have owners : ({ task with point := point } : TaskFuture.State W T P).owners = task.owners := by
    simp only [TaskFuture.State.owners, TaskFuture.State.slotHeld, held]
  have compared : ({ task with point := point } : TaskFuture.State W T P).seen = task.seen := by
    simp only [TaskFuture.State.seen, seen]
  exact
    { ledger := fun token => owners ▸ owned.ledger token
      numbered := owned.numbered
      live := fun box member => owned.live box (owners ▸ member)
      valid := owned.valid
      seenSlot := fun box member => owned.seenSlot box (compared ▸ member)
      seenLive := fun uncancelled _ box member =>
        owned.seenLive uncancelled here box (compared ▸ member)
      emptied := fun dropped => absurd dropped there }

/-- A `clone_from` that panics frees a box that a loop may still compare against. -/
private theorem owned_of_unwinds {trace : List (TaskFuture.Event W T P)}
    (owned : TaskFuture.Owned trace state.1) (guarded : TaskFuture.Guarded state.1)
    (unwinds : Unwinds state which next events) (other : which ≠ .cloneFrom) :
    TaskFuture.Owned (trace ++ events) next.1 := by
  cases unwinds with
  | cloneFrom => exact absurd rfl other
  | clone waker point | joinerInPoll point | joinerInDrop point =>
      rw [List.append_nil]
      exact owned_at owned (by rw [point]; rfl) (by rw [point]; rfl) (by simp [point]) nofun
  | refused box point =>
      exact owned_at (TaskFuture.step_owned owned guarded (.boxRejected box point)) rfl rfl nofun
        nofun
  | handleClone =>
      rw [List.append_nil]
      exact owned

/-! ### Whole runs -/

variable {guard : Guard (TaskJoin.State W V T P) (Action W V T P) (Event W V T P)}
  {config : Config (TaskJoin.State W V T P) (Event W V T P)}

private theorem acts_map (shown : List (TaskJoin.Event W V T P)) :
    acts (shown.map .act : List (Event W V T P)) = shown := observe_map_some _ _ fun _ => rfl

private theorem acts_panicked (shown : List (TaskJoin.Event W V T P)) (which : Panic) :
    acts (shown.map .act ++ [.panicked which] : List (Event W V T P)) = shown := by
  have sum : acts (shown.map .act ++ [.panicked which] : List (Event W V T P)) =
      acts (shown.map .act) ++ [] := observe_append _ _ _
  rw [sum, acts_map, List.append_nil]

private theorem step_cases {action : Action W V T P} {shown : List (Event W V T P)}
    (stepped : (machine visibility).step state action = some (next, shown)) :
    (∃ own own_shown, (TaskJoin.machine visibility).step state own = some (next, own_shown) ∧
        shown = own_shown.map .act) ∨
      ∃ which events, Unwinds state which next events ∧
        shown = (events.map .inl).map .act ++ [.panicked which] := by
  cases action with
  | act own =>
      obtain ⟨⟨moved, own_shown⟩, moves, same⟩ := Option.map_eq_some_iff.mp stepped
      cases same
      exact .inl ⟨own, own_shown, moves, rfl⟩
  | panic which =>
      obtain ⟨⟨moved, events⟩, unwound, same⟩ := Option.map_eq_some_iff.mp stepped
      cases same
      exact .inr ⟨which, events, unwinds_of_panic unwound, rfl⟩

theorem sound_of_reaches
    (run : (machine visibility).Reaches guard (.initial (.new id)) config) :
    Sound visibility id (spared config) := by
  refine run.invariant (fun config => Sound visibility id (spared config)) ?_ ?_
  · have task : TaskFuture.machine.Reaches .any (.initial (.new : TaskFuture.State W T P))
        (.initial .new) := .refl
    have whole : (TaskJoin.machine visibility).Reaches .any
        (.initial (.new id : TaskJoin.State W V T P)) (.initial (.new id)) := .refl
    exact ⟨TaskFuture.slotFacts_of_reaches task, TaskFuture.progress_of_reaches task,
      TaskFuture.guarded_of_reaches task, TaskJoin.linked_of_reaches whole, .refl,
      fun _ _ registering => by cases registering⟩
  · intro before action next shown _reached sound _allowed stepped
    have sum : acts (before.trace ++ shown) = acts before.trace ++ acts shown :=
      observe_append _ _ _
    rw [spared, sum]
    rcases step_cases stepped with ⟨own, own_shown, moves, rfl⟩ | ⟨which, events, unwinds, rfl⟩
    · rw [acts_map]
      exact step_sound sound moves
    · rw [acts_panicked]
      exact panic_sound sound unwinds

theorem owned_of_reaches
    (run : (machine visibility).Reaches guard (.initial (.new id)) config)
    (careful : .cloneFrom ∉ panics config.trace) :
    TaskFuture.Owned (lefts (acts config.trace)) config.state.1 := by
  refine run.invariant (fun config => .cloneFrom ∉ panics config.trace →
    TaskFuture.Owned (lefts (acts config.trace)) config.state.1) ?_ ?_ careful
  · intro _
    have task : TaskFuture.machine.Reaches .any (.initial (.new : TaskFuture.State W T P))
        (.initial .new) := .refl
    exact TaskFuture.owned_of_reaches task
  · intro before action next shown reached owned _allowed stepped careful
    have sum : lefts (acts (before.trace ++ shown)) =
        lefts (acts before.trace) ++ lefts (acts shown) := by
      simp only [acts, observe_append]
    have panicsSum : panics (before.trace ++ shown) = panics before.trace ++ panics shown :=
      observe_append _ _ _
    rw [panicsSum, List.mem_append, not_or] at careful
    have before_owned := owned careful.1
    have guarded : TaskFuture.Guarded before.state.1 := (sound_of_reaches reached).guarded
    rw [sum]
    rcases step_cases stepped with ⟨own, own_shown, moves, rfl⟩ | ⟨which, events, unwinds, rfl⟩
    · rw [acts_map]
      rcases TaskJoin.task_step moves with ⟨_, transition, _⟩ | ⟨same, silent⟩
      · exact TaskFuture.step_owned before_owned guarded transition
      · rw [same, silent, List.append_nil]
        exact before_owned
    · have other : which ≠ .cloneFrom := by
        rintro rfl
        exact careful.2 (by simp)
      rw [acts_panicked, lefts_map_inl]
      exact owned_of_unwinds before_owned guarded unwinds other

/-! ### Panicking wakers -/

structure Unharmed (visibility : Visibility) (id : RawId)
    (config : Config (TaskJoin.State W V T P) (Event W V T P)) : Prop where
  once : (Joint.deliveries (spared config).right.trace).length ≤ 1
  learns : ∀ output ∈ Joint.deliveries (spared config).right.trace,
    Learns id (spared config).left.trace output
  settles : TaskJoin.GivenUp config.state.1 →
    true ∉ TaskFuture.destructions (spared config).left.trace →
    ∃ value, TaskFuture.handed (spared config).left.trace = [value] ∧
      (config.state.2.handle = .idle → Joint.deliveries (spared config).right.trace = [] →
        Joint.NextPollReady visibility (spared config).right (joinOutput id value))
  boxes : .cloneFrom ∉ panics config.trace →
    TaskFuture.BoxesKept (spared config).left.trace config.state.1

/-- Whichever wakers panic, the joiner is told once and the truth, a task that has
been given up has handed its outcome over, and the next poll of an idle handle gets
it. No box is lost or freed twice unless a `clone_from` panics. -/
theorem panicking_wakers_lose_nothing
    (run : (machine visibility).Reaches guard (.initial (.new id)) config) :
    Unharmed visibility id config := by
  have sound := sound_of_reaches run
  refine ⟨sound.linked.delivered_once sound.joint,
    fun _ => sound.linked.learns sound.joint sound.progress, ?_, ?_⟩
  · intro givenUp calm
    obtain ⟨value, handed⟩ : ∃ value, TaskFuture.handed (spared config).left.trace = [value] := by
      cases sound.progress with
      | running future | finishing _ _ future =>
          rw [show (spared config).left.state.hasFuture = false from givenUp.1] at future
          cases future
      | handing caller value _ point =>
          rcases givenUp.2 with here | here | here <;>
            rw [show config.state.1.point = .handing caller value from point] at here <;>
              cases here
      | done value before after _ _ split _ once =>
          refine ⟨value, ?_⟩
          rw [split]
          simp [once.1, once.2]
      | lost _ _ _ destroyed =>
          rw [destroyed] at calm
          exact absurd List.mem_cons_self calm
    refine ⟨value, handed, fun idle undelivered => ?_⟩
    have returned : config.state.2.wake = .returned := by
      rcases sound.linked.returned (by simp [handed]) with ⟨caller, notifying⟩ | returned
      · have here : config.state.1.point = .notifying caller := notifying
        rcases givenUp.2 with point | point | point <;> rw [here] at point <;> cases point
      · exact returned
    have publishes : Joint.published (spared config).right.trace ≠ [] :=
      TaskJoin.published_of_returned (Joint.coherent_of_reaches sound.joint).phase returned (by
        change ¬ config.state.2.handle.Leaving
        rw [idle]
        exact not_false)
    exact Joint.nextPollReady_of_published sound.joint idle publishes
      (sound.linked.calls.trans handed) undelivered
  · intro careful
    exact (owned_of_reaches run careful).boxesKept sound.guarded

def taskSteps (actions : List (TaskFuture.Action Nat Nat Nat)) : List (Action Nat Nat Nat Nat) :=
  actions.map fun action => .act (.left action)

def jointSteps (actions : List (Joint.Action Nat Nat Nat)) : List (Action Nat Nat Nat Nat) :=
  actions.map fun action => .act (.right action)

def panicsAllAlong : List (Action Nat Nat Nat Nat) :=
  jointSteps [.pollLoad 9 0] ++ [.panic .handleClone] ++ jointSteps [.pollLoad 9 0, .pollReplace] ++
  taskSteps [.poll 1, .check, .pollInner, .innerReturn .pending] ++ [.panic .clone] ++
  taskSteps [.poll 2, .check, .pollInner, .innerReturn .pending, .newBox 8, .cancel,
    .cancelLoad 0, .cancelExchange 0, .updateLoad] ++ [.panic .refused] ++
  taskSteps [.drop, .dropFuture false] ++ [.act (.both 0)] ++
  jointSteps [.wakeReplace, .wakeStore, .wakeMatch] ++ [.panic .joiner] ++
  taskSteps [.dropFields, .dropCancellation]

theorem panicking_wakers_lose_nothing_all_along :
    ∃ config, (machine .latest).exec .any (.initial (.new ⟨7⟩)) panicsAllAlong = some config ∧
      panics config.trace = [.handleClone, .clone, .refused, .joiner] ∧
      config.state.1.cancellationDropped = true ∧ Unharmed .latest ⟨7⟩ config := by
  obtain ⟨config, executed, panicked, gone⟩ :
      ∃ config, (machine .latest).exec .any (.initial (.new ⟨7⟩)) panicsAllAlong = some config ∧
        panics config.trace = [.handleClone, .clone, .refused, .joiner] ∧
        config.state.1.cancellationDropped = true := ⟨_, rfl, rfl, rfl⟩
  exact ⟨config, executed, panicked, gone,
    panicking_wakers_lose_nothing (reaches_of_exec panicsAllAlong executed)⟩

/-- A box is freed by `clone_from`, and another one at its address gets into the slot,
between the two accesses of a cancel. -/
def clonesFromInLoop : List (Action Nat Nat Nat Nat) :=
  taskSteps [.poll 1, .check, .pollInner, .innerReturn .pending, .newBox 8, .updateLoad,
    .updateExchange, .updateReturn,
    .poll 2, .check, .pollInner, .innerReturn .pending, .newBox 9, .updateLoad, .updateExchange,
    .updateReturn, .cancel, .cancelLoad 0,
    .poll 3, .check, .pollInner, .innerReturn .pending, .reuseBox, .updateLoad, .updateExchange,
    .updateReturn,
    .poll 4, .check, .pollInner, .innerReturn .pending] ++ [.panic .cloneFrom] ++
  taskSteps [.poll 5, .check, .pollInner, .innerReturn .pending, .newBox 9, .updateLoad,
    .updateExchange, .updateReturn, .cancelExchange 0, .cancelWake 0]

theorem clone_from_frees_too_early :
    ¬ ∀ config : Config (TaskJoin.State Nat Nat Nat Nat) (Event Nat Nat Nat Nat),
      (machine .latest).Reaches .any (.initial (.new ⟨7⟩)) config →
      TaskFuture.BoxesKept (spared config).left.trace config.state.1 := by
  intro claim
  obtain ⟨config, executed, misused⟩ :
      ∃ config, (machine .latest).exec .any (.initial (.new ⟨7⟩)) clonesFromInLoop =
        some config ∧ TaskFuture.invalidAccesses (spared config).left.trace = [⟨9, 1⟩] :=
    ⟨_, rfl, rfl⟩
  have kept := (claim config (reaches_of_exec clonesFromInLoop executed)).valid
  rw [misused] at kept
  cases kept

end WakerPanics

end Spawns
