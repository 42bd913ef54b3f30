/-
The join protocol without a stage, and that every joint simulates it.

In the reference protocol a completion, a poll and a drop are one step each on
one cell. The joint answers a poll where the reference does, completes at the
replace of its result or at its early return, and detaches where its drop
begins. Loads of the stage may return any value stored so far.
-/

import Spawns.Core.JointPoll

namespace Spawns

open EventMachine

variable {W T P : Type}

namespace Joint.Reference

inductive Cell (W T P : Type) where
  | vacant
  | waiting (waker : W)
  | holding (value : TaskResult T P)
  | taken
  | detached

structure State (W T P : Type) where
  cell : Cell W T P
  completed : Bool

inductive Event (W T P : Type) where
  | completed (value : TaskResult T P)
  | woken (waker : W)
  | pollReturned (waker : W) (outcome : PollOutcome T P)
  | discarded (value : TaskResult T P)

inductive Action (W T P : Type) where
  | complete (value : TaskResult T P)
  | poll (waker : W)
  | drop

def State.new : State W T P := ⟨.vacant, false⟩

/-- Publishes the result, unless the handle is detached. -/
def complete (state : State W T P) (value : TaskResult T P) :
    Option (State W T P × List (Event W T P)) :=
  if state.completed then none
  else
    match state.cell with
    | .vacant => some (⟨.holding value, true⟩, [.completed value])
    | .waiting waker => some (⟨.holding value, true⟩, [.completed value, .woken waker])
    | .detached => some (⟨.detached, true⟩, [.completed value, .discarded value])
    | _ => none

/-- Takes a published result, or else registers the waker. -/
def poll (id : RawId) (state : State W T P) (waker : W) :
    Option (State W T P × List (Event W T P)) :=
  match state.cell with
  | .vacant => some ({ state with cell := .waiting waker }, [.pollReturned waker .pending])
  | .waiting _ => some ({ state with cell := .waiting waker }, [.pollReturned waker .pending])
  | .holding value =>
      some ({ state with cell := .taken },
        [.pollReturned waker (.ready (joinOutput id value))])
  | _ => none

/-- Detaches, and discards a published result that nobody took. -/
def drop (state : State W T P) : Option (State W T P × List (Event W T P)) :=
  match state.cell with
  | .holding value => some ({ state with cell := .detached }, [.discarded value])
  | .detached => none
  | _ => some ({ state with cell := .detached }, [])

def machine (id : RawId) : Machine (State W T P) (Action W T P) (Event W T P) where
  step state
    | .complete value => complete state value
    | .poll waker => poll id state waker
    | .drop => drop state

@[simp] def Event.completed? : Event W T P → Option (TaskResult T P)
  | .completed value => some value
  | _ => none

@[simp] def Event.woken? : Event W T P → Option W
  | .woken waker => some waker
  | _ => none

@[simp] def Event.poll? : Event W T P → Option (W × PollOutcome T P)
  | .pollReturned waker outcome => some (waker, outcome)
  | _ => none

@[simp] def Event.discarded? : Event W T P → Option (TaskResult T P)
  | .discarded value => some value
  | _ => none

abbrev completions (trace : List (Event W T P)) : List (TaskResult T P) :=
  observe Event.completed? trace

abbrev woken (trace : List (Event W T P)) : List W := observe Event.woken? trace

abbrev polls (trace : List (Event W T P)) : List (W × PollOutcome T P) :=
  observe Event.poll? trace

abbrev discarded (trace : List (Event W T P)) : List (TaskResult T P) :=
  observe Event.discarded? trace

end Joint.Reference

def JoinResult.cell : JoinResult W T P → Joint.Reference.Cell W T P
  | .joining waker => .waiting waker
  | _ => .vacant

namespace Joint

open Machine (reaches_of_exec)

variable {visibility : Visibility} {trace events : List (Event W T P)} {state next : State W T P}

/-! ### What the reference sees of a joint -/

/-- `Joint::wake` has published its value or given it up. -/
def WakePoint.passed : WakePoint W T P → Bool
  | .notCalled => false
  | .replacing _ => false
  | _ => true

def WakePoint.owing : WakePoint W T P → List W
  | .storing previous => previous.owedWakers
  | .matching previous => previous.owedWakers
  | _ => []

def PollReturn.shown (poll : PollReturn W T P) : W × PollOutcome T P := (poll.waker, poll.outcome)

inductive View (trace : List (Event W T P)) (state : State W T P) :
    Reference.Cell W T P → List (TaskResult T P) → Prop where
  | waiting (stays : ¬ state.handle.Leaving) (unpublished : published trace = []) :
      View trace state (registered trace).cell []
  | holding (value : TaskResult T P) (stays : ¬ state.handle.Leaving)
      (publishes : published trace ≠ []) (called : calls trace = [value])
      (undelivered : deliveries trace = []) : View trace state (.holding value) []
  | taken (stays : ¬ state.handle.Leaving) (publishes : published trace ≠ [])
      (delivered : deliveries trace ≠ []) : View trace state .taken []
  | deserted (leaves : state.handle.Leaving) (waits : state.wake.passed = false) :
      View trace state .detached []
  | kept (leaves : state.handle.Leaving) (passed : state.wake.passed = true)
      (delivered : deliveries trace ≠ []) : View trace state .detached []
  | lost (value : TaskResult T P) (leaves : state.handle.Leaving)
      (passed : state.wake.passed = true) (called : calls trace = [value])
      (undelivered : deliveries trace = []) : View trace state .detached [value]

structure Simulates (config : Config (State W T P) (Event W T P))
    (reference : Config (Reference.State W T P) (Reference.Event W T P)) : Prop where
  polls : Reference.polls reference.trace = (polls config.trace).map PollReturn.shown
  completions : Reference.completions reference.trace =
    if config.state.wake.passed then calls config.trace else []
  completed : reference.state.completed = config.state.wake.passed
  wakeups : ¬ config.state.handle.Leaving →
    Reference.woken reference.trace = woken config.trace ++ config.state.wake.owing
  view : View config.trace config.state reference.state.cell (Reference.discarded reference.trace)

private theorem simulates_new (id : RawId) :
    Simulates (.initial (State.new id) : Config (State W T P) (Event W T P))
      (.initial Reference.State.new) where
  polls := rfl
  completions := rfl
  completed := rfl
  wakeups := fun _ => rfl
  view := .waiting not_false rfl

/-! ### Steps the reference does not see -/

private theorem View.frame {cell : Reference.Cell W T P} {lost : List (TaskResult T P)}
    (view : View trace state cell lost) (quiet : polls events = [])
    (unpublished : published events = []) (uncalled : calls events = [] ∨ calls trace = [])
    (leaving : next.handle.Leaving ↔ state.handle.Leaving)
    (passed : next.wake.passed = state.wake.passed) : View (trace ++ events) next cell lost := by
  have samePublished : published (trace ++ events) = published trace := by
    simp only [observe_append, unpublished, List.append_nil]
  have sameDeliveries : deliveries (trace ++ events) = deliveries trace := by
    simp only [observe_append, deliveries_nil_of_polls quiet, List.append_nil]
  have sameCalls (value : TaskResult T P) (called : calls trace = [value]) :
      calls (trace ++ events) = [value] := by
    rcases uncalled with none | empty
    · simp only [observe_append, none, called, List.append_nil]
    · rw [called] at empty
      cases empty
  cases view with
  | waiting stays none =>
      rw [← registered_append quiet]
      exact .waiting (fun leaves => stays (leaving.mp leaves)) (samePublished.trans none)
  | holding value stays publishes called undelivered =>
      exact .holding value (fun leaves => stays (leaving.mp leaves)) (samePublished ▸ publishes)
        (sameCalls value called) (sameDeliveries.trans undelivered)
  | taken stays publishes delivered =>
      exact .taken (fun leaves => stays (leaving.mp leaves)) (samePublished ▸ publishes)
        (sameDeliveries ▸ delivered)
  | deserted leaves waits => exact .deserted (leaving.mpr leaves) (passed.trans waits)
  | kept leaves atEnd delivered =>
      exact .kept (leaving.mpr leaves) (passed.trans atEnd) (sameDeliveries ▸ delivered)
  | lost value leaves atEnd called undelivered =>
      exact .lost value (leaving.mpr leaves) (passed.trans atEnd) (sameCalls value called)
        (sameDeliveries.trans undelivered)

variable {reference : Config (Reference.State W T P) (Reference.Event W T P)} {id : RawId}

private theorem Simulates.silent (simulates : Simulates ⟨trace, state⟩ reference)
    (quiet : Joint.polls events = []) (unpublished : published events = [])
    (uncalled : calls events = [] ∨ calls trace = [] ∧ state.wake.passed = false)
    (leaving : next.handle.Leaving ↔ state.handle.Leaving)
    (passed : next.wake.passed = state.wake.passed)
    (owed : ¬ state.handle.Leaving → woken events ++ next.wake.owing = state.wake.owing) :
    Simulates ⟨trace ++ events, next⟩ reference where
  polls := by simpa only [observe_append, quiet, List.append_nil] using simulates.polls
  completions := by
    rw [simulates.completions]
    change _ = if next.wake.passed then calls (trace ++ events) else []
    rcases uncalled with none | ⟨_, waits⟩
    · simp only [passed, observe_append, none, List.append_nil]
    · rw [passed]
      simp only [waits, Bool.false_eq_true, if_false]
  completed := simulates.completed.trans passed.symm
  wakeups := by
    intro stays
    have before : ¬ state.handle.Leaving := fun leaves => stays (leaving.mpr leaves)
    rw [simulates.wakeups before]
    change woken trace ++ state.wake.owing = woken (trace ++ events) ++ next.wake.owing
    rw [← owed before]
    simp only [observe_append, List.append_assoc]
  view := simulates.view.frame quiet unpublished (uncalled.imp_right And.left) leaving passed

/-! ### Completion -/

theorem Phase.waiting_facts (phase : Phase trace state) (waits : state.wake.passed = false) :
    published trace = [] ∧ deliveries trace = [] ∧ woken trace = [] ∧
      (state.wake = .notCalled → calls trace = []) ∧
      ∀ value, state.wake = .replacing value → calls trace = [value] := by
  cases phase with
  | fresh waiting unpublished quiet _ pending | abandoned waiting unpublished quiet _ pending =>
      refine ⟨unpublished, pending.deliveries_nil, quiet, ?_⟩
      rcases waiting with ⟨wake, called⟩ | ⟨value, wake, called⟩ <;> simp_all
  | refused _ wake => rw [wake] at waits; cases waits
  | available _ after | settling _ _ _ after | taken _ _ after | revoked _ _ after =>
      cases point : state.wake with
      | notCalled | replacing => rw [point] at after; cases after
      | storing | matching | notifying | returned | panicked => rw [point] at waits; cases waits
  | late _ wake => rcases wake with wake | wake <;> rw [wake] at waits <;> cases waits

private theorem Phase.passed_of_published (phase : Phase trace state)
    (publishes : published trace ≠ []) :
    state.wake.passed = true := by
  by_contra waits
  exact publishes (phase.waiting_facts (Bool.not_eq_true _ ▸ waits)).1

private theorem Phase.waits_of_unpublished (phase : Phase trace state)
    (stays : ¬ state.handle.Leaving)
    (unpublished : published trace = []) :
    state.wake.passed = false ∧ state.result = registered trace := by
  cases phase with
  | fresh waiting _ _ _ _ _ result =>
      refine ⟨?_, result⟩
      rcases waiting with ⟨wake, _⟩ | ⟨_, wake, _⟩ <;> rw [wake] <;> rfl
  | abandoned _ _ _ _ _ handle =>
      rw [handle] at stays
      exact absurd trivial stays
  | refused _ _ _ _ _ _ _ handle =>
      rcases handle with ⟨handle, _⟩ | ⟨handle, _⟩
      all_goals
        rw [handle] at stays
        exact absurd trivial stays
  | available _ _ _ publishes | settling _ _ _ _ _ publishes | taken _ _ _ _ _ publishes
  | revoked _ _ _ _ _ publishes | late _ _ _ publishes =>
      rw [publishes] at unpublished
      cases unpublished

/-- A value that meets a leaving handle is discarded by the reference at once. -/
private theorem Simulates.complete_leaving {value : TaskResult T P}
    (simulates : Simulates ⟨trace, state⟩ reference) (phase : Phase trace state)
    (waits : state.wake.passed = false) (passed : next.wake.passed = true)
    (leaves : state.handle.Leaving) (handle : next.handle = state.handle)
    (quiet : Joint.polls events = []) (called : calls (trace ++ events) = [value]) :
    ∃ after, (Reference.machine id).Reaches .any reference after ∧
      Simulates ⟨trace ++ events, next⟩ after := by
  obtain ⟨refTrace, cell, completed⟩ := reference
  obtain ⟨_, undelivered, _⟩ := phase.waiting_facts waits
  have fresh : completed = false := simulates.completed.trans waits
  have none : Reference.completions refTrace = [] := by
    simpa [waits] using simulates.completions
  obtain ⟨detached, kept⟩ : cell = .detached ∧ Reference.discarded refTrace = [] := by
    generalize empty : Reference.discarded refTrace = lost
    have view := simulates.view
    change View trace state cell (Reference.discarded refTrace) at view
    rw [empty] at view
    cases view with
    | waiting stays | holding _ stays | taken stays => exact absurd leaves stays
    | deserted => exact ⟨rfl, rfl⟩
    | kept _ atEnd | lost _ _ atEnd => rw [waits] at atEnd; cases atEnd
  subst fresh detached
  refine ⟨_, .single (.mk (show Guard.any _ (.complete value) from trivial) rfl), ?_⟩
  refine
    { polls := ?_
      completions := ?_
      completed := passed.symm
      wakeups := fun stays => absurd (handle ▸ leaves) stays
      view := ?_ }
  · simp [quiet, simulates.polls]
  · simp only [passed, if_true, called, observe_append, none]
    rfl
  · have lost : Reference.discarded (refTrace ++ [.completed value, .discarded value]) =
        [value] := by simp [kept]
    rw [lost]
    refine .lost value (handle ▸ leaves) passed called ?_
    simp only [observe_append, undelivered, deliveries_nil_of_polls quiet, List.append_nil]

/-- A value published for a live handle is published in the reference as well,
and the waker that goes with it is owed. -/
private theorem Simulates.complete_open {value : TaskResult T P}
    (simulates : Simulates ⟨trace, state⟩ reference) (phase : Phase trace state)
    (waits : state.wake.passed = false) (passed : next.wake.passed = true)
    (stays : ¬ state.handle.Leaving) (handle : next.handle = state.handle)
    (quiet : Joint.polls events = []) (called : calls (trace ++ events) = [value])
    (asleep : woken events = []) (publishes : published (trace ++ events) ≠ [])
    (owing : next.wake.owing = (registered trace).owedWakers) :
    ∃ after, (Reference.machine id).Reaches .any reference after ∧
      Simulates ⟨trace ++ events, next⟩ after := by
  obtain ⟨refTrace, cell, completed⟩ := reference
  obtain ⟨unpublished, undelivered, unwoken, _⟩ := phase.waiting_facts waits
  have fresh : completed = false := simulates.completed.trans waits
  have none : Reference.completions refTrace = [] := by
    simpa [waits] using simulates.completions
  have idle : Reference.woken refTrace = [] := by
    have owed := simulates.wakeups stays
    have nothing : state.wake.owing = [] := by
      cases point : state.wake <;> simp_all [WakePoint.passed, WakePoint.owing]
    simpa [unwoken, nothing] using owed
  obtain ⟨registers, kept⟩ :
      cell = (registered trace).cell ∧ Reference.discarded refTrace = [] := by
    generalize empty : Reference.discarded refTrace = lost
    have view := simulates.view
    change View trace state cell (Reference.discarded refTrace) at view
    rw [empty] at view
    cases view with
    | waiting => exact ⟨rfl, rfl⟩
    | holding _ _ impossible | taken _ impossible => exact absurd unpublished impossible
    | deserted leaves | kept leaves | lost _ leaves => exact absurd leaves stays
  subst fresh registers
  have stepped : ∃ wakers : List W, wakers = (registered trace).owedWakers ∧
      (Reference.machine id).step ⟨(registered trace).cell, false⟩ (.complete value) =
        some (⟨.holding value, true⟩, .completed value :: wakers.map .woken) := by
    have registrable := registered_registrable trace
    cases found : registered trace with
    | empty => exact ⟨[], rfl, rfl⟩
    | joining waker => exact ⟨[waker], rfl, rfl⟩
    | joined | finished | detached => rw [found] at registrable; cases registrable
  obtain ⟨wakers, owed, stepped⟩ := stepped
  refine ⟨_, .single (.mk trivial stepped), ?_⟩
  refine
    { polls := ?_
      completions := ?_
      completed := passed.symm
      wakeups := fun _ => ?_
      view := ?_ }
  · have silent : Reference.polls (wakers.map .woken : List (Reference.Event W T P)) = [] :=
      observe_map_none _ _ fun _ => rfl
    simp [quiet, silent, simulates.polls]
  · have silent : Reference.completions (wakers.map .woken : List (Reference.Event W T P)) = [] :=
      observe_map_none _ _ fun _ => rfl
    simp only [passed, if_true, called, observe_append, observe_cons, none, silent]
    rfl
  · have shown : Reference.woken (wakers.map .woken : List (Reference.Event W T P)) = wakers :=
      observe_map_some _ _ fun _ => rfl
    have same : next.wake.owing = wakers := owing.trans owed.symm
    simp only [observe_append, observe_cons, idle, shown, unwoken, asleep, same]
    rfl
  · have silent : Reference.discarded (wakers.map .woken : List (Reference.Event W T P)) = [] :=
      observe_map_none _ _ fun _ => rfl
    have nothing : Reference.discarded (refTrace ++ .completed value :: wakers.map .woken) =
        [] := by simp [kept, silent]
    rw [nothing]
    refine .holding value (handle ▸ stays) publishes called ?_
    simp only [observe_append, undelivered, deliveries_nil_of_polls quiet, List.append_nil]

/-! ### Polls -/

private theorem HandlePoint.Busy.stays {point : HandlePoint W T P} (busy : point.Busy) :
    ¬ point.Leaving := by
  cases point with
  | taking | registering | settling => exact not_false
  | idle | detaching | dropped => cases busy

private theorem Simulates.answer {returned : PollReturn W T P}
    (simulates : Simulates ⟨trace, state⟩ reference) (phase : Phase trace state)
    (undelivered : deliveries trace = []) (sameId : state.id = id)
    (answers : Answers state returned) (polled : Joint.polls events = [returned])
    (unpublished : published events = []) (uncalled : calls events = [])
    (asleep : woken events = []) (idle : next.handle = .idle) (wake : next.wake = state.wake) :
    ∃ after, (Reference.machine id).Reaches .any reference after ∧
      Simulates ⟨trace ++ events, next⟩ after := by
  obtain ⟨refTrace, cell, completed⟩ := reference
  have stays := answers.busy.stays
  have staysNext : ¬ next.handle.Leaving := by rw [idle]; exact not_false
  have samePublished : published (trace ++ events) = published trace := by
    simp only [observe_append, unpublished, List.append_nil]
  have view := simulates.view
  change View trace state cell (Reference.discarded refTrace) at view
  -- Both answers leave everything but the polls and the cell alone.
  have answered (final : Reference.Cell W T P)
      (shows : View (trace ++ events) next final (Reference.discarded refTrace)) :
      Simulates ⟨trace ++ events, next⟩
        ⟨refTrace ++ [.pollReturned returned.waker returned.outcome], final, completed⟩ := by
    refine
      { polls := ?_
        completions := ?_
        completed := by rw [simulates.completed, wake]
        wakeups := fun _ => ?_
        view := ?_ }
    · simp [polled, simulates.polls, PollReturn.shown]
    · simp [uncalled, wake, simulates.completions]
    · simp [asleep, wake, simulates.wakeups stays]
    · simpa using shows
  rcases phase.answer undelivered answers with
    ⟨none, pending⟩ | ⟨value, called, publishes, ready⟩
  · have registers : cell = (registered trace).cell ∧ Reference.discarded refTrace = [] := by
      generalize Reference.discarded refTrace = lost at view
      cases view with
      | waiting => exact ⟨rfl, rfl⟩
      | holding _ _ impossible | taken _ impossible => exact absurd none impossible
      | deserted leaves | kept leaves | lost _ leaves => exact absurd leaves stays
    have waiting : (registered (trace ++ events)).cell = .waiting returned.waker := by
      simp [registered, polled, JoinResult.cell]
    have stepped : (Reference.machine id).step ⟨cell, completed⟩ (.poll returned.waker) =
        some (⟨.waiting returned.waker, completed⟩,
          [.pollReturned returned.waker returned.outcome]) := by
      have registrable := registered_registrable trace
      rw [registers.1, pending]
      cases found : registered trace with
      | empty | joining => rfl
      | joined | finished | detached => rw [found] at registrable; cases registrable
    refine ⟨_, .single (.mk trivial stepped), answered _ ?_⟩
    rw [registers.2, ← waiting]
    exact .waiting staysNext (samePublished.trans none)
  · have holds : cell = .holding value ∧ Reference.discarded refTrace = [] := by
      generalize Reference.discarded refTrace = lost at view
      cases view with
      | waiting _ none => exact absurd none publishes
      | holding same _ _ calledSame =>
          rw [called, List.cons.injEq] at calledSame
          exact ⟨by rw [calledSame.1], rfl⟩
      | taken _ _ delivered => exact absurd undelivered delivered
      | deserted leaves | kept leaves | lost _ leaves => exact absurd leaves stays
    have stepped : (Reference.machine id).step ⟨cell, completed⟩ (.poll returned.waker) =
        some (⟨.taken, completed⟩, [.pollReturned returned.waker returned.outcome]) := by
      rw [holds.1, ready, sameId]
      rfl
    refine ⟨_, .single (.mk trivial stepped), answered _ ?_⟩
    rw [holds.2]
    refine .taken staysNext (samePublished ▸ publishes) ?_
    rw [deliveries_eq_polls]
    simp [polled, ready, PollOutcome.output?]

/-! ### The drop -/

private theorem Simulates.detach (simulates : Simulates ⟨trace, state⟩ reference)
    (phase : Phase trace state) (idle : state.handle = .idle)
    (handle : next.handle = .detaching) (wake : next.wake = state.wake) :
    ∃ after, (Reference.machine id).Reaches .any reference after ∧
      Simulates ⟨trace ++ [.detachBegan], next⟩ after := by
  obtain ⟨refTrace, cell, completed⟩ := reference
  have stays : ¬ state.handle.Leaving := by rw [idle]; exact not_false
  have leaves : next.handle.Leaving := by rw [handle]; trivial
  have view := simulates.view
  change View trace state cell (Reference.discarded refTrace) at view
  have dropped (lost : List (TaskResult T P))
      (stepped : (Reference.machine id).step ⟨cell, completed⟩ .drop =
        some (⟨.detached, completed⟩, lost.map .discarded))
      (shows : View (trace ++ [.detachBegan]) next .detached
        (Reference.discarded refTrace ++ lost)) :
      ∃ after, (Reference.machine id).Reaches .any ⟨refTrace, cell, completed⟩ after ∧
        Simulates ⟨trace ++ [.detachBegan], next⟩ after := by
    refine ⟨_, .single (.mk trivial stepped), ?_⟩
    refine
      { polls := ?_
        completions := ?_
        completed := by rw [simulates.completed, wake]
        wakeups := fun stays => absurd leaves stays
        view := ?_ }
    · have silent : Reference.polls (lost.map .discarded : List (Reference.Event W T P)) = [] :=
        observe_map_none _ _ fun _ => rfl
      simp [silent, simulates.polls]
    · have silent :
          Reference.completions (lost.map .discarded : List (Reference.Event W T P)) = [] :=
        observe_map_none _ _ fun _ => rfl
      simp [silent, wake, simulates.completions]
    · have shown : Reference.discarded (lost.map .discarded : List (Reference.Event W T P)) =
          lost := observe_map_some _ _ fun _ => rfl
      simpa only [observe_append, shown] using shows
  generalize empty : Reference.discarded refTrace = before at view dropped
  cases view with
  | waiting _ unpublished =>
      have waits := (phase.waits_of_unpublished stays unpublished).1
      refine dropped [] ?_ (.deserted leaves (by rw [wake, waits]))
      cases registered trace <;> rfl
  | holding value _ publishes called undelivered =>
      have passed : next.wake.passed = true := by
        rw [wake, phase.passed_of_published publishes]
      exact dropped [value] rfl
        (.lost value leaves passed (by simp [called]) (by simp [undelivered]))
  | taken _ publishes delivered =>
      have passed : next.wake.passed = true := by
        rw [wake, phase.passed_of_published publishes]
      exact dropped [] rfl (.kept leaves passed (by simp [delivered]))
  | deserted leaving | kept leaving | lost _ leaving => exact absurd leaving stays

/-! ### Whole runs -/

/-- Each step of the joint is answered by at most one step of the reference. -/
private theorem Simulates.step {action : Action W T P}
    (simulates : Simulates ⟨trace, state⟩ reference)
    (phase : Phase trace state) (stages : StageFacts trace state)
    (undelivered : state.handle.Busy → deliveries trace = []) (sameId : state.id = id)
    (stepped : (machine visibility).step state action = some (next, events)) :
    ∃ after, (Reference.machine id).Reaches .any reference after ∧
      Simulates ⟨trace ++ events, next⟩ after := by
  cases action with
  | wakeLoad value raw =>
      obtain ⟨wake, member, running | refused | invalid⟩ := wakeLoad_cases stepped
      · obtain ⟨_, rfl, rfl⟩ := running
        have waits : state.wake.passed = false := by rw [wake]; rfl
        have uncalled := (phase.waiting_facts waits).2.2.2.1 wake
        exact ⟨reference, .refl, simulates.silent rfl rfl (.inr ⟨uncalled, waits⟩) Iff.rfl
          (by rw [waits]; rfl) fun _ => by rw [wake]; rfl⟩
      · obtain ⟨notRunning, rfl, rfl⟩ := refused
        have waits : state.wake.passed = false := by rw [wake]; rfl
        obtain ⟨unpublished, _, _, uncalled, _⟩ := phase.waiting_facts waits
        have leaves : state.handle.Leaving := by
          rcases stages raw member with same | ⟨_, publishes⟩ | ⟨_, leaves⟩
          · exact absurd same notRunning
          · exact absurd unpublished publishes
          · exact leaves
        exact simulates.complete_leaving phase waits rfl leaves rfl rfl
          (by simp [uncalled wake]; rfl)
      · obtain ⟨stage, valid⟩ := stages.valid member
        rw [invalid.1] at valid
        cases valid
  | wakeReplace =>
      obtain ⟨value, wake, rfl, rfl⟩ := wakeReplace_cases stepped
      have waits : state.wake.passed = false := by rw [wake]; rfl
      obtain ⟨unpublished, _, _, _, called⟩ := phase.waiting_facts waits
      have still : calls (trace ++ [.published state.result]) = [value] := by
        simp [called value wake]
      by_cases leaves : state.handle.Leaving
      · exact simulates.complete_leaving phase waits rfl leaves rfl rfl still
      · have found := (phase.waits_of_unpublished leaves unpublished).2
        exact simulates.complete_open phase waits rfl leaves rfl rfl still rfl (by simp)
          (by rw [← found]; rfl)
  | wakeStore =>
      obtain ⟨previous, wake, rfl, rfl⟩ := wakeStore_cases stepped
      exact ⟨reference, .refl, simulates.silent rfl rfl (.inl rfl) Iff.rfl (by rw [wake]; rfl)
        fun _ => by rw [wake]; rfl⟩
  | wakeMatch =>
      obtain ⟨previous, wake⟩ := wakeMatch_cases stepped
      rcases phase.took (.inr wake) with ⟨_, took, _⟩ | late
      · obtain ⟨point, rfl, rfl, reached⟩ := wakeMatch_registrable wake took stepped
        refine ⟨reference, .refl, simulates.silent (observe_map_none _ _ fun _ => rfl)
          (observe_map_none _ _ fun _ => rfl) (.inl (observe_map_none _ _ fun _ => rfl)) Iff.rfl
          ?_ ?_⟩
        · rw [wake]
          rcases reached with rfl | rfl <;> rfl
        · intro _stays
          have called : woken (previous.owedWakers.map .woken : List (Event W T P)) =
              previous.owedWakers := observe_map_some _ _ fun _ => rfl
          rw [called, wake]
          rcases reached with rfl | rfl <;> exact List.append_nil _
      · obtain ⟨rfl, _, _, _, _, _, _, handle, _⟩ := late
        obtain ⟨rfl, rfl⟩ := wakeMatch_detached wake stepped
        exact ⟨reference, .refl, simulates.silent (polls_discardedOf _)
          (published_discardedOf _) (.inl (calls_discardedOf _))
          Iff.rfl (by rw [wake]; rfl) fun stays => absurd (by rw [handle]; trivial) stays⟩
  | wakeReturn =>
      obtain ⟨wake, rfl, rfl⟩ := wakeReturn_cases stepped
      exact ⟨reference, .refl, simulates.silent rfl rfl (.inl rfl) Iff.rfl (by rw [wake]; rfl)
        fun _ => by rw [wake]; rfl⟩
  | pollLoad waker raw =>
      obtain ⟨idle, member, ⟨_, rfl, rfl⟩ | ⟨_, rfl, rfl⟩ | ⟨invalid, _⟩⟩ :=
        pollLoad_cases stepped
      · exact ⟨reference, .refl, simulates.silent rfl rfl (.inl rfl) (by rw [idle]; rfl) rfl
          fun _ => rfl⟩
      · exact ⟨reference, .refl, simulates.silent rfl rfl (.inl rfl) (by rw [idle]; rfl) rfl
          fun _ => rfl⟩
      · obtain ⟨stage, valid⟩ := stages.valid member
        rw [invalid] at valid
        cases valid
  | pollReplace =>
      rcases pollReplace_cases stepped with ⟨waker, handle, rfl, rfl⟩ |
        ⟨waker, loaded, value, handle, _, rfl, rfl⟩ |
        ⟨waker, loaded, handle, unfinished, rfl, rfl⟩
      · have answers := Answers.taking waker handle
        exact simulates.answer phase (undelivered answers.busy) sameId answers rfl rfl rfl rfl rfl
          rfl
      · exact ⟨reference, .refl, simulates.silent rfl rfl (.inl rfl) (by rw [handle]; rfl) rfl
          fun _ => rfl⟩
      · have answers := Answers.registering waker loaded handle unfinished
        exact simulates.answer phase (undelivered answers.busy) sameId answers rfl rfl rfl rfl rfl
          rfl
  | pollSettle =>
      obtain ⟨waker, loaded, value, handle, rfl, rfl⟩ := pollSettle_cases stepped
      have answers := Answers.settling waker loaded value handle
      exact simulates.answer phase (undelivered answers.busy) sameId answers
        (by simp) (by simp)
        (by simp) (by simp) rfl rfl
  | dropStore =>
      obtain ⟨idle, rfl, rfl⟩ := dropStore_cases stepped
      exact simulates.detach phase idle rfl rfl
  | dropReplace =>
      obtain ⟨handle, rfl, rfl⟩ := dropReplace_cases stepped
      exact ⟨reference, .refl, simulates.silent (polls_discardedOf _)
        (published_discardedOf _) (.inl (calls_discardedOf _)) (by rw [handle]; rfl) rfl
        fun stays => absurd (by rw [handle]; trivial) stays⟩

def State.AtRest (state : State W T P) : Prop :=
  (state.wake = .notCalled ∨ state.wake = .notifying ∨ state.wake = .returned) ∧
    (state.handle = .idle ∨ state.handle = .dropped)

private theorem Phase.discards (phase : Phase trace state) :
    discarded trace = [] ∨ ∃ value, calls trace = [value] ∧ discarded trace = [value] ∧
      deliveries trace = [] ∧ state.handle.Leaving ∧ state.wake.passed = true := by
  cases phase with
  | fresh _ _ _ kept | abandoned _ _ _ kept | available _ _ _ _ kept
  | settling _ _ _ _ _ _ kept | taken _ _ _ _ _ _ kept | late _ _ _ _ _ kept => exact .inl kept
  | refused value wake called _ _ lost pending handle =>
      refine .inr ⟨value, called, lost, pending.deliveries_nil, ?_, by rw [wake]; rfl⟩
      rcases handle with ⟨handle, _⟩ | ⟨handle, _⟩ <;> rw [handle] <;> trivial
  | revoked value _ after _ called _ settled handle =>
      rcases settled with ⟨_, kept⟩ | ⟨pending, lost⟩
      · exact .inl kept
      · refine .inr ⟨value, called, lost, pending.deliveries_nil, by rw [handle]; trivial, ?_⟩
        cases point : state.wake with
        | notCalled | replacing => rw [point] at after; cases after
        | storing | matching | notifying | returned | panicked => rfl

private theorem Phase.discards_of_atRest (phase : Phase trace state) (leaves : state.handle.Leaving)
    (passed : state.wake.passed = true) (undelivered : deliveries trace = [])
    (rest : state.AtRest) : discarded trace ≠ [] := by
  have dropped : state.handle = .dropped := by
    rcases rest.2 with idle | dropped
    · rw [idle] at leaves
      cases leaves
    · exact dropped
  have returned : state.wake = .notifying ∨ state.wake = .returned := by
    rcases rest.1 with waits | atEnd
    · rw [waits] at passed
      cases passed
    · exact atEnd
  cases phase with
  | fresh _ _ _ _ _ handle | available _ _ _ _ _ _ handle | taken _ _ _ _ _ _ _ _ handle =>
      simp_all [HandlePoint.Open]
  | abandoned waiting => rcases waiting with ⟨wake, _⟩ | ⟨_, wake, _⟩ <;> simp_all
  | settling _ _ _ _ _ _ _ _ handle => rw [dropped] at handle; cases handle
  | refused _ _ _ _ _ lost => simp [lost]
  | revoked _ _ _ _ _ _ settled =>
      rcases settled with ⟨delivered, _⟩ | ⟨_, lost⟩
      · rw [delivered] at undelivered
        cases undelivered
      · simp [lost]
  | late _ wake => rcases wake with wake | wake <;> rcases returned with atEnd | atEnd <;> simp_all

private theorem View.fate {cell : Reference.Cell W T P} {lost : List (TaskResult T P)}
    (view : View trace state cell lost) (phase : Phase trace state) :
    discarded trace = lost ∨ discarded trace = [] ∧ ¬ state.AtRest := by
  rcases phase.discards with none | ⟨value, called, one, undelivered, leaves, passed⟩
  · cases view with
    | waiting | holding | taken | deserted | kept => exact .inl none
    | lost _ leaves passed _ undelivered =>
        refine .inr ⟨none, fun rest => ?_⟩
        exact phase.discards_of_atRest leaves passed undelivered rest none
  · left
    cases view with
    | waiting stays | holding _ stays | taken stays => exact absurd leaves stays
    | deserted _ waits => rw [passed] at waits; cases waits
    | kept _ _ delivered => exact absurd undelivered delivered
    | lost same _ _ calledSame => rw [one, ← called, calledSame]

/-- The reference run of a joint agrees with it on everything callers can see. -/
structure Agrees (config : Config (State W T P) (Event W T P))
    (reference : Config (Reference.State W T P) (Reference.Event W T P)) : Prop where
  samePolls : Reference.polls reference.trace = (polls config.trace).map PollReturn.shown
  sameCompletion : config.state.wake.passed = true →
    Reference.completions reference.trace = calls config.trace
  sameFate : config.state.AtRest → Reference.discarded reference.trace = discarded config.trace
  discardsNoMore : discarded config.trace <+: Reference.discarded reference.trace
  sameWakeups : ¬ config.state.handle.Leaving →
    Reference.woken reference.trace = woken config.trace ++ config.state.wake.owing

variable {config : Config (State W T P) (Event W T P)}

/-- Whatever values the loads of the stage return, the joint runs as the
reference protocol, which has no stage. -/
theorem stage_is_only_a_hint
    (run : (machine visibility).Reaches untilReady (.initial (State.new id)) config) :
    ∃ reference, (Reference.machine id).Reaches .any (.initial Reference.State.new) reference ∧
      Agrees config reference := by
  have simulation : ∃ reference,
      (Reference.machine id).Reaches .any (.initial Reference.State.new) reference ∧
        Simulates config reference := by
    apply run.simulate Simulates (simulates_new id)
    intro before action next events reference reached simulates _allowed stepped
    have coherent := coherent_of_reaches reached
    exact simulates.step coherent.phase coherent.stages (undelivered_of_busy reached)
      (id_of_reaches reached) stepped
  obtain ⟨reference, reached, simulates⟩ := simulation
  have fate := simulates.view.fate (coherent_of_reaches run).phase
  refine ⟨reference, reached, ?_⟩
  refine
    { samePolls := simulates.polls
      sameCompletion := fun passed => ?_
      sameFate := fun rest => ?_
      discardsNoMore := ?_
      sameWakeups := simulates.wakeups }
  · rw [simulates.completions, if_pos passed]
  · rcases fate with same | ⟨_, moving⟩
    · exact same.symm
    · exact absurd rest moving
  · rcases fate with same | ⟨none, _⟩
    · exact same ▸ List.prefix_rfl
    · rw [none]
      exact List.nil_prefix

/-- The second poll reads a stage that was overwritten before it started. -/
def staleStage : List (Action Nat Nat Nat) :=
  [.pollLoad 1 0, .pollReplace, .wakeLoad (.ok 42) 0, .wakeReplace, .wakeStore, .wakeMatch,
    .wakeReturn, .pollLoad 2 0, .pollReplace, .pollSettle, .dropStore, .dropReplace]

theorem stage_is_only_a_hint_stale :
    ∃ config, (machine .anyStored).exec untilReady (.initial (State.new ⟨7⟩)) staleStage =
        some config ∧
      ∃ reference, (Reference.machine ⟨7⟩).Reaches .any (.initial Reference.State.new)
        reference ∧ Agrees config reference := by
  obtain ⟨config, executed⟩ :
      ∃ config, (machine .anyStored).exec untilReady (.initial (State.new ⟨7⟩)) staleStage =
        some config := ⟨_, rfl⟩
  have run : (machine .anyStored).Reaches untilReady (.initial (State.new ⟨7⟩)) config :=
    reaches_of_exec staleStage executed
  exact ⟨config, executed, stage_is_only_a_hint run⟩

end Joint

end Spawns
