/-
`Cancellation` under relaxed loads: whatever value of the slot a load finds, the
promises of `cancel` hold.

Every load of `Cancellation.waker` is relaxed, and so is what a `compare_exchange`
reads where it fails. Here each of them may find any value that the slot has ever
held. A `compare_exchange` that succeeds reads the latest value, and so does the
drop, which comes after the `Arc` has synchronised with all other owners. What a box
contains is taken to be visible to whoever gets the box out of the slot.
-/

import Spawns.Core.CancelReference
import Spawns.Core.TaskJoinStep
import Spawns.Core.TaskOutcome

namespace Spawns

open EventMachine BoxHeap

open Machine (reaches_of_exec)

/-! ### A reference whose check may overlook a cancellation -/

namespace TaskFuture.Reference

variable {W T P : Type}

inductive LaxAction (W T P : Type) where
  | act (action : Action W T P)
  | overlook

def overlook (state : State W T P) : Option (State W T P × List (Event W T P)) :=
  match state.point with
  | .checking waker => some ({ state with point := .polling waker }, [])
  | _ => none

def laxMachine : Machine (State W T P) (LaxAction W T P) (Event W T P) where
  step state
    | .act action => machine.step state action
    | .overlook => overlook state

end TaskFuture.Reference

namespace StaleLoads

open TaskFuture (Transition)

variable {W T P : Type}

/-! ### The machine -/

structure State (W T P : Type) where
  task : TaskFuture.State W T P
  /-- The values of the slot that have been overwritten. -/
  past : List Slot

/-- An access that may load a value of the past. -/
inductive Access where
  | check
  | updateLoad
  | updateExchange
  | cancelLoad (call : Nat)
  | cancelExchange (call : Nat)
  deriving DecidableEq, Repr

inductive Action (W T P : Type) where
  | act (action : TaskFuture.Action W T P)
  | stale (access : Access) (seen : Slot)

def Access.action : Access → TaskFuture.Action W T P
  | .check => .check
  | .updateLoad => .updateLoad
  | .updateExchange => .updateExchange
  | .cancelLoad call => .cancelLoad call
  | .cancelExchange call => .cancelExchange call

/-- What is seen makes no `compare_exchange` succeed. -/
def Access.stores (task : TaskFuture.State W T P) (seen : Slot) : Access → Bool
  | .updateExchange =>
      match task.point with
      | .exchanging _ _ current => seen.same current
      | _ => false
  | .cancelExchange call =>
      match task.cancels[call]? with
      | some (.exchanging current) => seen.same current
      | _ => false
  | _ => false

/-- The access goes by the slot it has seen, and leaves the real one alone. -/
def stale (task : TaskFuture.State W T P) (access : Access) (seen : Slot) :
    Option (TaskFuture.State W T P × List (TaskFuture.Event W T P)) :=
  if access.stores task seen then none
  else
    (TaskFuture.machine.step { task with slot := seen } access.action).map fun (next, events) =>
      ({ next with slot := task.slot }, events)

def overwritten (past : List Slot) (before after : Slot) : List Slot :=
  if after = before then past else before :: past

def machine : Machine (State W T P) (Action W T P) (TaskFuture.Event W T P) where
  step state
    | .act action => (TaskFuture.machine.step state.task action).map fun (next, events) =>
        (⟨next, overwritten state.past state.task.slot next.slot⟩, events)
    | .stale access seen =>
        if seen ∈ state.past then
          (stale state.task access seen).map fun (next, events) => (⟨next, state.past⟩, events)
        else none

def State.new : State W T P := ⟨.new, []⟩

/-! ### What a stale access does -/

inductive Misread (task : TaskFuture.State W T P) (seen : Slot) :
    TaskFuture.State W T P → List (TaskFuture.Event W T P) → Prop where
  | check (waker : W) (point : task.point = .checking waker) :
      Misread task seen { task with point := .polling waker } []
  | updateLoad (waker : W) (box : Pointer) (point : task.point = .loading waker box) :
      Misread task seen { task with point := .exchanging waker box seen } []
  | updateExchange (waker : W) (box : Pointer) (current : Slot)
      (point : task.point = .exchanging waker box current) :
      Misread task seen { task with point := .exchanging waker box seen } [.updateMissed]
  | cancelLoad (call : Nat) (found : task.cancels[call]? = some .loading) :
      Misread task seen { task with cancels := task.cancels.set call (.exchanging seen) } []
  | cancelExchange (call : Nat) (current : Slot)
      (found : task.cancels[call]? = some (.exchanging current)) :
      Misread task seen { task with cancels := task.cancels.set call (.exchanging seen) }
        [.cancelMissed call]

variable {task next : TaskFuture.State W T P} {seen : Slot} {access : Access}
  {trace events : List (TaskFuture.Event W T P)}

private theorem misread_of_stale (moved : stale task access seen = some (next, events))
    (uncancelled : seen ≠ .cancelled) : Misread task seen next events := by
  unfold stale at moved
  split at moved
  · cases moved
  rename_i unstored
  obtain ⟨⟨after, shown⟩, stepped, same⟩ := Option.map_eq_some_iff.mp moved
  cases same
  have transition := TaskFuture.transition_of_step stepped
  cases access with
  | check =>
      cases transition with
      | checkFinds _ _ cancelled => exact absurd cancelled uncancelled
      | checkPasses waker point => exact .check waker point
  | updateLoad =>
      cases transition with
      | updateFinds _ _ _ cancelled => exact absurd cancelled uncancelled
      | updateLoads waker box point => exact .updateLoad waker box point
  | updateExchange =>
      cases transition with
      | updateStores _ _ current point same =>
          have here : task.point = .exchanging _ _ current := point
          exact absurd (by simpa only [Access.stores, here] using same) unstored
      | updateRejected _ _ _ _ _ cancelled => exact absurd cancelled uncancelled
      | updateRetries waker box current point => exact .updateExchange waker box current point
  | cancelLoad call =>
      cases transition with
      | cancelFinds _ _ cancelled => exact absurd cancelled uncancelled
      | cancelLoads _ found => exact .cancelLoad call found
  | cancelExchange call =>
      cases transition with
      | cancelTakes _ box found same =>
          have here : task.cancels[call]? = some (.exchanging (.waker box)) := found
          exact absurd (by simpa only [Access.stores, here] using same) unstored
      | cancelClaims _ current found same =>
          have here : task.cancels[call]? = some (.exchanging current) := found
          exact absurd (by simpa only [Access.stores, here] using same) unstored
      | cancelLoses _ _ _ _ cancelled => exact absurd cancelled uncancelled
      | cancelRetries _ current found => exact .cancelExchange call current found

/-! ### The values of the past -/

/-- A value of the past is nothing that the slot could be mistaken for, and as long
as there is no cancellation its box is alive. -/
structure Past (past : List Slot) (task : TaskFuture.State W T P) : Prop where
  uncancelled : .cancelled ∉ past
  apart : ∀ box, .waker box ∈ past → ∀ found, task.slot = .waker found →
    found.address = box.address → found = box
  live : task.slot ≠ .cancelled → task.point ≠ .dropped → ∀ box, .waker box ∈ past →
    task.heap.Live box

private theorem mem_overwritten {past : List Slot} {before after value : Slot}
    (member : value ∈ overwritten past before after) :
    value ∈ past ∨ value = before ∧ after ≠ before := by
  unfold overwritten at member
  split at member
  · exact .inl member
  · rename_i changed
    rcases List.mem_cons.mp member with same | old
    · exact .inr ⟨same, changed⟩
    · exact .inl old

private theorem step_slot {action : TaskFuture.Action W T P}
    (transition : Transition task action next events) :
    next.slot = task.slot ∨ next.slot = .cancelled ∨
      ∃ waker box current, task.point = .exchanging waker box current ∧
        task.slot.same current = true ∧ next.slot = .waker box := by
  cases transition with
  | updateStores waker box current point same =>
      exact .inr (.inr ⟨waker, box, current, point, same, rfl⟩)
  | cancelTakes | cancelClaims => exact .inr (.inl rfl)
  | pollsFinished | pollStarts | checkFinds | checkPasses | innerStarts | innerPends | innerEnds
  | boxReused | boxDangles | boxMade | updateFinds | updateLoads | updateRejected | updateRetries
  | updateReturns | boxRejected | futureDrops | futurePanicsInPoll | futurePanicsInDrop
  | wakeCalled | pollEnds | dropEnds | dropFinishes | dropSkips | fieldsDropped | cancelStarts
  | cancelFinds | cancelLoads | cancelLoses | cancelRetries | cancelWakes | cancelDangles
  | cancelFrees | cancellationDrops => exact .inl rfl

/-- Until the transition to `CANCELLED` or the end of the task every box stays alive. -/
private theorem step_alive {action : TaskFuture.Action W T P} (owned : TaskFuture.Owned trace task)
    (guarded : TaskFuture.Guarded task) (transition : Transition task action next events)
    (uncancelled : next.slot ≠ .cancelled) (running : next.point ≠ .dropped) {box : Pointer}
    (alive : task.heap.Live box) : next.heap.Live box := by
  have uncancelledBefore : task.slot ≠ .cancelled := fun cancelled =>
    uncancelled (TaskFuture.step_cancelled guarded cancelled transition)
  cases transition with
  | boxReused waker reused point spare =>
      have owner : reused ∈ task.owners := by simp [TaskFuture.State.owners, spare]
      exact Heap.Live.put waker (owned.live reused owner) alive
  | boxMade waker address point spare unused => exact Heap.Live.put_fresh waker unused alive
  | updateReturns returned point =>
      have spare := guarded.taken (by rw [point]; trivial)
      rw [spare]
      exact alive
  | boxRejected gone point =>
      have cancelled := guarded.point
      rw [point] at cancelled
      exact absurd cancelled uncancelledBefore
  | cancelFrees call gone found =>
      exact absurd (guarded.calls _ (List.mem_of_getElem? found)) uncancelledBefore
  | fieldsDropped => exact absurd rfl running
  | cancellationDrops point => exact absurd point running
  | pollsFinished | pollStarts | checkFinds | checkPasses | innerStarts | innerPends | innerEnds
  | boxDangles | updateFinds | updateLoads | updateStores | updateRejected | updateRetries
  | futureDrops | futurePanicsInPoll | futurePanicsInDrop | wakeCalled | pollEnds | dropEnds
  | dropFinishes | dropSkips | cancelStarts | cancelFinds | cancelLoads | cancelTakes
  | cancelClaims | cancelLoses | cancelRetries | cancelWakes | cancelDangles => exact alive

private theorem step_past {past : List Slot} {action : TaskFuture.Action W T P}
    (facts : Past past task)
    (owned : TaskFuture.Owned trace task) (guarded : TaskFuture.Guarded task)
    (transition : Transition task action next events) :
    Past (overwritten past task.slot next.slot) next := by
  have living (uncancelled : task.slot ≠ .cancelled) (running : task.point ≠ .dropped)
      {box : Pointer} (member : .waker box ∈ overwritten past task.slot next.slot) :
      task.heap.Live box := by
    rcases mem_overwritten member with old | ⟨own, _⟩
    · exact facts.live uncancelled running box old
    · exact owned.live box
        (TaskFuture.State.slot_mem_owners (guarded.present_of_point running) own.symm)
  refine ⟨?_, ?_, ?_⟩
  · intro member
    rcases mem_overwritten member with old | ⟨own, changed⟩
    · exact facts.uncancelled old
    · exact changed
        ((TaskFuture.step_cancelled guarded own.symm transition).trans own)
  · intro box member found slot address
    rcases step_slot transition with same | cancelled | ⟨waker, stored, current, point, same, now⟩
    · rcases mem_overwritten member with old | ⟨_, changed⟩
      · exact facts.apart box old found (same.symm.trans slot) address
      · exact absurd same changed
    · rw [cancelled] at slot
      cases slot
    · rw [now] at slot
      cases slot
      have owner : found ∈ task.owners := by
        simp [TaskFuture.State.owners, point, TaskFuture.Point.held]
      exact (owned.live found owner).eq_of_address
        (living (guarded.uncancelled point same) (by simp [point]) member) address
  · intro uncancelled running box member
    have uncancelledBefore : task.slot ≠ .cancelled := fun cancelled =>
      uncancelled (TaskFuture.step_cancelled guarded cancelled transition)
    have runningBefore : task.point ≠ .dropped := fun dropped =>
      running (TaskFuture.step_dropped transition dropped)
    exact step_alive owned guarded transition uncancelled running
      (living uncancelledBefore runningBefore member)

/-! ### What a stale access keeps -/

private theorem Misread.silent {β : Type} (misread : Misread task seen next events)
    (keep : TaskFuture.Event W T P → Option β) (update : keep .updateMissed = none)
    (cancel : ∀ call, keep (.cancelMissed call) = none) : observe keep events = [] := by
  cases misread with
  | check | updateLoad | cancelLoad => rfl
  | updateExchange => rw [observe_cons, update, observe_nil]; rfl
  | cancelExchange call => rw [observe_cons, cancel call, observe_nil]; rfl

private theorem Misread.unseen {β : Type} (misread : Misread task seen next events)
    (trace : List (TaskFuture.Event W T P)) (keep : TaskFuture.Event W T P → Option β)
    (update : keep .updateMissed = none) (cancel : ∀ call, keep (.cancelMissed call) = none) :
    observe keep (trace ++ events) = observe keep trace := by
  rw [observe_append, misread.silent keep update cancel, List.append_nil]

private theorem Misread.quiet (misread : Misread task seen next events) : TaskFuture.Quiet events :=
  ⟨misread.silent _ rfl fun _ => rfl, misread.silent _ rfl fun _ => rfl,
    misread.silent _ rfl fun _ => rfl, misread.silent _ rfl fun _ => rfl⟩

private theorem Misread.slot (misread : Misread task seen next events) : next.slot = task.slot := by
  cases misread <;> rfl

private theorem Misread.heap (misread : Misread task seen next events) : next.heap = task.heap := by
  cases misread <;> rfl

private theorem Misread.future (misread : Misread task seen next events) :
    next.hasFuture = task.hasFuture := by
  cases misread <;> rfl

private theorem Misread.dropped (misread : Misread task seen next events) :
    next.point = .dropped ↔ task.point = .dropped := by
  cases misread with
  | check waker point | updateLoad waker box point | updateExchange waker box current point =>
      simp [point]
  | cancelLoad | cancelExchange => exact Iff.rfl

private theorem progress_of_misread (progress : TaskFuture.Progress trace task)
    (misread : Misread task seen next events) : TaskFuture.Progress (trace ++ events) next := by
  have quiet := misread.quiet
  cases misread with
  | check waker point | updateLoad waker box point | updateExchange waker box current point =>
      have future := progress.future_of_running (by rw [point]; trivial)
        (by rw [point]; exact not_false)
      exact progress.run (by rw [point]; trivial) future trivial rfl quiet.unhanded quiet.pending
        (by simp) quiet.undestroyed (by simp)
  | cancelLoad | cancelExchange => exact progress.frame quiet rfl rfl

private theorem guarded_of_misread (guarded : TaskFuture.Guarded task)
    (uncancelled : seen ≠ .cancelled)
    (misread : Misread task seen next events) : TaskFuture.Guarded next := by
  have running (here : task.point ≠ .dropped) {goal : Prop}
      (gone : task.cancellationDropped = true) : goal := by
    rw [guarded.present_of_point here] at gone
    cases gone
  have calls {call : Nat} : ∀ other ∈ task.cancels.set call (.exchanging seen),
      other.Seen task.slot := by
    intro other member
    rcases List.mem_or_eq_of_mem_set member with old | rfl
    · exact guarded.calls other old
    · exact uncancelled
  have calling {call : Nat} {old : TaskFuture.CancelPoint} (found : task.cancels[call]? = some old)
      (busy : old ≠ .returned) {goal : Prop} (gone : task.cancellationDropped = true) : goal := by
    rw [guarded.present found busy] at gone
    cases gone
  cases misread with
  | check waker point =>
      exact ⟨guarded.calls, trivial, False.elim, running (by simp [point])⟩
  | updateLoad waker box point | updateExchange waker box current point =>
      exact ⟨guarded.calls, uncancelled, fun _ => guarded.taken (by rw [point]; trivial),
        running (by simp [point])⟩
  | cancelLoad call found => exact ⟨calls, guarded.point, guarded.taken, calling found (by simp)⟩
  | cancelExchange call current found =>
      exact ⟨calls, guarded.point, guarded.taken, calling found (by simp)⟩

private theorem Misread.holds (misread : Misread task seen next events) (token : Nat) :
    BoxHeap.holds token next.owners = BoxHeap.holds token task.owners := by
  cases misread with
  | check waker point | updateLoad waker box point | updateExchange waker box current point =>
      simp [TaskFuture.State.owners, TaskFuture.State.slotHeld, point, TaskFuture.Point.held]
  | cancelLoad call found | cancelExchange call current found =>
      have places := holds_set TaskFuture.CancelPoint.held token (.exchanging seen) found
      simp [TaskFuture.State.owners, TaskFuture.State.slotHeld, TaskFuture.CancelPoint.held]
        at places ⊢
      omega

private theorem Misread.owner (misread : Misread task seen next events) {box : Pointer}
    (member : box ∈ next.owners) : box ∈ task.owners := by
  cases misread with
  | check waker point | updateLoad waker held point | updateExchange waker held current point =>
      simpa [TaskFuture.State.owners, TaskFuture.State.slotHeld, point, TaskFuture.Point.held]
        using member
  | cancelLoad call found | cancelExchange call current found =>
      rcases List.mem_append.mp member with elsewhere | calling
      · exact List.mem_append_left _ elsewhere
      · rcases mem_held_of_set TaskFuture.CancelPoint.held calling with old | new
        · exact List.mem_append_right _ old
        · cases new

private theorem Misread.compared (misread : Misread task seen next events) {box : Pointer}
    (member : box ∈ next.seen) : box ∈ task.seen ∨ .waker box = seen := by
  have loaded (inside : box ∈ seen.box?.toList) : .waker box = seen :=
    (TaskFuture.Slot.box?_eq.mp (Option.mem_toList.mp inside)).symm
  cases misread with
  | check => exact .inl (List.mem_append_right _ member)
  | updateLoad | updateExchange =>
      rcases List.mem_append.mp member with point | calls
      · exact .inr (loaded point)
      · exact .inl (List.mem_append_right _ calls)
  | cancelLoad | cancelExchange =>
      rcases List.mem_append.mp member with point | calls
      · exact .inl (List.mem_append_left _ point)
      · rcases mem_held_of_set TaskFuture.CancelPoint.seen calls with old | new
        · exact .inl (List.mem_append_right _ old)
        · exact .inr (loaded new)

private theorem owned_of_misread {past : List Slot} (owned : TaskFuture.Owned trace task)
    (facts : Past past task) (member : seen ∈ past) (misread : Misread task seen next events) :
    TaskFuture.Owned (trace ++ events) next := by
  have released : TaskFuture.released (trace ++ events) = TaskFuture.released trace :=
    misread.unseen _ _ rfl fun _ => rfl
  have allocated : TaskFuture.allocated (trace ++ events) = TaskFuture.allocated trace :=
    misread.unseen _ _ rfl fun _ => rfl
  have created : next.created = task.created := by cases misread <;> rfl
  have spare : next.waker = task.waker := by cases misread <;> rfl
  refine
    { ledger := ?_
      numbered := by rw [allocated, created]; exact owned.numbered
      live := fun box inside => misread.heap ▸ owned.live box (misread.owner inside)
      valid := (misread.unseen trace _ rfl fun _ => rfl).trans owned.valid
      seenSlot := ?_
      seenLive := ?_
      emptied := fun dropped => spare.trans (owned.emptied (misread.dropped.mp dropped)) }
  · intro token
    rw [misread.holds, released, allocated]
    exact owned.ledger token
  · intro box inside found slot address
    rw [misread.slot] at slot
    rcases misread.compared inside with old | rfl
    · exact owned.seenSlot box old found slot address
    · exact facts.apart box member found slot address
  · intro uncancelled running box inside
    rw [misread.slot] at uncancelled
    rw [Ne, misread.dropped] at running
    rw [misread.heap]
    rcases misread.compared inside with old | rfl
    · exact owned.seenLive uncancelled running box old
    · exact facts.live uncancelled running box member

private theorem bounded_of_misread (bounded : TaskFuture.Bounded task)
    (misread : Misread task seen next events) : TaskFuture.Bounded next := by
  cases misread with
  | check waker point =>
      refine ⟨bounded.atMostTwo, fun null => ?_, fun future _ => ?_, nofun⟩
      · have before := bounded.unstored null
        rw [point] at before
        exact before
      · exact bounded.spareless future (by rw [point]; trivial)
  | updateLoad waker box point | updateExchange waker box current point =>
      refine ⟨bounded.atMostTwo, fun null => ?_, fun _ => False.elim, nofun⟩
      have before := bounded.unstored null
      rw [point] at before
      exact before
  | cancelLoad | cancelExchange =>
      exact ⟨bounded.atMostTwo, bounded.unstored, bounded.spareless, bounded.returning⟩

private theorem contents_of_misread (contents : TaskFuture.Contents trace task)
    (misread : Misread task seen next events) : TaskFuture.Contents (trace ++ events) next := by
  have stores : TaskFuture.stores (trace ++ events) = TaskFuture.stores trace :=
    misread.unseen _ _ rfl fun _ => rfl
  have present : next.cancellationDropped = task.cancellationDropped := by cases misread <;> rfl
  refine ⟨fun waker box carries => ?_, ?_, ?_⟩
  · rw [misread.heap]
    apply contents.carried
    cases misread with
    | check => cases carries
    | updateLoad _ _ point | updateExchange _ _ _ point =>
        rw [point]
        exact carries
    | cancelLoad | cancelExchange => exact carries
  · intro box slot here
    rw [misread.heap, stores]
    exact contents.stored box (misread.slot.symm.trans slot) (present.symm.trans here)
  · intro null
    rw [stores]
    exact contents.unstored (misread.slot.symm.trans null)

private theorem passed_of_misread (passed : TaskFuture.Passed trace task)
    (misread : Misread task seen next events) : TaskFuture.Passed (trace ++ events) next := by
  intro waker running
  have starts : TaskFuture.pollStarts (trace ++ events) = TaskFuture.pollStarts trace :=
    misread.unseen _ _ rfl fun _ => rfl
  rw [starts]
  apply passed
  cases misread with
  | check _ point | updateLoad _ _ point | updateExchange _ _ _ point =>
      rw [point]
      exact running
  | cancelLoad | cancelExchange => exact running

private theorem cancelling_of_misread (cancelling : TaskFuture.Cancelling trace task)
    (misread : Misread task seen next events) :
    TaskFuture.Cancelling (trace ++ events) next := by
  have wakes : TaskFuture.wakes (trace ++ events) = TaskFuture.wakes trace :=
    misread.unseen _ _ rfl fun _ => rfl
  have same : TaskFuture.SameWaking task.cancels next.cancels := by
    cases misread with
    | check | updateLoad | updateExchange => exact fun _ _ => Iff.rfl
    | cancelLoad call found => exact TaskFuture.sameWaking_set found (by simp) (by simp)
    | cancelExchange call current found => exact TaskFuture.sameWaking_set found (by simp) (by simp)
  cases cancelling with
  | before uncancelled unclaimed unwoken =>
      refine .before (misread.slot ▸ uncancelled) ?_ (wakes.trans unwoken)
      exact (misread.unseen trace _ rfl fun _ => rfl).trans unclaimed
  | after call first second cancelled split once unstored alone woken =>
      refine .after call first (second ++ events) (misread.slot.trans cancelled) ?_ ⟨once.1, ?_⟩ ?_
        (fun other box found => alone other box ((same other box).mp found)) ?_
      · rw [split, List.append_assoc, List.cons_append]
      · exact (misread.unseen second _ rfl fun _ => rfl).trans once.2
      · exact (misread.unseen second _ rfl fun _ => rfl).trans unstored
      · rcases woken with ⟨box, found, content, unwoken⟩ | ⟨atEnd, woke⟩
        · exact .inl ⟨box, (same call box).mpr found, misread.heap ▸ content, wakes.trans unwoken⟩
        · exact .inr ⟨fun box found => atEnd box ((same call box).mp found), wakes.trans woke⟩

/-! ### The invariant of every run -/

structure Sound (config : Config (State W T P) (TaskFuture.Event W T P)) : Prop where
  facts : TaskFuture.SlotFacts config.trace config.state.task
  progress : TaskFuture.Progress config.trace config.state.task
  guarded : TaskFuture.Guarded config.state.task
  owned : TaskFuture.Owned config.trace config.state.task
  bounded : TaskFuture.Bounded config.state.task
  contents : TaskFuture.Contents config.trace config.state.task
  cancelling : TaskFuture.Cancelling config.trace config.state.task
  passed : TaskFuture.Passed config.trace config.state.task
  stored : AtEach TaskFuture.StoresPassed config.trace
  past : Past config.state.past config.state.task

variable {past : List Slot} {action : TaskFuture.Action W T P}

private theorem sound_new : Sound (.initial (State.new : State W T P)) := by
  have run : TaskFuture.machine.Reaches .any (.initial (.new : TaskFuture.State W T P))
      (.initial .new) := .refl
  exact
    { facts := TaskFuture.slotFacts_of_reaches run
      progress := TaskFuture.progress_of_reaches run
      guarded := TaskFuture.guarded_of_reaches run
      owned := TaskFuture.owned_of_reaches run
      bounded := TaskFuture.bounded_of_reaches run
      contents := TaskFuture.contents_of_reaches run
      cancelling := TaskFuture.cancelling_of_reaches run
      passed := (TaskFuture.storesPassed_of_reaches run).1
      stored := (TaskFuture.storesPassed_of_reaches run).2
      past := ⟨List.not_mem_nil, fun _ member => absurd member List.not_mem_nil,
        fun _ _ _ member => absurd member List.not_mem_nil⟩ }

private theorem Sound.act (sound : Sound ⟨trace, ⟨task, past⟩⟩)
    (transition : Transition task action next events) :
    Sound ⟨trace ++ events, ⟨next, overwritten past task.slot next.slot⟩⟩ where
  facts := TaskFuture.step_slotFacts sound.facts transition
  progress := TaskFuture.step_progress sound.progress sound.facts transition
  guarded := TaskFuture.step_guarded sound.guarded transition
  owned := TaskFuture.step_owned sound.owned sound.guarded transition
  bounded := TaskFuture.step_bounded sound.bounded sound.progress sound.guarded transition
  contents := TaskFuture.step_contents sound.contents sound.owned sound.guarded transition
  cancelling :=
    TaskFuture.step_cancelling sound.cancelling sound.contents sound.owned sound.guarded transition
  passed := TaskFuture.step_passed sound.passed transition
  stored := sound.stored.append (TaskFuture.step_storesPassed sound.passed transition)
  past := step_past sound.past sound.owned sound.guarded transition

private theorem Sound.misread (sound : Sound ⟨trace, ⟨task, past⟩⟩) (member : seen ∈ past)
    (misread : Misread task seen next events) : Sound ⟨trace ++ events, ⟨next, past⟩⟩ where
  facts := fun cancelled =>
    observe_append_ne_nil _ (sound.facts (misread.slot.symm.trans cancelled)) events
  progress := progress_of_misread sound.progress misread
  guarded := guarded_of_misread sound.guarded
    (fun cancelled => sound.past.uncancelled (cancelled ▸ member)) misread
  owned := owned_of_misread sound.owned sound.past member misread
  bounded := bounded_of_misread sound.bounded misread
  contents := contents_of_misread sound.contents misread
  cancelling := cancelling_of_misread sound.cancelling misread
  passed := passed_of_misread sound.passed misread
  stored := by
    refine sound.stored.append fun before event after split waker same => ?_
    have shown : waker ∈ TaskFuture.stores events :=
      (mem_observe _).mpr ⟨event, by simp [split], by rw [same]; rfl⟩
    have none : TaskFuture.stores events = [] := misread.silent _ rfl fun _ => rfl
    rw [none] at shown
    cases shown
  past :=
    { uncancelled := sound.past.uncancelled
      apart := fun box old found slot =>
        sound.past.apart box old found (misread.slot.symm.trans slot)
      live := fun uncancelled running box old => misread.heap ▸ sound.past.live
        (fun cancelled => uncancelled (misread.slot.trans cancelled))
        (fun dropped => running (misread.dropped.mpr dropped)) box old }

private theorem step_cases {state after : State W T P} {action : Action W T P}
    (stepped : machine.step state action = some (after, events))
    (uncancelled : .cancelled ∉ state.past) :
    (∃ own, Transition state.task own after.task events ∧
      after.past = overwritten state.past state.task.slot after.task.slot) ∨
    ∃ seen, seen ∈ state.past ∧ Misread state.task seen after.task events ∧
      after.past = state.past := by
  cases action with
  | act own =>
      obtain ⟨⟨next, shown⟩, moves, same⟩ := Option.map_eq_some_iff.mp stepped
      cases same
      exact .inl ⟨own, TaskFuture.transition_of_step moves, rfl⟩
  | stale access seen =>
      change (if seen ∈ state.past then _ else none) = _ at stepped
      split at stepped
      · rename_i member
        obtain ⟨⟨next, shown⟩, moved, same⟩ := Option.map_eq_some_iff.mp stepped
        cases same
        exact .inr ⟨seen, member,
          misread_of_stale moved fun cancelled => uncancelled (cancelled ▸ member), rfl⟩
      · cases stepped

variable {guard : Guard (State W T P) (Action W T P) (TaskFuture.Event W T P)}
  {config later : Config (State W T P) (TaskFuture.Event W T P)}

private theorem Sound.step {before : Config (State W T P) (TaskFuture.Event W T P)}
    {after : State W T P} {action : Action W T P} (sound : Sound before)
    (stepped : machine.step before.state action = some (after, events)) :
    Sound ⟨before.trace ++ events, after⟩ := by
  rcases step_cases stepped sound.past.uncancelled with ⟨own, transition, past⟩ |
    ⟨seen, member, misread, past⟩
  · have moved := sound.act transition
    rw [← past] at moved
    exact moved
  · have moved := sound.misread member misread
    rw [← past] at moved
    exact moved

theorem sound_of_reaches (run : machine.Reaches guard (.initial .new) config) : Sound config :=
  run.invariant Sound sound_new fun _ _ _ _ _reached sound _allowed stepped => sound.step stepped

/-! ### After the cancellation -/

def pollsLeft (task : TaskFuture.State W T P) : Nat :=
  if task.hasFuture then
    match task.point with
    | .idle => 1
    | .checking _ => 1
    | .polling _ => 1
    -- The waker has been stored before the cancellation: the poll returns `Pending`.
    | .storing _ => 1
    | _ => 0
  else 0

private theorem step_pollsLeft (sound : Sound ⟨trace, ⟨task, past⟩⟩)
    (cancelled : task.slot = .cancelled)
    (transition : Transition task action next events) :
    (TaskFuture.innerStarts events).length + pollsLeft next ≤ pollsLeft task := by
  have freed (box : Option Pointer) :
      TaskFuture.innerStarts (TaskFuture.freeEvents task.heap box :
        List (TaskFuture.Event W T P)) = [] :=
    TaskFuture.observe_freeEvents (fun _ => rfl) (fun _ => rfl) _ _
  have progress : TaskFuture.Progress trace task := sound.progress
  cases transition with
  | updateStores waker box current point same =>
      exact absurd cancelled (sound.guarded.uncancelled point same)
  | innerStarts waker point =>
      have future := progress.future_of_running (by rw [point]; trivial)
        (by rw [point]; exact not_false)
      simp [pollsLeft, point, future]
  | pollEnds point =>
      have gone := progress.gone_of_over (by rw [point]; trivial) (by simp [point])
      simp [pollsLeft, gone]
  | updateReturns returned point => simp [freed, pollsLeft, point]
  | boxRejected | fieldsDropped => simp [freed, pollsLeft]
  | cancelFrees | cancellationDrops => simp [freed, pollsLeft]
  | pollStarts _ point | checkPasses _ point => simp [pollsLeft, point]
  | checkFinds | innerPends | innerEnds | boxReused | boxMade | updateFinds | updateLoads
  | updateRejected | updateRetries | futureDrops | futurePanicsInPoll | futurePanicsInDrop
  | wakeCalled | dropEnds | dropFinishes | dropSkips => simp [pollsLeft]
  | pollsFinished | boxDangles | cancelStarts | cancelFinds | cancelLoads | cancelTakes
  | cancelClaims | cancelLoses | cancelRetries | cancelWakes | cancelDangles => simp [pollsLeft]

private theorem misread_pollsLeft (misread : Misread task seen next events) :
    pollsLeft next ≤ pollsLeft task := by
  cases misread with
  | check waker point => simp [pollsLeft, point]
  | updateLoad | updateExchange => simp [pollsLeft]
  | cancelLoad | cancelExchange => exact Nat.le_refl _

structure Used (task : TaskFuture.State W T P) (since : List (TaskFuture.Event W T P))
    (later : TaskFuture.State W T P) : Prop where
  cancelled : later.slot = .cancelled
  unstored : TaskFuture.stores since = []
  inner : (TaskFuture.innerStarts since).length + pollsLeft later ≤ pollsLeft task
  pending : (TaskFuture.pendingReturns since).length + later.point.pendingOwed ≤
    task.point.pendingOwed
  ends : task.point.pendingOwed = 0 → TaskFuture.pollAnswers since = [] ∨ later.hasFuture = false

private theorem Used.act {start : TaskFuture.State W T P} {since : List (TaskFuture.Event W T P)}
    (used : Used start since task) (sound : Sound ⟨trace, ⟨task, past⟩⟩)
    (transition : Transition task action next events) : Used start (since ++ events) next := by
  have guarded : TaskFuture.Guarded task := sound.guarded
  have inner := step_pollsLeft sound used.cancelled transition
  have pending := TaskFuture.step_pendingOwed guarded used.cancelled transition
  have innerBefore := used.inner
  have pendingBefore := used.pending
  have innerSum : TaskFuture.innerStarts (since ++ events) =
      TaskFuture.innerStarts since ++ TaskFuture.innerStarts events := observe_append _ _ _
  have pendingSum : TaskFuture.pendingReturns (since ++ events) =
      TaskFuture.pendingReturns since ++ TaskFuture.pendingReturns events := observe_append _ _ _
  refine
    { cancelled := TaskFuture.step_cancelled guarded used.cancelled transition
      unstored := ?_
      inner := ?_
      pending := ?_
      ends := ?_ }
  · simp only [observe_append, used.unstored,
      TaskFuture.step_unstored guarded used.cancelled transition, List.append_nil]
  · rw [innerSum, List.length_append]
    omega
  · rw [pendingSum, List.length_append]
    omega
  · intro unstored
    rcases used.ends unstored with quiet | gone
    · have still : task.point.pendingOwed = 0 := by omega
      rcases TaskFuture.step_ends sound.progress transition still with silent | ended
      · left
        simp only [observe_append, quiet, silent, List.append_nil]
      · exact .inr ended
    · exact .inr (TaskFuture.step_gone gone transition)

private theorem Used.misread {start : TaskFuture.State W T P}
    {since : List (TaskFuture.Event W T P)}
    (used : Used start since task) (misread : Misread task seen next events) :
    Used start (since ++ events) next := by
  have starts : TaskFuture.innerStarts (since ++ events) = TaskFuture.innerStarts since :=
    misread.unseen _ _ rfl fun _ => rfl
  have pends : TaskFuture.pendingReturns (since ++ events) = TaskFuture.pendingReturns since :=
    misread.unseen _ _ rfl fun _ => rfl
  have answers : TaskFuture.pollAnswers (since ++ events) = TaskFuture.pollAnswers since :=
    misread.unseen _ _ rfl fun _ => rfl
  have owed : next.point.pendingOwed = task.point.pendingOwed := by
    cases misread with
    | check _ point | updateLoad _ _ point | updateExchange _ _ _ point => rw [point]; rfl
    | cancelLoad | cancelExchange => rfl
  refine
    { cancelled := misread.slot.trans used.cancelled
      unstored := (misread.unseen since _ rfl fun _ => rfl).trans used.unstored
      inner := ?_
      pending := ?_
      ends := ?_ }
  · rw [starts]
    exact Nat.le_trans (Nat.add_le_add_left (misread_pollsLeft misread) _) used.inner
  · rw [pends, owed]
    exact used.pending
  · intro unstored
    rw [answers, misread.future]
    exact used.ends unstored

private theorem Used.afterTransition {since : List (TaskFuture.Event W T P)}
    {final : TaskFuture.State W T P} (used : Used task since final) :
    TaskFuture.AfterTransition task since final := by
  have inner := used.inner
  have pending := used.pending
  have innerBound : pollsLeft task ≤ 1 := by
    unfold pollsLeft
    split
    · split <;> decide
    · exact Nat.zero_le 1
  have pendingBound : task.point.pendingOwed ≤ 1 := by
    cases task.point <;> simp [TaskFuture.Point.pendingOwed]
  refine ⟨used.cancelled, used.unstored, by omega, by omega, ?_⟩
  intro unstored
  have none : task.point.pendingOwed = 0 := by
    cases point : task.point with
    | storing returned => exact absurd point (unstored returned)
    | idle | checking | polling | inner | boxing | loading | exchanging | rejecting | finishing
    | handing | notifying | dropping | dropped => rfl
  exact ⟨List.length_eq_zero_iff.mp (by omega), used.ends none⟩

theorem used_of_reaches (run : machine.Reaches guard (.initial .new) config)
    (cancelled : config.state.task.slot = .cancelled)
    (further : machine.Reaches guard config later) :
    ∃ since, later.trace = config.trace ++ since ∧
      Used config.state.task since later.state.task := by
  refine further.invariant (fun later => ∃ since, later.trace = config.trace ++ since ∧
    Used config.state.task since later.state.task) ?_ ?_
  · exact ⟨[], (List.append_nil _).symm, cancelled, rfl, by simp, by simp, fun _ => .inl rfl⟩
  · intro before action after events reached grown _allowed stepped
    obtain ⟨since, grows, used⟩ := grown
    have sound := sound_of_reaches (run.trans reached)
    refine ⟨since ++ events, by rw [grows, List.append_assoc], ?_⟩
    rcases step_cases stepped sound.past.uncancelled with ⟨own, transition, _⟩ |
      ⟨seen, _, misread, _⟩
    · exact used.act sound transition
    · exact used.misread misread

/-! ### Every step is a step of the lax reference, or none -/

private theorem misread_view (trace : List (TaskFuture.Event W T P))
    (misread : Misread task seen next events) :
    next.view (TaskFuture.lastStored (trace ++ events)) =
        task.view (TaskFuture.lastStored trace) ∨
      TaskFuture.Reference.laxMachine.step (task.view (TaskFuture.lastStored trace)) .overlook =
        some (next.view (TaskFuture.lastStored (trace ++ events)), []) := by
  have still : TaskFuture.lastStored (trace ++ events) = TaskFuture.lastStored trace :=
    TaskFuture.lastStored_append (misread.silent _ rfl fun _ => rfl)
  rw [still]
  cases misread with
  | check waker point =>
      right
      simp [TaskFuture.Reference.laxMachine, TaskFuture.Reference.overlook, point]
  | updateLoad waker box point | updateExchange waker box current point =>
      left
      simp [point]
  | cancelLoad call found | cancelExchange call current found =>
      exact .inl (TaskFuture.State.view_still found rfl)

theorem lax_of_reaches (run : machine.Reaches guard (.initial .new) config) :
    TaskFuture.Reference.laxMachine.Reaches .any (.initial .new)
      ⟨TaskFuture.visible config.trace,
        config.state.task.view (TaskFuture.lastStored config.trace)⟩ := by
  refine run.invariant (fun reached => TaskFuture.Reference.laxMachine.Reaches .any (.initial .new)
    ⟨TaskFuture.visible reached.trace,
      reached.state.task.view (TaskFuture.lastStored reached.trace)⟩) .refl ?_
  intro before action after events reached simulated _allowed stepped
  have sound := sound_of_reaches reached
  have shown : TaskFuture.visible (before.trace ++ events) =
      TaskFuture.visible before.trace ++ TaskFuture.visible events := observe_append _ _ _
  rw [shown]
  rcases step_cases stepped sound.past.uncancelled with ⟨own, transition, _⟩ |
    ⟨seen, _, misread, _⟩
  · rcases TaskFuture.step_answered sound.contents sound.owned sound.guarded sound.cancelling
      transition with ⟨hidden, same⟩ | ⟨act, moves⟩
    · rw [hidden, same, List.append_nil]
      exact simulated
    · have lax : TaskFuture.Reference.laxMachine.step _ (.act act) = _ := moves
      exact simulated.tail (.mk trivial lax)
  · have hidden : TaskFuture.visible events = [] := misread.silent _ rfl fun _ => rfl
    rw [hidden]
    rcases misread_view before.trace misread with same | overlooks
    · rw [same, List.append_nil]
      exact simulated
    · exact simulated.tail (.mk trivial overlooks)

/-! ### Relaxed loads -/

structure Promised (guard : Guard (State W T P) (Action W T P) (TaskFuture.Event W T P))
    (config : Config (State W T P) (TaskFuture.Event W T P)) : Prop where
  once : TaskFuture.CancelledOnce ⟨config.trace, config.state.task⟩
  after : config.state.task.slot = .cancelled → ∀ later, machine.Reaches guard config later →
    ∃ since, later.trace = config.trace ++ since ∧
      TaskFuture.AfterTransition config.state.task since later.state.task
  outcome : ∀ value ∈ TaskFuture.handed config.trace,
    TaskFuture.handed config.trace = [value] ∧ TaskFuture.Due config.trace value
  boxes : TaskFuture.BoxesKept config.trace config.state.task
  atMostTwo : (TaskFuture.allocated config.trace).length ≤ 2
  lax : TaskFuture.Reference.laxMachine.Reaches .any (.initial .new)
    ⟨TaskFuture.visible config.trace, config.state.task.view (TaskFuture.lastStored config.trace)⟩

/-- Whatever values the loads find, the task does what the reference does, but for a
check that overlooks a cancellation: then the inner future is polled once more. -/
theorem stale_loads_break_no_promise (run : machine.Reaches guard (.initial .new) config) :
    Promised guard config := by
  have sound := sound_of_reaches run
  refine
    { once := sound.cancelling.cancelledOnce sound.owned sound.guarded sound.stored
      after := ?_
      outcome := ?_
      boxes := sound.owned.boxesKept sound.guarded
      atMostTwo := ?_
      lax := lax_of_reaches run }
  · intro cancelled later further
    obtain ⟨since, grows, used⟩ := used_of_reaches run cancelled further
    exact ⟨since, grows, used.afterTransition⟩
  · intro value member
    obtain ⟨_, only, before, after, single, split, _, _, ended, due⟩ :=
      sound.progress.handed_value (List.ne_nil_of_mem member)
    rw [single, List.mem_singleton] at member
    refine ⟨by rw [single, member], ?_⟩
    rw [split, member]
    exact due.append (by simpa using ended)
  · rw [sound.owned.numbered, List.length_range]
    exact sound.bounded.atMostTwo

/-- Each load finds a value that has been overwritten: the first one of a cancel, and
all those of a poll that starts after it. -/
def loadsThePast : List (Action Nat Nat Nat) :=
  [.act (.poll 1), .act .check, .act .pollInner, .act (.innerReturn .pending), .act (.newBox 8),
    .act .updateLoad, .act .updateExchange, .act .updateReturn,
    .act .cancel, .stale (.cancelLoad 0) .null, .act (.cancelExchange 0),
    .act (.cancelExchange 0), .act (.cancelWake 0), .act (.cancelFree 0),
    .act (.poll 2), .stale .check (.waker ⟨8, 0⟩), .act .pollInner, .act (.innerReturn .pending),
    .act (.newBox 8), .stale .updateLoad .null, .stale .updateExchange (.waker ⟨8, 0⟩),
    .act .updateExchange, .act .rejectBox, .act (.dropFuture false), .act .callWake,
    .act .returnWake]

theorem stale_loads_break_no_promise_overlooking :
    ∃ config, machine.exec .any (.initial .new) loadsThePast = some config ∧
      TaskFuture.visible config.trace =
        [.pollStarted 1, .innerStarted, .innerReturned .pending, .stored 1,
          .pollReturned .pending, .cancelled 0, .woke 0 1, .pollStarted 2, .innerStarted,
          .innerReturned .pending, .futureDropped false, .handed (.error .cancelled),
          .pollReturned .ready] ∧
      Promised .any config := by
  have ran : (machine.exec .any (.initial .new) loadsThePast).map
      (fun config => TaskFuture.visible config.trace) =
        some [.pollStarted 1, .innerStarted, .innerReturned .pending, .stored 1,
          .pollReturned .pending, .cancelled 0, .woke 0 1, .pollStarted 2, .innerStarted,
          .innerReturned .pending, .futureDropped false, .handed (.error .cancelled),
          .pollReturned .ready] := by rfl
  obtain ⟨config, executed, shown⟩ := Option.map_eq_some_iff.mp ran
  exact ⟨config, executed, shown,
    stale_loads_break_no_promise (reaches_of_exec loadsThePast executed)⟩

end StaleLoads

end Spawns
