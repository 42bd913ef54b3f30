/-
Whoever waits for a thing that has happened has been woken since.

A task that is cancelled while it waits was woken after its last poll began. A
joiner whose last poll returned `Pending` was woken after that poll returned, if
the task has finished. Both order the wake-up behind what the sleeper did last.
-/

import Spawns.Core.JointWakeup
import Spawns.Core.TaskCancel

namespace Spawns

open EventMachine BoxHeap

variable {W T P : Type}

namespace TaskFuture

variable {trace events : List (Event W T P)} {state next : State W T P}

def WokenSince (trace : List (Event W T P)) (waker : W) : Prop :=
  ∃ before call after, trace = before ++ .woke call waker :: after ∧ pollStarts after = []

private theorem WokenSince.append {waker : W} (woken : WokenSince trace waker)
    (silent : pollStarts events = []) : WokenSince (trace ++ events) waker := by
  obtain ⟨before, call, after, rfl, none⟩ := woken
  refine ⟨before, call, after ++ events, by simp, ?_⟩
  simp only [observe_append, none, silent, List.append_nil]

/-- The task is left to the executor, or will be when the running poll returns. -/
def State.Waiting (state : State W T P) : Prop :=
  (∃ returned, state.point = .storing returned) ∨
    (state.point = .idle ∧ state.hasFuture = true)

/-- A task that was polled and waits has stored the waker of its last poll, and a
cancellation that has been made known has woken it since. -/
def Registered (trace : List (Event W T P)) (state : State W T P) : Prop :=
  state.Waiting → pollStarts trace ≠ [] → ∃ waker, (stores trace).getLast? = some waker ∧
    (pollStarts trace).getLast? = some waker ∧
    (state.slot = .cancelled →
      (∀ (call : Nat) (box : Pointer), state.cancels[call]? ≠ some (.waking box)) →
      WokenSince trace waker)

private theorem Registered.frame (registered : Registered trace state) (idle : Idle events)
    (silent : pollStarts events = []) (waiting : next.Waiting → state.Waiting)
    (sameSlot : next.slot = state.slot) (same : SameWaking state.cancels next.cancels) :
    Registered (trace ++ events) next := by
  have sameStarts : pollStarts (trace ++ events) = pollStarts trace := by
    simp only [observe_append, silent, List.append_nil]
  have sameStores : stores (trace ++ events) = stores trace := by
    simp only [observe_append, idle.unstored, List.append_nil]
  intro waits polled
  rw [sameStarts] at polled ⊢
  rw [sameStores]
  obtain ⟨waker, stored, started, woken⟩ := registered (waiting waits) polled
  refine ⟨waker, stored, started, fun cancelled settled => ?_⟩
  apply WokenSince.append (woken (sameSlot ▸ cancelled) _) silent
  intro call box found
  exact settled call box ((same call box).mpr found)

private theorem Registered.busy (busy : ¬ next.Waiting) : Registered (trace ++ events) next :=
  fun waits => absurd waits busy

private theorem not_waiting_of_point {point : Point W T P} (here : state.point = point)
    (busy : point ≠ .idle) (unstored : ∀ returned, point ≠ .storing returned) :
    ¬ state.Waiting := by
  rintro (⟨returned, storing⟩ | ⟨idle, _⟩)
  · exact unstored returned (here.symm.trans storing)
  · exact busy (here.symm.trans idle)

private theorem not_waiting_of_gone {point : Point W T P} (here : state.point = point)
    (unstored : ∀ returned, point ≠ .storing returned) (gone : state.hasFuture = false) :
    ¬ state.Waiting := by
  rintro (⟨returned, storing⟩ | ⟨_, unfinished⟩)
  · exact unstored returned (here.symm.trans storing)
  · rw [gone] at unfinished
    cases unfinished

private theorem step_registered {action : Action W T P} (registered : Registered trace state)
    (passed : Passed trace state) (cancelling : Cancelling trace state)
    (contents : Contents trace state) (owned : Owned trace state) (guarded : Guarded state)
    (progress : Progress trace state) (transition : Transition state action next events) :
    Registered (trace ++ events) next := by
  have freed (box : Option Pointer) :
      pollStarts (freeEvents state.heap box : List (Event W T P)) = [] :=
    observe_freeEvents (fun _ => rfl) (fun _ => rfl) _ _
  cases transition with
  | updateStores waker box current point same =>
      intro _waits _polled
      have started := passed waker (by rw [point]; rfl)
      refine ⟨waker, by simp, by simpa using started, fun cancelled => by cases cancelled⟩
  | updateReturns returned point =>
      refine registered.frame (idle_updateReturn _ _) ?_ (fun _ => .inl ⟨returned, point⟩) rfl
        fun _ _ => Iff.rfl
      simp [freed]
  | cancelTakes call box found =>
      intro waits polled
      simp only [observe_append, observe_cons, observe_nil, Event.pollStart?, Event.stored?,
        Option.toList_none, List.append_nil] at polled ⊢
      obtain ⟨waker, stored, started, _⟩ := registered waits polled
      refine ⟨waker, stored, started, fun _ settled => absurd ?_ (settled call box)⟩
      have inside := (List.getElem?_eq_some_iff.mp found).1
      simp [inside]
  | cancelClaims call current found same empty =>
      -- Nothing is stored in a slot that is still null, so nothing waits there.
      intro waits polled
      exfalso
      have null := owned.null_of_exchanged guarded found same empty
      simp only [observe_append, observe_cons, observe_nil, Event.pollStart?,
        Option.toList_none, List.append_nil] at polled
      obtain ⟨waker, stored, _⟩ := registered waits polled
      rw [contents.unstored null] at stored
      cases stored
  | cancelWakes call box waker found content =>
      intro waits polled
      simp only [observe_append, observe_cons, observe_nil, Event.pollStart?, Event.stored?,
        Option.toList_none, List.append_nil] at polled ⊢
      obtain ⟨last, stored, started, _⟩ := registered waits polled
      have same : waker = last := by
        have read := cancelling.read_waking guarded found
        rw [content, stored, Option.some.injEq] at read
        exact read
      exact ⟨last, stored, started, fun _ _ => ⟨trace, call, [], by rw [same], rfl⟩⟩
  | cancelStarts => exact registered.frame ⟨rfl, rfl, rfl⟩ rfl id rfl (sameWaking_append _)
  | cancelFinds call found | cancelLoads call found | cancelLoses call _ found
  | cancelRetries call _ found =>
      exact registered.frame ⟨rfl, rfl, rfl⟩ rfl id rfl (sameWaking_set found (by simp) (by simp))
  | cancelFrees call box found =>
      exact registered.frame (idle_freeEvents _ _) (freed _) id rfl
        (sameWaking_set found (by simp) (by simp))
  | boxDangles | cancelDangles =>
      exact registered.frame ⟨rfl, rfl, rfl⟩ rfl id rfl fun _ _ => Iff.rfl
  | pollsFinished _ point gone => exact .busy (not_waiting_of_gone point nofun gone)
  | futurePanicsInPoll => exact .busy (not_waiting_of_gone rfl nofun rfl)
  | pollEnds point =>
      have gone := progress.gone_of_over (by rw [point]; trivial) (by simp [point])
      exact .busy (not_waiting_of_gone rfl nofun gone)
  | cancellationDrops point => exact .busy (not_waiting_of_point point nofun nofun)
  | pollStarts | checkFinds | checkPasses | innerStarts | innerPends | innerEnds | boxReused
  | boxMade | updateFinds | updateLoads | updateRejected | updateRetries | boxRejected
  | futureDrops | futurePanicsInDrop | wakeCalled | dropEnds | dropFinishes | dropSkips
  | fieldsDropped => exact .busy (not_waiting_of_point rfl nofun nofun)

variable {guard : Guard (State W T P) (Action W T P) (Event W T P)}
  {config : Config (State W T P) (Event W T P)}

theorem registered_of_reaches (run : machine.Reaches guard (.initial State.new) config) :
    Registered config.trace config.state := by
  apply run.invariant (fun config => Registered config.trace config.state)
  · intro _waits polled
    exact absurd rfl polled
  · intro before action next events reached registered _allowed stepped
    exact step_registered registered (storesPassed_of_reaches reached).1
      (cancelling_of_reaches reached) (contents_of_reaches reached) (owned_of_reaches reached)
      (guarded_of_reaches reached) (progress_of_reaches reached) (transition_of_step stepped)

/-- A cancelled task that waits was woken with the waker of its last poll. -/
theorem wokenSince_of_cancelled (run : machine.Reaches guard (.initial State.new) config)
    (idle : config.state.point = .idle) (unfinished : config.state.hasFuture = true)
    (cancelled : config.state.slot = .cancelled)
    (settled : ∀ (call : Nat) (box : Pointer), config.state.cancels[call]? ≠ some (.waking box))
    {waker : W} (last : (pollStarts config.trace).getLast? = some waker) :
    WokenSince config.trace waker := by
  have polled : pollStarts config.trace ≠ [] := by
    intro none
    rw [none] at last
    cases last
  obtain ⟨registered, _, started, woken⟩ :=
    registered_of_reaches run (.inr ⟨idle, unfinished⟩) polled
  rw [last, Option.some.injEq] at started
  rw [started]
  exact woken cancelled settled

end TaskFuture

namespace Joint

variable {visibility : Visibility} {trace events : List (Event W T P)} {state next : State W T P}
  {guard : Guard (State W T P) (Action W T P) (Event W T P)} {id : RawId}
  {config : Config (State W T P) (Event W T P)}

def PendsUnwoken (before : List (Event W T P)) (event : Event W T P) : Prop :=
  ∀ poll, event = .pollReturned poll → poll.outcome = .pending → deliveries before = [] →
    woken before = []

private theorem step_pendsUnwoken {action : Action W T P} (coherent : Coherent ⟨trace, state⟩)
    (ordered : WokenAfterPublication trace)
    (stepped : (machine visibility).step state action = some (next, events))
    (before : List (Event W T P)) (event : Event W T P) (after : List (Event W T P))
    (split : events = before ++ event :: after) : PendsUnwoken (trace ++ before) event := by
  rintro poll rfl pending undelivered
  have member : poll ∈ polls events :=
    (mem_observe _).mpr ⟨.pollReturned poll, by simp [split], rfl⟩
  have nothing : deliveries trace = [] := by
    rw [deliveries, observe_append, List.append_eq_nil_iff] at undelivered
    exact undelivered.1
  rcases step_polls coherent.stages stepped with ⟨quiet, _⟩ | ⟨returned, answered, answers, _⟩
  · rw [quiet] at member
    cases member
  · have silent : woken events = [] := by
      by_contra called
      obtain ⟨_, alone, _⟩ := step_woken coherent.phase stepped called
      rw [alone] at member
      simp at member
    rw [answered, List.mem_singleton] at member
    subst member
    rcases coherent.phase.answer nothing answers with ⟨unpublished, _⟩ | ⟨_, _, _, ready⟩
    · have quiet : woken trace = [] := by
        by_contra called
        obtain ⟨waker, inside⟩ := List.exists_mem_of_ne_nil _ called
        obtain ⟨event, found, shown⟩ := (mem_observe _).mp inside
        obtain ⟨first, second, rfl⟩ := List.append_of_mem found
        cases event with
        | woken other =>
            have publishes := observe_append_ne_nil _ (ordered first other second rfl)
              (.woken other :: second)
            exact publishes unpublished
        | wakeCalled | published | pollReturned | detachBegan | discarded => cases shown
      rw [split, woken, observe_append, List.append_eq_nil_iff] at silent
      rw [woken, observe_append, ← woken, quiet]
      exact silent.1
    · rw [ready] at pending
      cases pending

theorem pendsUnwoken_of_reaches
    (run : (machine visibility).Reaches guard (.initial (State.new id)) config) :
    AtEach PendsUnwoken config.trace := by
  apply run.invariant (fun config => AtEach PendsUnwoken config.trace) atEach_nil
  intro before action next events reached old _allowed stepped
  exact old.append (step_pendsUnwoken (coherent_of_reaches reached)
    (wokenAfterPublication_of_reaches reached) stepped)

/-- A joiner that waits for a task which has finished was woken after its last poll. -/
theorem woken_after_last_poll {waker : W} {loaded : Nat} {before after : List (Event W T P)}
    (run : (machine visibility).Reaches guard (.initial (State.new id)) config)
    (idle : config.state.handle = .idle)
    (split : config.trace = before ++ .pollReturned ⟨waker, loaded, .pending⟩ :: after)
    (last : polls after = []) (undelivered : deliveries config.trace = [])
    (woke : config.state.wake = .notifying ∨ config.state.wake = .returned) :
    waker ∈ woken after := by
  have lastPoll : (polls config.trace).getLast? = some ⟨waker, loaded, .pending⟩ := by
    rw [split, polls, observe_append, observe_cons, ← polls, ← polls, last]
    simp
  have quiet : woken before = [] := by
    apply pendsUnwoken_of_reaches run before _ after split _ rfl rfl
    rw [split, deliveries, observe_append, List.append_eq_nil_iff] at undelivered
    exact undelivered.1
  rcases (coherent_of_reaches run).phase.owed idle lastPoll woke with
    ⟨delivered, _⟩ | ⟨_, _, _, _, _, owed⟩
  · exact absurd undelivered delivered
  · have sum : woken config.trace = woken before ++ woken after := by
      rw [split, woken, observe_append, observe_cons]
      rfl
    rw [sum, quiet, List.nil_append] at owed
    rw [owed]
    exact List.mem_singleton_self _

end Joint

end Spawns
