/-
The tasks of an executor, each with its joint and its handle, side by side.

A waker names who is polled again when it is woken: a task, or a thread that
blocks on a future. The executor polls a task with the waker of that task and
keeps one flag for each, which the creation of the task and every wake-up set
and every poll clears. Which of the flagged tasks it polls, when, and on how many
threads is free, and so is what anyone else does with the handles.
-/

import Spawns.Core.JoinError
import Spawns.Core.TaskJoinStep
import Spawns.Core.WokenSince
import Spawns.Foundation.Family

namespace Spawns

open EventMachine

open Machine (reaches_of_exec)

/-- Who is polled again by a waker. -/
inductive Party where
  | task (index : Nat)
  | thread (index : Nat)
  deriving DecidableEq, Repr

namespace Tasks

abbrev State (T P : Type) := List (TaskJoin.State Party Party T P)

abbrev Action (T P : Type) := FamilyAction RawId (TaskJoin.Action Party Party T P)

abbrev Event (T P : Type) := FamilyEvent RawId (TaskJoin.Event Party Party T P)

variable {T P : Type}

def machine (visibility : Visibility) : Machine (State T P) (Action T P) (Event T P) :=
  (TaskJoin.machine visibility).family TaskJoin.State.new

def isBusy (task : TaskJoin.State Party Party T P) : Bool :=
  match task.1.point with
  | .idle => false
  | .dropped => false
  | _ => true

def busy (tasks : State T P) : Nat := tasks.countP isBusy

abbrev taskTrace (index : Nat) (trace : List (Event T P)) : List (TaskFuture.Event Party T P) :=
  lefts (memberTrace index trace)

abbrev jointTrace (index : Nat) (trace : List (Event T P)) : List (Joint.Event Party T P) :=
  rights (memberTrace index trace)

theorem taskTrace_append (index : Nat) (trace events : List (Event T P)) :
    taskTrace index (trace ++ events) =
      taskTrace index trace ++ taskTrace index events := by
  simp only [taskTrace, memberTrace, observe_append]

theorem jointTrace_append (index : Nat) (trace events : List (Event T P)) :
    jointTrace index (trace ++ events) =
      jointTrace index trace ++ jointTrace index events := by
  simp only [jointTrace, memberTrace, observe_append]

/-- The executor polls a task with the waker of that task. -/
def ownWakers : Guard (State T P) (Action T P) (Event T P) := fun _ action =>
  match action with
  | .member index (.left (.poll waker)) => waker = .task index
  | _ => True

instance (config : Config (State T P) (Event T P)) (action : Action T P) :
    Decidable (ownWakers config action) := by
  unfold ownWakers
  split <;> infer_instance

def woken? : Event T P → Option Party
  | .member _ (.inl (.woke _ waker)) => some waker
  | .member _ (.inr (.woken waker)) => some waker
  | _ => none

def polled? : Event T P → Option Nat
  | .member index (.inl (.pollStarted _)) => some index
  | _ => none

def flag (index : Nat) (flagged : Bool) (event : Event T P) : Bool :=
  if polled? event = some index then false
  else if woken? event = some (.task index) then true
  else flagged

/-- The task waits in the queue of the executor. -/
def scheduled (index : Nat) (trace : List (Event T P)) : Bool := trace.foldl (flag index) true

private theorem flagged_of_unpolled {index : Nat} {trace : List (Event T P)}
    (unpolled : ∀ event ∈ trace, polled? event ≠ some index) :
    trace.foldl (flag index) true = true := by
  induction trace with
  | nil => rfl
  | cons event rest ih =>
      have first : flag index true event = true := by
        rw [flag, if_neg (unpolled event List.mem_cons_self), ite_self]
      rw [List.foldl_cons, first]
      exact ih fun other member => unpolled other (List.mem_cons_of_mem event member)

private theorem scheduled_of_woken {index : Nat} {before after : List (Event T P)}
    {event : Event T P}
    (woken : woken? event = some (.task index))
    (unpolled : ∀ other ∈ after, polled? other ≠ some index) :
    scheduled index (before ++ event :: after) = true := by
  have flags (flagged : Bool) : flag index flagged event = true := by
    have other : polled? event ≠ some index := by
      intro polled
      cases event with
      | created => cases polled
      | member owner shown =>
          rcases shown with shown | shown
          · cases shown with
            | pollStarted => cases woken
            | _ => cases polled
          · cases polled
    rw [flag, if_neg other, if_pos woken]
  rw [scheduled, List.foldl_append, List.foldl_cons, flags]
  exact flagged_of_unpolled unpolled

/-! ### The parts of a run -/

variable {visibility : Visibility} {guard : Guard (State T P) (Action T P) (Event T P)}
  {config : Config (State T P) (Event T P)}

/-- Each task of a run runs as if it were alone. -/
theorem member_reaches {index : Nat} {task : TaskJoin.State Party Party T P}
    (run : (machine visibility).Reaches guard (.initial []) config)
    (found : config.state[index]? = some task) :
    ∃ id, (seeds config.trace)[index]? = some id ∧
      (TaskJoin.machine visibility).Reaches .any (.initial (.new id))
        ⟨memberTrace index config.trace, task⟩ := run.member found

theorem mem_taskTrace {index : Nat} {trace : List (Event T P)}
    {event : TaskFuture.Event Party T P} :
    event ∈ taskTrace index trace ↔ .member index (.inl event) ∈ trace := by
  rw [taskTrace, mem_lefts, mem_memberTrace]

private theorem mem_jointTrace {index : Nat} {trace : List (Event T P)}
    {event : Joint.Event Party T P} :
    event ∈ jointTrace index trace ↔ .member index (.inr event) ∈ trace := by
  rw [jointTrace, mem_rights, mem_memberTrace]

def panicked : Event T P → Bool
  | .member _ (.inl (.futureDropped panicked)) => panicked
  | _ => false

def Calm (trace : List (Event T P)) : Prop := ∀ event ∈ trace, panicked event = false

instance (trace : List (Event T P)) : Decidable (Calm trace) :=
  inferInstanceAs (Decidable (∀ event ∈ trace, panicked event = false))

theorem Calm.of_append {trace events : List (Event T P)} (calm : Calm (trace ++ events)) :
    Calm trace := fun event member => calm event (List.mem_append_left _ member)

private theorem Calm.destructions {trace : List (Event T P)} (calm : Calm trace) (index : Nat) :
    ∀ panicked ∈ TaskFuture.destructions (taskTrace index trace), panicked = false := by
  intro panicked member
  obtain ⟨event, inside, shows⟩ := (mem_observe _).mp member
  cases event with
  | futureDropped =>
      cases shows
      exact calm _ (mem_taskTrace.mp inside)
  | _ => cases shows

private theorem exists_split_task {index : Nat} {trace : List (Event T P)}
    {before after : List (TaskFuture.Event Party T P)} {event : TaskFuture.Event Party T P}
    (split : taskTrace index trace = before ++ event :: after) :
    ∃ first second, trace = first ++ .member index (.inl event) :: second ∧
      taskTrace index second = after := by
  obtain ⟨_, shown, left, inMember, same, _, sameLeft⟩ := exists_split_of_observe _ split
  obtain ⟨first, whole, second, rfl, shows, _, sameSecond⟩ := exists_split_of_observe _ inMember
  rw [Sum.getLeft?_eq_some_iff] at same
  rw [FamilyEvent.of?_eq_some] at shows
  refine ⟨first, second, by rw [shows, same], ?_⟩
  rw [taskTrace, memberTrace, sameSecond, lefts, sameLeft]

private theorem unpolled_of_starts {index : Nat} {trace : List (Event T P)}
    (unstarted : TaskFuture.pollStarts (taskTrace index trace) = []) :
    ∀ event ∈ trace, polled? event ≠ some index := by
  intro event member polled
  have none (waker : Party) : .member index (.inl (.pollStarted waker)) ∉ trace := by
    intro found
    have inside : waker ∈ TaskFuture.pollStarts (taskTrace index trace) :=
      (mem_observe _).mpr ⟨_, mem_taskTrace.mpr found, rfl⟩
    rw [unstarted] at inside
    cases inside
  cases event with
  | created => cases polled
  | member owner shown =>
      rcases shown with shown | shown
      · cases shown with
        | pollStarted waker =>
            cases polled
            exact none waker member
        | _ => cases polled
      · cases polled

def Named (trace : List (Event T P)) : Prop :=
  ∀ index waker, .member index (.inl (.pollStarted waker)) ∈ trace → waker = .task index

theorem named_of_reaches (run : (machine visibility).Reaches ownWakers (.initial []) config) :
    Named config.trace := by
  apply run.invariant (fun config => Named config.trace) nofun
  intro before action next events _reached named allowed stepped index waker member
  rcases List.mem_append.mp member with old | new
  · exact named index waker old
  · cases familyStep_of_step stepped with
    | creates => simp at new
    | moves moved own state after shown found moves =>
        obtain ⟨event, inside, same⟩ := List.mem_map.mp new
        cases same
        rw [TaskJoin.step_started moves (mem_lefts.mpr inside)] at allowed
        exact allowed

/-! ### Tasks that are over -/

theorem busy_eq_zero {tasks : State T P} :
    busy tasks = 0 ↔ ∀ (index : Nat) task, tasks[index]? = some task → isBusy task = false := by
  rw [busy, List.countP_eq_zero]
  constructor
  · intro rest index task found
    exact Bool.eq_false_iff.mpr (rest task (List.mem_of_getElem? found))
  · intro rest task member
    obtain ⟨index, found⟩ := List.mem_iff_getElem?.mp member
    rw [rest index task found]
    exact Bool.false_ne_true

theorem idle_or_dropped {task : TaskJoin.State Party Party T P} (rests : isBusy task = false) :
    task.1.point = .idle ∨ task.1.point = .dropped := by
  unfold isBusy at rests
  split at rests
  · exact .inl ‹_›
  · exact .inr ‹_›
  · cases rests

def AllDropped (tasks : State T P) : Prop :=
  ∀ (index : Nat) task, tasks[index]? = some task → task.1.point = .dropped

def allDropped (tasks : State T P) : Bool :=
  tasks.all fun task =>
    match task.1.point with
    | .dropped => true
    | _ => false

theorem allDropped_iff {tasks : State T P} :
    allDropped tasks = true ↔ AllDropped tasks := by
  rw [allDropped, List.all_eq_true]
  constructor
  · intro all index task found
    have dropped := all task (List.mem_of_getElem? found)
    split at dropped
    · assumption
    · cases dropped
  · intro all task member
    obtain ⟨index, found⟩ := List.mem_iff_getElem?.mp member
    rw [all index task found]

theorem AllDropped.step {tasks moved : State T P} {own : Action T P}
    {shown : List (Event T P)} (all : AllDropped tasks) (unborn : ∀ id, own ≠ .create id)
    (step : FamilyStep (TaskJoin.machine visibility) TaskJoin.State.new tasks own moved shown) :
    AllDropped moved ∧ moved.length = tasks.length := by
  constructor
  · intro index task found
    cases step.at index with
    | rests _ same => exact all index task (same.symm.trans found)
    | born seed => exact absurd rfl (unborn seed)
    | moves act before after foundThen foundNow moves =>
        rw [foundNow, Option.some.injEq] at found
        rw [← found]
        exact TaskJoin.step_dropped moves (all index before foundThen)
  · cases step with
    | creates seed => exact absurd rfl (unborn seed)
    | moves => exact List.length_set

/-- A task that is over: its outcome was handed to its joint, once, and whoever still
has the handle gets it. It is cancelled if the inner future never ended. -/
structure Settled (visibility : Visibility) (trace : List (Event T P)) (index : Nat)
    (task : TaskJoin.State Party Party T P) : Prop where
  dropped : task.1.point = .dropped
  outcome : ∃ id value, (seeds trace)[index]? = some id ∧
    TaskFuture.handed (taskTrace index trace) = [value] ∧
    (value = .error .cancelled ↔
      ∀ answer ∈ TaskFuture.innerAnswers (taskTrace index trace), answer = .pending) ∧
    (¬ task.2.handle.Leaving → Joint.deliveries (jointTrace index trace) = [] →
      TaskJoin.NextPollReady visibility ⟨memberTrace index trace, task⟩ (joinOutput id value))

theorem settled_of_dropped {index : Nat} {task : TaskJoin.State Party Party T P}
    {trace : List (Event T P)} {tasks : State T P}
    (run : (machine visibility).Reaches .any (.initial []) ⟨trace, tasks⟩)
    (found : tasks[index]? = some task) (dropped : task.1.point = .dropped)
    (calm : Calm trace) : Settled visibility trace index task := by
  obtain ⟨id, seeded, reached⟩ := member_reaches run found
  have progress : TaskFuture.Progress (taskTrace index trace) task.1 :=
    TaskFuture.progress_of_reaches (TaskJoin.task_reaches reached)
  have some := progress.hands_by_end (calm.destructions index) (.inr (.inr dropped))
  obtain ⟨value, handed, due⟩ := progress.due some
  have gone : task.1.hasFuture = false :=
    progress.gone_of_over (by rw [dropped]; trivial) (by rw [dropped]; nofun)
  refine ⟨dropped, id, value, seeded, handed, due.cancelled_iff, ?_⟩
  intro live undelivered
  exact TaskJoin.joins_of_handed reached ⟨gone, .inr (.inr dropped)⟩ handed live undelivered

theorem innerStarts_final {index : Nat} {task : TaskJoin.State Party Party T P}
    {trace : List (Event T P)} {tasks : State T P} {later : Config (State T P) (Event T P)}
    (run : (machine visibility).Reaches .any (.initial []) ⟨trace, tasks⟩)
    (found : tasks[index]? = some task) (dropped : task.1.point = .dropped)
    (continued : (machine visibility).Reaches .any ⟨trace, tasks⟩ later) :
    TaskFuture.innerStarts (taskTrace index later.trace) =
      TaskFuture.innerStarts (taskTrace index trace) := by
  obtain ⟨id, _, reached⟩ := member_reaches run found
  obtain ⟨now, _, onward⟩ := Machine.Reaches.member_onward continued found
  have alone : TaskFuture.machine.Reaches .any (.initial .new)
      ⟨taskTrace index trace, task.1⟩ := TaskJoin.task_reaches reached
  have further : TaskFuture.machine.Reaches .any ⟨taskTrace index trace, task.1⟩
      ⟨taskTrace index later.trace, now.1⟩ := onward.left
  have gone : task.1.hasFuture = false :=
    (TaskFuture.progress_of_reaches alone).gone_of_over (by rw [dropped]; trivial)
      (by rw [dropped]; nofun)
  exact TaskFuture.innerStarts_final alone gone further

/-! ### Nobody sleeps beside what they wait for -/

/-- The handle of a task was polled last by this party, and in vain; `since` came after. -/
structure Awaits (config : Config (State T P) (Event T P)) (index : Nat) (party : Party)
    (since : List (Event T P)) : Prop where
  pending : ∃ before loaded, config.trace =
    before ++ .member index (.inr (.pollReturned ⟨party, loaded, .pending⟩)) :: since
  last : Joint.polls (jointTrace index since) = []

/-- A task that is cancelled, or that awaits a finished one, is in the queue of the executor. -/
structure NothingSleeps (config : Config (State T P) (Event T P)) : Prop where
  cancelled : ∀ (index : Nat) task, config.state[index]? = some task → task.1.point = .idle →
    task.1.hasFuture = true → task.1.slot = .cancelled →
    (∀ (call : Nat) (box : BoxHeap.Pointer), task.1.cancels[call]? ≠ some (.waking box)) →
    scheduled index config.trace = true
  joining : ∀ (index : Nat) task party since, config.state[index]? = some task →
    Awaits config index party since → task.2.handle = .idle →
    Joint.deliveries (jointTrace index config.trace) = [] →
    (task.2.wake = .notifying ∨ task.2.wake = .returned) →
    ∃ before event after, since = before ++ event :: after ∧ woken? event = some party ∧
      ∀ other, party = .task other →
        scheduled other config.trace = true ∨ ∃ event ∈ after, polled? event = some other

private theorem scheduled_of_cancelled {index : Nat} {task : TaskJoin.State Party Party T P}
    (run : (machine visibility).Reaches ownWakers (.initial []) config)
    (found : config.state[index]? = some task) (idle : task.1.point = .idle)
    (unfinished : task.1.hasFuture = true) (cancelled : task.1.slot = .cancelled)
    (settled : ∀ (call : Nat) (box : BoxHeap.Pointer),
      task.1.cancels[call]? ≠ some (.waking box)) :
    scheduled index config.trace = true := by
  obtain ⟨id, _, reached⟩ := member_reaches run found
  have alone : TaskFuture.machine.Reaches .any (.initial .new)
      ⟨taskTrace index config.trace, task.1⟩ := TaskJoin.task_reaches reached
  cases last : (TaskFuture.pollStarts (taskTrace index config.trace)).getLast? with
  | none =>
      rw [List.getLast?_eq_none_iff] at last
      exact flagged_of_unpolled (unpolled_of_starts last)
  | some waker =>
      have own : waker = .task index := by
        obtain ⟨event, inside, started⟩ := (mem_observe _).mp (List.mem_of_getLast? last)
        cases event with
        | pollStarted =>
            cases started
            exact named_of_reaches run index waker (mem_taskTrace.mp inside)
        | _ => cases started
      obtain ⟨_, call, after, split, silent⟩ :=
        TaskFuture.wokenSince_of_cancelled alone idle unfinished cancelled settled last
      obtain ⟨first, second, whole, rfl⟩ := exists_split_task split
      rw [whole, own]
      exact scheduled_of_woken rfl (unpolled_of_starts silent)

private theorem woken_of_finished {index : Nat} {task : TaskJoin.State Party Party T P}
    {party : Party}
    {since : List (Event T P)}
    (run : (machine visibility).Reaches ownWakers (.initial []) config)
    (found : config.state[index]? = some task) (awaits : Awaits config index party since)
    (idle : task.2.handle = .idle)
    (undelivered : Joint.deliveries (jointTrace index config.trace) = [])
    (woke : task.2.wake = .notifying ∨ task.2.wake = .returned) :
    ∃ event ∈ since, woken? event = some party := by
  obtain ⟨id, _, reached⟩ := member_reaches run found
  have alone : (Joint.machine visibility).Reaches .any (.initial (.new id))
      ⟨jointTrace index config.trace, task.2⟩ := TaskJoin.joint_reaches reached
  obtain ⟨before, loaded, split⟩ := awaits.pending
  have own : jointTrace index config.trace =
      jointTrace index before ++ .pollReturned ⟨party, loaded, .pending⟩ ::
        jointTrace index since := by
    rw [split, jointTrace, memberTrace, observe_append, observe_cons]
    simp [FamilyEvent.of?]
  have inside := Joint.woken_after_last_poll alone idle own awaits.last undelivered woke
  obtain ⟨event, member, shown⟩ := (mem_observe _).mp inside
  cases event with
  | woken waker =>
      cases shown
      exact ⟨_, mem_jointTrace.mp member, rfl⟩
  | wakeCalled | published | pollReturned | detachBegan | discarded => cases shown

private theorem scheduled_of_finished {index other : Nat} {since before after : List (Event T P)}
    {event : Event T P}
    (awaits : Awaits config index (.task other) since)
    (split : since = before ++ event :: after) (woken : woken? event = some (.task other)) :
    scheduled other config.trace = true ∨ ∃ event ∈ after, polled? event = some other := by
  by_cases repolled : ∃ event ∈ after, polled? event = some other
  · exact .inr repolled
  · obtain ⟨earlier, loaded, whole⟩ := awaits.pending
    left
    rw [whole, split, ← List.cons_append, ← List.append_assoc]
    apply scheduled_of_woken woken
    intro event member polled
    exact repolled ⟨event, member, polled⟩

/-- In any schedule, however the tasks cancel and join one another. -/
theorem nothing_sleeps (run : (machine visibility).Reaches ownWakers (.initial []) config) :
    NothingSleeps config := by
  constructor
  · intro index task found idle unfinished cancelled settled
    exact scheduled_of_cancelled run found idle unfinished cancelled settled
  · intro index task party since found awaits idle undelivered woke
    obtain ⟨event, member, woken⟩ :=
      woken_of_finished run found awaits idle undelivered woke
    obtain ⟨before, after, split⟩ := List.append_of_mem member
    refine ⟨before, event, after, split, woken, ?_⟩
    rintro other rfl
    exact scheduled_of_finished awaits split woken

def acts (index : Nat) (actions : List (TaskJoin.Action Party Party T P)) : List (Action T P) :=
  actions.map (.member index)

/-- Task 0 awaits task 1, which then finishes; task 2 is cancelled while it waits. -/
def awaitsAndCancels : List (Action Nat Nat) :=
  [.create ⟨1⟩, .create ⟨2⟩, .create ⟨3⟩] ++
    acts 0 [.left (.poll (.task 0)), .left .check, .left .pollInner] ++
    acts 1 [.right (.pollLoad (.task 0) 0), .right .pollReplace] ++
    acts 0 [.left (.innerReturn .pending), .left (.newBox 8), .left .updateLoad,
      .left .updateExchange, .left .updateReturn] ++
    acts 2 [.left (.poll (.task 2)), .left .check, .left .pollInner,
      .left (.innerReturn .pending), .left (.newBox 9), .left .updateLoad,
      .left .updateExchange, .left .updateReturn] ++
    acts 1 [.left (.poll (.task 1)), .left .check, .left .pollInner,
      .left (.innerReturn (.ready 42)), .left (.dropFuture false), .both 0,
      .right .wakeReplace, .right .wakeStore, .right .wakeMatch, .right .wakeReturn,
      .left .returnWake] ++
    acts 2 [.left .cancel, .left (.cancelLoad 0), .left (.cancelExchange 0),
      .left (.cancelWake 0), .left (.cancelFree 0)]

theorem nothing_sleeps_cancelled :
    ∃ config, (machine .latest).exec ownWakers (.initial []) awaitsAndCancels = some config ∧
      [0, 1, 2].map (scheduled · config.trace) = [true, false, true] ∧ NothingSleeps config := by
  have ran : ((machine .latest).exec ownWakers (.initial []) awaitsAndCancels).map
      (fun config => [0, 1, 2].map (scheduled · config.trace)) = some [true, false, true] := by
    decide +kernel
  obtain ⟨config, executed, flags⟩ := Option.map_eq_some_iff.mp ran
  exact ⟨config, executed, flags, nothing_sleeps (reaches_of_exec awaitsAndCancels executed)⟩

end Tasks

end Spawns
