/-
Task ids, and the id of the task that a thread is running.

Threads create tasks and poll their futures, nested to any depth. A poll ends
before the one it is nested in, by returning or by unwinding; what a destructor
does while it unwinds is part of it. What `TaskFuture::poll` does around the
poll of the future, dropping it when it is ready, is not part of it. That a
future is polled by one call at a time is not needed here.
-/

import Mathlib.Data.List.Nodup
import Mathlib.Logic.Function.Basic
import Spawns.Core.Joint

namespace Spawns

open EventMachine

open Machine (reaches_of_exec)

/-- The guard of one poll: the `RUNNING_ID` to go back to. -/
structure IdScope where
  previous : RawId
  deriving DecidableEq, Repr

/-- `RawId::run`: the previous `RUNNING_ID`, and the new one. -/
def RawId.run (self running : RawId) : RawId × RawId := (running, self)

def RawId.enter (self running : RawId) : IdScope × RawId :=
  (⟨(self.run running).1⟩, (self.run running).2)

def IdScope.drop (scope : IdScope) (running : RawId) : RawId := (scope.previous.run running).2

/-- `RawId::next`: `fetch_add` on the counter, which wraps around. -/
def RawId.next (counter : UInt64) : RawId × UInt64 := (⟨counter⟩, counter + 1)

def tryId (running : RawId) : Option Id :=
  if running.value = 0 then none else some running.toId

/-- The ids in what `Task::new` makes: the `Task`, its `IdFuture` and its `JoinHandle`. -/
structure TaskIds where
  task : Id
  future : RawId
  handle : RawId
  deriving DecidableEq, Repr

def TaskIds.handleId (ids : TaskIds) : Id := ids.handle.toId

/-- `Task::new`: `IdFuture::new` takes the next id, and the handle gets it as well. -/
def TaskIds.new (counter : UInt64) : TaskIds × UInt64 :=
  ({ task := (RawId.next counter).1.toId
     future := (RawId.next counter).1
     handle := (RawId.next counter).1.toId.asRaw }, (RawId.next counter).2)

namespace TaskId

structure Frame where
  task : Nat
  scope : IdScope
  deriving DecidableEq, Repr

/-- `RUNNING_ID` of a thread, and the polls it is in, innermost first. -/
structure Thread where
  running : RawId
  frames : List Frame
  deriving DecidableEq, Repr

structure State (Θ : Type) where
  counter : UInt64
  tasks : List TaskIds
  threads : Θ → Thread

inductive PollEnd where
  | pending
  | ready
  | unwound
  deriving DecidableEq, Repr

inductive Event (Θ : Type) where
  | created (ids : TaskIds)
  | pollStarted (thread : Θ) (task : Nat)
  | pollEnded (thread : Θ) (task : Nat) (ended : PollEnd)
  | tried (thread : Θ) (answer : Option Id)

inductive Action (Θ : Type) where
  | create
  | pollStart (thread : Θ) (task : Nat)
  | pollEnd (thread : Θ) (ended : PollEnd)
  | tryId (thread : Θ)

variable {Θ : Type}

/-- `static ID` starts at 1, every `RUNNING_ID` at 0. -/
def State.new : State Θ := ⟨1, [], fun _ => ⟨⟨0⟩, []⟩⟩

def create (state : State Θ) : State Θ × List (Event Θ) :=
  ({ state with
      counter := (TaskIds.new state.counter).2
      tasks := state.tasks ++ [(TaskIds.new state.counter).1] },
    [.created (TaskIds.new state.counter).1])

section Steps

variable [DecidableEq Θ]

def State.update (state : State Θ) (thread : Θ) (moved : Thread) : State Θ :=
  { state with threads := Function.update state.threads thread moved }

/-- `IdFuture::poll`: `let _scope = self.id.enter()` -/
def pollStart (state : State Θ) (thread : Θ) (task : Nat) : Option (State Θ × List (Event Θ)) :=
  match state.tasks[task]? with
  | some ids =>
      some (state.update thread
        { running := (ids.future.enter (state.threads thread).running).2
          frames := ⟨task, (ids.future.enter (state.threads thread).running).1⟩ ::
            (state.threads thread).frames }, [.pollStarted thread task])
  | none => none

/-- `IdFuture::poll` returns or unwinds: `_scope` is dropped either way. -/
def pollEnd (state : State Θ) (thread : Θ) (ended : PollEnd) :
    Option (State Θ × List (Event Θ)) :=
  match (state.threads thread).frames with
  | frame :: rest =>
      some (state.update thread ⟨frame.scope.drop (state.threads thread).running, rest⟩,
        [.pollEnded thread frame.task ended])
  | [] => none

def machine : Machine (State Θ) (Action Θ) (Event Θ) where
  step state
    | .create => some (create state)
    | .pollStart thread task => pollStart state thread task
    | .pollEnd thread ended => pollEnd state thread ended
    | .tryId thread => some (state, [.tried thread (tryId (state.threads thread).running)])

variable {state next : State Θ} {action : Action Θ} {events : List (Event Θ)}

inductive Transition (state : State Θ) : Action Θ → State Θ → List (Event Θ) → Prop where
  | creates : Transition state .create (create state).1 (create state).2
  | starts (thread : Θ) (task : Nat) (ids : TaskIds) (found : state.tasks[task]? = some ids) :
      Transition state (.pollStart thread task)
        (state.update thread ⟨ids.future,
          ⟨task, ⟨(state.threads thread).running⟩⟩ :: (state.threads thread).frames⟩)
        [.pollStarted thread task]
  | ends (thread : Θ) (ended : PollEnd) (frame : Frame) (rest : List Frame)
      (inside : (state.threads thread).frames = frame :: rest) :
      Transition state (.pollEnd thread ended)
        (state.update thread ⟨frame.scope.previous, rest⟩) [.pollEnded thread frame.task ended]
  | tries (thread : Θ) : Transition state (.tryId thread) state
      [.tried thread (tryId (state.threads thread).running)]

private theorem transition_of_step (stepped : machine.step state action = some (next, events)) :
    Transition state action next events := by
  cases action with
  | create => cases stepped; exact .creates
  | pollStart thread task =>
      change pollStart state thread task = some (next, events) at stepped
      unfold pollStart at stepped
      split at stepped <;> cases stepped
      exact .starts thread task _ ‹_›
  | pollEnd thread ended =>
      change pollEnd state thread ended = some (next, events) at stepped
      unfold pollEnd at stepped
      split at stepped <;> cases stepped
      exact .ends thread ended _ _ ‹_›
  | tryId thread => cases stepped; exact .tries thread

private theorem State.update_same (state : State Θ) (thread : Θ) (moved : Thread) :
    (state.update thread moved).threads thread = moved := Function.update_self ..

private theorem State.update_other {thread other : Θ} (apart : other ≠ thread) (state : State Θ)
    (moved : Thread) : (state.update thread moved).threads other = state.threads other :=
  Function.update_of_ne apart ..

/-! ### What a reached state looks like -/

/-- The ids handed out so far are 1, 2, … in the order of creation. -/
structure Numbered (state : State Θ) : Prop where
  counter : state.counter = UInt64.ofNat (state.tasks.length + 1)
  task : ∀ index ids, state.tasks[index]? = some ids →
    ids = (TaskIds.new (UInt64.ofNat (index + 1))).1

/-- `RUNNING_ID` is the id of the innermost poll, and each guard holds the one below it. -/
def Nested (tasks : List TaskIds) : RawId → List Frame → Prop
  | running, [] => running = ⟨0⟩
  | running, frame :: rest =>
      (∃ ids, tasks[frame.task]? = some ids ∧ running = ids.future) ∧
        Nested tasks frame.scope.previous rest

structure Identified (state : State Θ) : Prop where
  numbered : Numbered state
  nested : ∀ thread, Nested state.tasks (state.threads thread).running
    (state.threads thread).frames

omit [DecidableEq Θ] in
private theorem identified_new : Identified (State.new : State Θ) where
  numbered := ⟨rfl, by intro index ids found; cases found⟩
  nested _ := rfl

private theorem Nested.append {tasks : List TaskIds} (created : TaskIds) (frames : List Frame)
    {running : RawId} (nested : Nested tasks running frames) :
    Nested (tasks ++ [created]) running frames := by
  induction frames generalizing running with
  | nil => exact nested
  | cons frame rest ih =>
      obtain ⟨⟨ids, found, runs⟩, below⟩ := nested
      have inRange := (List.getElem?_eq_some_iff.mp found).1
      refine ⟨⟨ids, ?_, runs⟩, ih below⟩
      rw [List.getElem?_append_left inRange, found]

omit [DecidableEq Θ] in
private theorem Numbered.create (numbered : Numbered state) : Numbered (create state).1 where
  counter := by
    change state.counter + 1 = UInt64.ofNat ((state.tasks ++ [_]).length + 1)
    rw [numbered.counter, List.length_append, List.length_singleton, UInt64.ofNat_add (_ + 1) 1]
    rfl
  task := by
    intro index ids found
    change (state.tasks ++ [(TaskIds.new state.counter).1])[index]? = some ids at found
    by_cases old : index < state.tasks.length
    · rw [List.getElem?_append_left old] at found
      exact numbered.task index ids found
    · have inRange := (List.getElem?_eq_some_iff.mp found).1
      rw [List.length_append, List.length_singleton] at inRange
      have last : index = state.tasks.length := by omega
      rw [last, List.getElem?_concat_length, numbered.counter, Option.some.injEq] at found
      rw [last, found]

private theorem Identified.update {thread : Θ} {moved : Thread} (known : Identified state)
    (nested : Nested state.tasks moved.running moved.frames) :
    Identified (state.update thread moved) where
  numbered := ⟨known.numbered.counter, known.numbered.task⟩
  nested := by
    intro other
    change Nested state.tasks _ _
    by_cases same : other = thread
    · rw [same, State.update_same]
      exact nested
    · rw [State.update_other same]
      exact known.nested other

private theorem identified_step (known : Identified state)
    (stepped : machine.step state action = some (next, events)) : Identified next := by
  cases transition_of_step stepped with
  | creates => exact ⟨known.numbered.create, fun thread => (known.nested thread).append ..⟩
  | starts thread task ids found =>
      exact known.update ⟨⟨ids, found, rfl⟩, known.nested thread⟩
  | ends thread ended frame rest inside =>
      have nested := known.nested thread
      rw [inside] at nested
      exact known.update nested.2
  | tries thread => exact known

theorem identified_of_reaches {config : Config (State Θ) (Event Θ)}
    (run : machine.Reaches .any (.initial .new) config) : Identified config.state :=
  run.invariant (fun config => Identified config.state) identified_new
    fun _config _action _next _events _before known _allowed stepped =>
      identified_step known stepped

/-! ### Fewer than 2^64 - 1 tasks -/

private theorem toNat_of_index {index count : Nat} (created : index < count)
    (few : count < UInt64.size - 1) : (UInt64.ofNat (index + 1)).toNat = index + 1 := by
  apply UInt64.toNat_ofNat_of_lt'
  omega

omit [DecidableEq Θ] in
/-- No id of a task is 0, which `try_id` takes for no task. -/
private theorem Numbered.tryId_future {index : Nat} {ids : TaskIds} (numbered : Numbered state)
    (few : state.tasks.length < UInt64.size - 1) (found : state.tasks[index]? = some ids) :
    tryId ids.future = some ids.task := by
  have inRange := (List.getElem?_eq_some_iff.mp found).1
  have value := toNat_of_index inRange few
  rw [numbered.task index ids found]
  apply if_neg
  intro zero
  change UInt64.ofNat (index + 1) = 0 at zero
  rw [zero] at value
  cases value

omit [DecidableEq Θ] in
private theorem Numbered.distinct (numbered : Numbered state)
    (few : state.tasks.length < UInt64.size - 1) : (state.tasks.map TaskIds.task).Nodup := by
  rw [List.nodup_iff_getElem?_ne_getElem?]
  intro first second before created same
  rw [List.length_map] at created
  rw [List.getElem?_map, List.getElem?_map,
    List.getElem?_eq_getElem (Nat.lt_trans before created),
    List.getElem?_eq_getElem created, Option.map_some, Option.map_some, Option.some.injEq,
    numbered.task first _ (List.getElem?_eq_getElem _),
    numbered.task second _ (List.getElem?_eq_getElem _)] at same
  have values : UInt64.ofNat (first + 1) = UInt64.ofNat (second + 1) := congrArg Id.value same
  have toNats := congrArg UInt64.toNat values
  rw [toNat_of_index (Nat.lt_trans before created) few, toNat_of_index created few] at toNats
  omega

/-! ### What one poll leaves behind -/

def Within (thread : Θ) (depth : Nat) :
    Guard (State Θ) (Action Θ) (Event Θ) := fun config action =>
  ∀ ended, action = .pollEnd thread ended → depth < (config.state.threads thread).frames.length

/-- A whole poll: it starts, anything goes on that does not end it, and it ends. -/
inductive Poll (thread : Θ) (task : Nat) (start : Config (State Θ) (Event Θ)) :
    PollEnd → Config (State Θ) (Event Θ) → Prop where
  | mk {entered left : State Θ} {began finished : List (Event Θ)}
      {last : Config (State Θ) (Event Θ)} {ended : PollEnd}
      (starts : machine.step start.state (.pollStart thread task) = some (entered, began))
      (goesOn : machine.Reaches
        (Within thread ((start.state.threads thread).frames.length + 1))
        ⟨start.trace ++ began, entered⟩ last)
      (innermost : (last.state.threads thread).frames.length =
        (start.state.threads thread).frames.length + 1)
      (ends : machine.step last.state (.pollEnd thread ended) = some (left, finished)) :
      Poll thread task start ended ⟨last.trace ++ finished, left⟩

private theorem frames_within {thread : Θ} {frame : Frame} {below : List Frame}
    {start final : Config (State Θ) (Event Θ)}
    (run : machine.Reaches (Within thread (below.length + 1)) start final)
    (base : ∃ nested, (start.state.threads thread).frames = nested ++ frame :: below) :
    ∃ nested, (final.state.threads thread).frames = nested ++ frame :: below := by
  refine run.invariant
    (fun config => ∃ nested, (config.state.threads thread).frames = nested ++ frame :: below)
    base ?_
  intro config action next events _before kept within stepped
  obtain ⟨nested, frames⟩ := kept
  cases transition_of_step stepped with
  | creates | tries => exact ⟨nested, frames⟩
  | starts other task ids found =>
      by_cases same : thread = other
      · subst same
        refine ⟨⟨task, ⟨(config.state.threads thread).running⟩⟩ :: nested, ?_⟩
        rw [State.update_same, frames, List.cons_append]
      · refine ⟨nested, ?_⟩
        rw [State.update_other same, frames]
  | ends other ended ending rest inside =>
      by_cases same : thread = other
      · subst same
        have deeper := within ended rfl
        rw [frames, List.length_append, List.length_cons] at deeper
        cases nested with
        | nil => simp at deeper
        | cons top tail =>
            rw [frames, List.cons_append, List.cons.injEq] at inside
            refine ⟨tail, ?_⟩
            rw [State.update_same, inside.2]
      · refine ⟨nested, ?_⟩
        rw [State.update_other same, frames]

private theorem poll_restores {thread : Θ} {task : Nat} {ended : PollEnd}
    {start final : Config (State Θ) (Event Θ)} (poll : Poll thread task start ended final) :
    final.state.threads thread = start.state.threads thread := by
  obtain ⟨starts, goesOn, innermost, ends⟩ := poll
  cases transition_of_step starts with
  | starts _ _ ids found =>
      have base : ∃ nested, (((start.state.update thread ⟨ids.future,
          ⟨task, ⟨(start.state.threads thread).running⟩⟩ ::
            (start.state.threads thread).frames⟩).threads thread).frames =
          nested ++ ⟨task, ⟨(start.state.threads thread).running⟩⟩ ::
            (start.state.threads thread).frames) := by
        refine ⟨[], ?_⟩
        rw [State.update_same, List.nil_append]
      obtain ⟨nested, frames⟩ := frames_within goesOn base
      have alone : nested = [] := by
        rw [frames, List.length_append, List.length_cons] at innermost
        exact List.eq_nil_of_length_eq_zero (by omega)
      rw [alone, List.nil_append] at frames
      cases transition_of_step ends with
      | ends _ _ ending rest inside =>
          rw [frames, List.cons.injEq] at inside
          rw [State.update_same, ← inside.1, ← inside.2]

/-! ### Task identity -/

/-- What a program can tell about task ids at one point of its run. -/
structure Identity (config : Config (State Θ) (Event Θ)) : Prop where
  inside : ∀ thread frame below, (config.state.threads thread).frames = frame :: below →
    ∃ ids, config.state.tasks[frame.task]? = some ids ∧
      tryId (config.state.threads thread).running = some ids.task ∧ ids.handleId = ids.task
  outside : ∀ thread, (config.state.threads thread).frames = [] →
    tryId (config.state.threads thread).running = none
  distinct : (config.state.tasks.map TaskIds.task).Nodup
  restored : ∀ thread task ended final, Poll thread task config ended final →
    final.state.threads thread = config.state.threads thread

theorem task_identity {config : Config (State Θ) (Event Θ)}
    (run : machine.Reaches .any (.initial .new) config)
    (few : config.state.tasks.length < UInt64.size - 1) : Identity config := by
  have known := identified_of_reaches run
  refine ⟨?inside, ?outside, known.numbered.distinct few, ?restored⟩
  case inside =>
    intro thread frame below frames
    have nested := known.nested thread
    rw [frames] at nested
    obtain ⟨⟨ids, found, runs⟩, _⟩ := nested
    refine ⟨ids, found, ?_, ?_⟩
    · rw [runs]
      exact known.numbered.tryId_future few found
    · rw [known.numbered.task frame.task ids found]
      rfl
  case outside =>
    intro thread frames
    have nested := known.nested thread
    rw [frames] at nested
    rw [show (config.state.threads thread).running = ⟨0⟩ from nested]
    rfl
  case restored =>
    intro thread task ended final poll
    exact poll_restores poll

def nestedPolls : List (Action Bool) :=
  [.create, .create, .pollStart false 0, .tryId false, .pollStart false 1, .tryId false,
    .pollEnd false .unwound, .tryId false, .pollEnd false .pending, .tryId false,
    .pollStart true 0, .tryId true]

def Event.answer? : Event Θ → Option (Option Id)
  | .tried _ answer => some answer
  | _ => none

theorem task_identity_nested :
    ∃ config, (machine : Machine (State Bool) _ _).exec .any (.initial .new) nestedPolls =
        some config ∧
      observe Event.answer? config.trace =
        [some ⟨1⟩, some ⟨2⟩, some ⟨1⟩, none, some ⟨1⟩] ∧
      Identity config := by
  obtain ⟨config, executed, answers, created⟩ :
      ∃ config, (machine : Machine (State Bool) _ _).exec .any (.initial .new) nestedPolls =
          some config ∧
        observe Event.answer? config.trace =
          [some ⟨1⟩, some ⟨2⟩, some ⟨1⟩, none, some ⟨1⟩] ∧
        config.state.tasks.length = 2 := ⟨_, rfl, rfl, rfl⟩
  have few : config.state.tasks.length < UInt64.size - 1 := by
    rw [created]
    decide
  exact ⟨config, executed, answers, task_identity (reaches_of_exec nestedPolls executed) few⟩

end Steps

end TaskId

end Spawns
