/-
From a spawn call to whoever joins the task it made.

A task that is handed over is one more member of a family of tasks, each beside
its joint and its handle. Who polls, cancels and drops what, and when, is free:
the spawner may run the task anywhere, or not at all.
-/

import Spawns.Core.JoinError
import Spawns.Core.SpawnTask
import Spawns.Core.TaskJoinStep
import Spawns.Foundation.Family

namespace Spawns

open EventMachine

open Machine (reaches_of_exec)

/-! ### What the polls of one future answer -/

namespace TaskFuture

variable {W T P : Type} {state next : State W T P} {action : Action W T P}
  {events : List (Event W T P)}

private theorem step_answers (transition : Transition state action next events) :
    innerAnswers events = [] ∨ ∃ waker answer, action = .innerReturn answer ∧
      state.point = .inner waker ∧ innerAnswers events = [answer] := by
  cases transition with
  | innerPends waker point => exact .inr ⟨waker, .pending, rfl, point, rfl⟩
  | innerEnds waker point answer => exact .inr ⟨waker, answer, rfl, point, rfl⟩
  | updateReturns =>
      left
      rw [innerAnswers, observe_append, observe_freeEvents (fun _ => rfl) (fun _ => rfl)]
      rfl
  | boxRejected | fieldsDropped | cancelFrees | cancellationDrops =>
      exact .inl (observe_freeEvents (fun _ => rfl) (fun _ => rfl) _ _)
  | pollsFinished | pollStarts | checkFinds | checkPasses | innerStarts | boxReused | boxDangles
  | boxMade | updateFinds | updateLoads | updateStores | updateRejected | updateRetries
  | futureDrops | futurePanicsInPoll | futurePanicsInDrop | wakeCalled | pollEnds | dropEnds
  | dropFinishes | dropSkips | cancelStarts | cancelFinds | cancelLoads | cancelTakes
  | cancelClaims | cancelLoses | cancelRetries | cancelWakes | cancelDangles => exact .inl rfl

/-- While a poll of the inner future runs, all earlier ones have answered `Pending`. -/
private theorem Progress.pendings {trace : List (Event W T P)} {waker : W}
    (progress : Progress trace state) (polling : state.point = .inner waker) :
    ∀ answer ∈ innerAnswers trace, answer = .pending := by
  rw [← completions_nil_iff]
  cases progress with
  | running _ _ _ pending => exact pending
  | finishing _ _ _ point | handing _ _ _ point =>
      rw [polling] at point
      cases point
  | done _ _ _ _ atEnd =>
      rw [polling] at atEnd
      exact atEnd.elim
  | lost _ point =>
      rw [polling] at point
      rcases point with point | point | point <;> cases point

variable {guard : Guard (State W T P) (Action W T P) (Event W T P)}
  {config : Config (State W T P) (Event W T P)}

private theorem pendings_before_last (run : machine.Reaches guard (.initial State.new) config)
    {earlier : List (InnerAnswer T P)} {last : InnerAnswer T P}
    (answers : innerAnswers config.trace = earlier ++ [last]) :
    ∀ answer ∈ earlier, answer = .pending := by
  refine run.invariant (fun config => ∀ earlier last,
    innerAnswers config.trace = earlier ++ [last] → ∀ answer ∈ earlier, answer = .pending)
    ?_ ?_ earlier last answers
  · intro earlier last none
    exact absurd none.symm (List.append_ne_nil_of_right_ne_nil _ (List.cons_ne_nil _ _))
  · intro before action next events reached pendings _allowed stepped earlier last whole
    have grown : innerAnswers before.trace ++ innerAnswers events = earlier ++ [last] :=
      (observe_append _ _ _).symm.trans whole
    rcases step_answers (transition_of_step stepped) with none | ⟨waker, answer, _, point, one⟩
    · rw [none, List.append_nil] at grown
      exact pendings earlier last grown
    · rw [one] at grown
      rw [← (List.append_inj' grown rfl).1]
      exact (progress_of_reaches reached).pendings point

end TaskFuture

namespace SpawnJoin

variable {Θ S L F D W V T P : Type}

abbrev Pool (W V T P : Type) := List (TaskJoin.State W V T P)

abbrev State (Θ S L F D W V T P : Type) := SpawnTask.State Θ S L F D × Pool W V T P

abbrev PoolAction (W V T P : Type) := FamilyAction RawId (TaskJoin.Action W V T P)

abbrev Action (Θ S F D W V T P : Type) :=
  ProductAction (SpawnTask.Action Θ S F D) (PoolAction W V T P) (SpawnTask.Action Θ S F D)

abbrev PoolEvent (W V T P : Type) := FamilyEvent RawId (TaskJoin.Event W V T P)

abbrev Event (Θ S F D W V T P : Type) := SpawnTask.Event Θ S F D ⊕ PoolEvent W V T P

abbrev taskTrace (index : Nat) (trace : List (PoolEvent W V T P)) :
    List (TaskFuture.Event W T P) := lefts (memberTrace index trace)

abbrev joined (index : Nat) (trace : List (PoolEvent W V T P)) : List (Except (JoinError P) T) :=
  Joint.deliveries (rights (memberTrace index trace))

section Machine

variable [DecidableEq Θ] [DecidableEq S]

def hands (compats : Option (List (Compat L F))) (spawns : SpawnTask.State Θ S L F D)
    (action : SpawnTask.Action Θ S F D) : List (Θ × SpawnTask.Task D) :=
  match SpawnTask.step compats spawns action with
  | some (_, events) => SpawnTask.tasks events
  | none => []

/-- `Task::new` makes the `TaskFuture`, its joint and its handle at once. -/
def coupling (compats : Option (List (Compat L F))) :
    Coupling (SpawnTask.State Θ S L F D) (Pool W V T P) (SpawnTask.Action Θ S F D)
      (PoolAction W V T P) (SpawnTask.Action Θ S F D) where
  leftAlone state action := (hands compats state.1 action).isEmpty
  rightAlone _
    | .create _ => false
    | .member _ _ => true
  together state action :=
    match hands compats state.1 action with
    | [(_, task)] => some (action, .create (SpawnTask.handleOf task).id)
    | _ => none

def machine (compats : Option (List (Compat L F))) (visibility : Visibility) :
    Machine (State Θ S L F D W V T P) (Action Θ S F D W V T P) (Event Θ S F D W V T P) :=
  .product (SpawnTask.machine compats) ((TaskJoin.machine visibility).family TaskJoin.State.new)
    (coupling compats)

end Machine

def State.new : State Θ S L F D W V T P := (.new, [])

/-- The polls of a task's future answer as that future may answer polls in turn. -/
def honest (behaves : D → List (InnerAnswer T P) → Prop) :
    Guard (State Θ S L F D W V T P) (Action Θ S F D W V T P) (Event Θ S F D W V T P) :=
  fun config action =>
    match action with
    | .right (.member index (.left (.innerReturn answer))) =>
        match (SpawnTask.tasks (lefts config.trace))[index]? with
        | some (_, task) => behaves task.future
            (TaskFuture.innerAnswers (taskTrace index (rights config.trace)) ++ [answer])
        | none => True
    | _ => True

instance (behaves : D → List (InnerAnswer T P) → Prop)
    [∀ future answers, Decidable (behaves future answers)]
    (config : Config (State Θ S L F D W V T P) (Event Θ S F D W V T P))
    (action : Action Θ S F D W V T P) : Decidable (honest behaves config action) := by
  unfold honest
  split
  · split <;> infer_instance
  · infer_instance

/-! ### The tasks of the calls and the tasks of the pool -/

variable {compats : Option (List (Compat L F))} {visibility : Visibility}
  {behaves : D → List (InnerAnswer T P) → Prop}
  {guard : Guard (State Θ S L F D W V T P) (Action Θ S F D W V T P) (Event Θ S F D W V T P)}
  {config : Config (State Θ S L F D W V T P) (Event Θ S F D W V T P)}

/-- The pool has the tasks that were handed over, with the ids of their handles. -/
def Matched (trace : List (Event Θ S F D W V T P)) : Prop :=
  seeds (rights trace) =
    (SpawnTask.tasks (lefts trace)).map fun entry => (SpawnTask.handleOf entry.2).id

abbrev answers (index : Nat) (trace : List (Event Θ S F D W V T P)) : List (InnerAnswer T P) :=
  TaskFuture.innerAnswers (taskTrace index (rights trace))

/-- The future of each task has answered as the future given to its call may. -/
def Behaved (behaves : D → List (InnerAnswer T P) → Prop)
    (trace : List (Event Θ S F D W V T P)) : Prop :=
  ∀ (index : Nat) (thread : Θ) (task : SpawnTask.Task D),
    (SpawnTask.tasks (lefts trace))[index]? = some (thread, task) →
      answers index trace = [] ∨ behaves task.future (answers index trace)

private theorem answers_append (index : Nat) (trace events : List (Event Θ S F D W V T P)) :
    answers index (trace ++ events) = answers index trace ++ answers index events := by
  simp only [answers, taskTrace, memberTrace, TaskFuture.innerAnswers, observe_append]

private theorem tasks_append (trace events : List (Event Θ S F D W V T P)) :
    SpawnTask.tasks (lefts (trace ++ events)) =
      SpawnTask.tasks (lefts trace) ++ SpawnTask.tasks (lefts events) := by
  simp only [observe_append]

private theorem pool_answers {pool next : Pool W V T P} {action : PoolAction W V T P}
    {events : List (PoolEvent W V T P)}
    (step : FamilyStep (TaskJoin.machine visibility) TaskJoin.State.new pool action next events)
    (index : Nat) :
    TaskFuture.innerAnswers (taskTrace index events) = [] ∨ ∃ answer,
      action = .member index (.left (.innerReturn answer)) ∧
        TaskFuture.innerAnswers (taskTrace index events) = [answer] := by
  cases step.at index with
  | rests _ _ silent | born _ _ _ silent =>
      left
      rw [taskTrace, silent]
      rfl
  | moves action before after _ _ moves =>
      rcases TaskJoin.task_step moves with ⟨own, transition, taken⟩ | ⟨_, nothing⟩
      · rcases TaskFuture.step_answers transition with none | ⟨waker, answer, rfl, _, one⟩
        · exact .inl none
        · refine .inr ⟨answer, ?_, one⟩
          rcases taken with rfl | other
          · rfl
          · cases other
      · left
        rw [taskTrace, nothing]
        rfl

section Runs

variable [DecidableEq Θ] [DecidableEq S]

private theorem hands_of_step {spawns next : SpawnTask.State Θ S L F D}
    {action : SpawnTask.Action Θ S F D} {events : List (SpawnTask.Event Θ S F D)}
    (stepped : (SpawnTask.machine compats).step spawns action = some (next, events)) :
    hands compats spawns action = SpawnTask.tasks events := by
  change SpawnTask.step compats spawns action = some (next, events) at stepped
  rw [hands, stepped]

theorem matched_of_reaches
    (run : (machine compats visibility).Reaches guard (.initial .new) config) :
    Matched config.trace := by
  refine run.invariant (fun config => Matched config.trace) rfl ?_
  intro before action next events _reached matched _allowed stepped
  have sown : seeds (rights (before.trace ++ events)) =
      seeds (rights before.trace) ++ seeds (rights events) := by
    simp only [observe_append]
  rw [Matched] at matched
  rw [Matched, tasks_append, sown, List.map_append, ← matched]
  cases productStep_of_step stepped with
  | left own moved shown alone moves =>
      have nothing : SpawnTask.tasks shown = [] := by
        rw [← hands_of_step moves]
        exact List.isEmpty_iff.mp alone
      rw [lefts_map_inl, rights_map_inl, nothing]
      rfl
  | right own moved shown alone moves =>
      rw [lefts_map_inr, rights_map_inr]
      cases familyStep_of_step moves with
      | creates seed => cases alone
      | moves index action state after shown found moved =>
          rw [seeds_member]
          rfl
  | both shared first second moved other shown answers chosen moves answered =>
      rw [lefts_both, rights_both]
      simp only [coupling] at chosen
      split at chosen
      · rename_i thread task handed
        cases chosen
        cases answered
        rw [← hands_of_step moves, handed]
        rfl
      · cases chosen

private theorem answers_unborn
    (run : (machine compats visibility).Reaches guard (.initial .new) config)
    {index : Nat} (unborn : (SpawnTask.tasks (lefts config.trace)).length ≤ index) :
    answers index config.trace = [] := by
  have grown : Grown (TaskJoin.machine visibility) TaskJoin.State.new .any config.right :=
    grown_of_reaches run.right fun _ _ _ _ _ _ => trivial
  have same := congrArg List.length (matched_of_reaches run)
  rw [List.length_map] at same
  have none : memberTrace index (rights config.trace) = [] := by
    apply grown.unborn
    have seeded : (seeds (rights config.trace)).length = config.right.state.length := grown.seeded
    omega
  rw [answers, taskTrace, none]
  rfl

theorem behaved_of_reaches
    (run : (machine compats visibility).Reaches (honest behaves) (.initial .new) config) :
    Behaved behaves config.trace := by
  refine run.invariant (fun config => Behaved behaves config.trace) ?_ ?_
  · intro index thread task none
    cases none
  · intro before action next events reached behaved allowed stepped index thread task found
    rw [answers_append]
    rw [tasks_append] at found
    cases productStep_of_step stepped with
    | left own moved shown alone moves =>
        have nothing : SpawnTask.tasks shown = [] := by
          rw [← hands_of_step moves]
          exact List.isEmpty_iff.mp alone
        rw [lefts_map_inl, nothing, List.append_nil] at found
        have silent : answers index (shown.map .inl : List (Event Θ S F D W V T P)) = [] := by
          rw [answers, rights_map_inl]
          rfl
        rw [silent, List.append_nil]
        exact behaved index thread task found
    | right own moved shown alone moves =>
        rw [lefts_map_inr] at found
        change (SpawnTask.tasks (lefts before.trace) ++ [])[index]? = _ at found
        rw [List.append_nil] at found
        rw [answers, answers, rights_map_inr]
        rcases pool_answers (familyStep_of_step moves) index with none | ⟨answer, rfl, one⟩
        · rw [none, List.append_nil]
          exact behaved index thread task found
        · right
          rw [one]
          have permitted : honest behaves before
            (.right (.member index (.left (.innerReturn answer)))) := allowed
          simp only [honest] at permitted
          rw [found] at permitted
          exact permitted
    | both shared first second moved other shown responses chosen moves answered =>
        rw [lefts_both] at found
        have silent : answers index (shown.map .inl ++ responses.map .inr :
            List (Event Θ S F D W V T P)) = [] := by
          rw [answers, rights_both]
          simp only [coupling] at chosen
          split at chosen
          · cases chosen
            cases answered
            rfl
          · cases chosen
        rw [silent, List.append_nil]
        by_cases old : index < (SpawnTask.tasks (lefts before.trace)).length
        · rw [List.getElem?_append_left old] at found
          exact behaved index thread task found
        · exact .inl (answers_unborn reached (Nat.le_of_not_lt old))

/-! ### What a joiner is told -/

/-- Polled in turn, the future may answer `Pending` for a while, and then this. -/
def Yields (behaves : D → List (InnerAnswer T P) → Prop) (future : D)
    (answer : InnerAnswer T P) : Prop :=
  ∃ pendings, (∀ earlier ∈ pendings, earlier = .pending) ∧ behaves future (pendings ++ [answer])

/-- The output is that of this future; if none, the task has been cancelled or dropped. -/
structure Tells (behaves : D → List (InnerAnswer T P) → Prop) (future : D) (id : Id)
    (trace : List (TaskFuture.Event W T P)) (output : Except (JoinError P) T) : Prop where
  value : ∀ value, output = .ok value → Yields behaves future (.ready value)
  payload : ∀ error payload, output = .error error → error.resumePanic = .payload payload →
    Yields behaves future (.panicked payload)
  cancelled : ∀ error, output = .error error → error.isCancelled = true →
    TaskFuture.cancellations trace ≠ [] ∨ .dropBegan true ∈ trace
  named : ∀ error, output = .error error → error.id = id

private theorem member_of_made
    (run : (machine compats visibility).Reaches guard (.initial .new) config)
    {thread : Θ} {call : SpawnTask.Locals D}
    (made : SpawnTask.Made (SpawnTask.tasks (lefts config.trace)) thread call) :
    ∃ handle task member, call.handle = some handle ∧ task.future = call.future ∧
      (SpawnTask.tasks (lefts config.trace))[handle.shared]? = some (thread, task) ∧
      (TaskJoin.machine visibility).Reaches .any (.initial (.new handle.id))
        ⟨memberTrace handle.shared (rights config.trace), member⟩ := by
  obtain ⟨task, entry, handle, _, future⟩ := made
  obtain ⟨index, found⟩ := List.mem_iff_getElem?.mp entry
  have kept := SpawnTask.kept_of_reaches run.left
  have number : task.shared = index := (kept.books.numbered index thread task found).1
  have grown : Grown (TaskJoin.machine visibility) TaskJoin.State.new .any config.right :=
    grown_of_reaches run.right fun _ _ _ _ _ _ => trivial
  have matched : (seeds (rights config.trace))[index]? =
      some (SpawnTask.handleOf task).id := by
    have whole : seeds (rights config.trace) = _ := matched_of_reaches run
    rw [whole, List.getElem?_map, found]
    rfl
  have inside : index < config.state.2.length := by
    have seeded : (seeds (rights config.trace)).length = config.state.2.length := grown.seeded
    have within := (List.getElem?_eq_some_iff.mp matched).1
    omega
  obtain ⟨seed, sown, reached⟩ := run.right.member (List.getElem?_eq_getElem inside)
  change (seeds (rights config.trace))[index]? = some seed at sown
  rw [matched, Option.some.injEq] at sown
  subst number
  have born : (TaskJoin.machine visibility).Reaches .any
      (.initial (.new (SpawnTask.handleOf task).id))
      ⟨memberTrace task.shared (rights config.trace), config.state.2[task.shared]⟩ := by
    rw [sown]
    exact reached
  exact ⟨SpawnTask.handleOf task, task, _, handle, future, found, born⟩

private theorem yields_of_answer
    (run : (machine compats visibility).Reaches (honest behaves) (.initial .new) config)
    {index : Nat} {thread : Θ} {task : SpawnTask.Task D} {id : RawId}
    {member : TaskJoin.State W V T P}
    (found : (SpawnTask.tasks (lefts config.trace))[index]? = some (thread, task))
    (reached : (TaskJoin.machine visibility).Reaches .any (.initial (.new id))
      ⟨memberTrace index (rights config.trace), member⟩)
    {answer : InnerAnswer T P} (given : answer ∈ answers index config.trace)
    (final : answer ≠ .pending) : Yields behaves task.future answer := by
  rcases behaved_of_reaches run index thread task found with none | behaved
  · rw [none] at given
    cases given
  · have some : answers index config.trace ≠ [] := List.ne_nil_of_mem given
    have split := (List.dropLast_append_getLast some).symm
    have pendings := TaskFuture.pendings_before_last (TaskJoin.task_reaches reached) split
    rw [split] at given behaved
    rcases List.mem_append.mp given with earlier | last
    · exact absurd (pendings answer earlier) final
    · rw [List.mem_singleton.mp last]
      exact ⟨_, pendings, behaved⟩

/-- What is joined through the handle of a call is told once, and of the future of that call. -/
def Honoured (behaves : D → List (InnerAnswer T P) → Prop) (call : SpawnTask.Locals D)
    (trace : List (Event Θ S F D W V T P)) : Prop :=
  ∃ handle, call.handle = some handle ∧ (joined handle.shared (rights trace)).length ≤ 1 ∧
    ∀ output ∈ joined handle.shared (rights trace),
      Tells behaves call.future handle.id.toId (taskTrace handle.shared (rights trace)) output

/-- Whoever runs or drops the tasks, and on whatever threads they are spawned, a
joiner is told of the future that was given to the call whose handle it polls. -/
theorem joiners_are_told_of_their_futures
    (run : (machine compats visibility).Reaches (honest behaves) (.initial .new) config)
    {thread : Θ} {call : SpawnTask.Locals D}
    (returned : (thread, call) ∈ SpawnTask.returns (lefts config.trace)) :
    Honoured behaves call config.trace := by
  have made : SpawnTask.Made (SpawnTask.tasks (lefts config.trace)) thread call :=
    (SpawnTask.kept_of_reaches run.left).returned thread call returned
  obtain ⟨handle, task, member, same, future, found, reached⟩ := member_of_made run made
  have learns {output : Except (JoinError P) T}
      (told : output ∈ joined handle.shared (rights config.trace)) :
      Learns handle.id (taskTrace handle.shared (rights config.trace)) output :=
    TaskJoin.learns_of_delivered reached told
  refine ⟨handle, same, ?once, fun output told => ⟨?value, ?payload, ?cancelled, ?named⟩⟩
  case once => exact (TaskJoin.linked_of_reaches reached).delivered_once reached.right
  case value =>
    intro value ok
    rw [← future]
    exact yields_of_answer run found reached (((learns told).value value).mp ok) nofun
  case payload =>
    intro error payload failed resumed
    rw [← future]
    exact yields_of_answer run found reached
      (((learns told).payload payload).mp ⟨error, failed, resumed⟩) nofun
  case cancelled =>
    intro error failed cancelled
    exact (learns told).because ⟨error, failed, cancelled⟩
  case named => exact (learns told).named

end Runs

def slowly (future : Nat) (answers : List (InnerAnswer Nat Nat)) : Prop :=
  answers <+: [.pending, .ready future]

instance (future : Nat) (answers : List (InnerAnswer Nat Nat)) :
    Decidable (slowly future answers) := by
  unfold slowly
  infer_instance

def stepsOf (index : Nat) (actions : List (TaskJoin.Action Nat Nat Nat Nat)) :
    List (Action Bool Nat Nat Nat Nat Nat Nat Nat) :=
  actions.map fun action => .right (.member index action)

/-- Two threads spawn and both tasks are polled; the later one ends and is joined. -/
def crossingSpawns : List (Action Bool Nat Nat Nat Nat Nat Nat Nat) :=
  [.left ⟨false, .enter 1, .new, 0⟩, .left ⟨true, .enter 2, .new, 0⟩,
    .both ⟨false, .spawn (.ok 9), .new, 10⟩, .both ⟨true, .spawn (.ok 9), .new, 20⟩,
    .left ⟨true, .spawned, .new, 0⟩] ++
  stepsOf 1 [.left (.poll 5), .left .check, .left .pollInner, .left (.innerReturn .pending),
    .left (.newBox 3), .left .updateLoad, .left .updateExchange, .left .updateReturn] ++
  stepsOf 0 [.left (.poll 4), .left .check, .left .pollInner, .left (.innerReturn .pending)] ++
  stepsOf 1 [.left (.poll 5), .left .check, .left .pollInner, .left (.innerReturn (.ready 20)),
    .left (.dropFuture false), .both 0, .right .wakeReplace, .right .wakeStore,
    .right .wakeMatch, .left .returnWake, .right (.pollLoad 9 1), .right .pollReplace]

theorem joiners_are_told_of_their_futures_crossing :
    ∃ config call, (machine (none : Option (List (Compat Unit Nat))) .latest).exec (honest slowly)
        (.initial .new) crossingSpawns = some config ∧
      SpawnTask.returns (lefts config.trace) = [(true, call)] ∧ call.future = 20 ∧
      joined 1 (rights config.trace) = [.ok 20] ∧ Honoured slowly call config.trace := by
  have ran : ((machine (none : Option (List (Compat Unit Nat))) .latest).exec (honest slowly)
      (.initial .new) crossingSpawns).map (fun config =>
        (SpawnTask.returns (lefts config.trace), joined 1 (rights config.trace))) =
      some ([(true, ⟨.default, 20, some ⟨⟨2⟩, 1⟩⟩)], [.ok 20]) := by decide +kernel
  obtain ⟨config, executed, reads⟩ := Option.map_eq_some_iff.mp ran
  rw [Prod.mk.injEq] at reads
  have run : (machine (none : Option (List (Compat Unit Nat))) .latest).Reaches (honest slowly)
      (.initial .new) config := reaches_of_exec crossingSpawns executed
  exact ⟨config, _, executed, reads.1, rfl, reads.2,
    joiners_are_told_of_their_futures run (reads.1 ▸ List.mem_singleton_self _)⟩

end SpawnJoin

end Spawns
