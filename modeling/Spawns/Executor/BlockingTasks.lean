/-
The tasks of a `Blocking` executor beside its threads.

The executor is shared by the caller and the workers, each of which runs it or
has left. Whoever runs it may poll the tasks, one at a time on each thread, and the
last of them to let go of it runs its destructor. `async_executor::Executor` is a
parameter: which tasks it polls and which it drops. Tasks are spawned by the main
future and by other tasks. Destructors of inner futures are taken to return.
-/

import Spawns.Executor.Blocking
import Spawns.Executor.TaskPool

namespace Spawns

open EventMachine PoolEvent

open Machine (reaches_of_exec)

namespace BlockingTasks

variable {S O T P : Type}

def mainRuns (call : Blocking.State S O) : Bool :=
  match call.point with
  | .runningUntil => true
  | _ => false

def isRunning (worker : Blocking.Worker) : Bool :=
  match worker.point with
  | .running => true
  | .returned => false

def runners (call : Blocking.State S O) : Nat :=
  (mainRuns call).toNat + call.workers.countP isRunning

def alive (call : Blocking.State S O) : Bool :=
  decide (.executor ∈ call.locals) || call.workers.any isRunning

/-- The executor owns a task, and a thread takes one at a time: one of those that run
it, or the one on which it is destroyed. -/
def taskMay (tasks : Tasks.State T P) (call : Blocking.State S O) :
    TaskFuture.Action Party T P → Bool
  | .poll _ => decide (Tasks.busy tasks < runners call)
  | .drop =>
      if alive call then decide (Tasks.busy tasks < runners call)
      else decide (Tasks.busy tasks = 0)
  | _ => true

/-- `ExecutorSpawner` is reached from the scopes of `run_until` alone, by the main
future and by tasks on a thread that runs the executor. -/
def admits (tasks : Tasks.State T P) (call : Blocking.State S O) : Tasks.Action T P → Bool
  | .create _ => mainRuns call || (decide (0 < Tasks.busy tasks) && decide (0 < runners call))
  | .member _ (.left action) => taskMay tasks call action
  | .member _ _ => true

/-- A thread that is inside a task neither polls the signal nor leaves `run`. -/
def coupling : Coupling (Tasks.State T P) (Blocking.State S O) (Tasks.Action T P)
    (Blocking.Action O) Empty where
  leftAlone state action := admits state.1 state.2 action
  rightAlone state
    | .pollWorker _ => decide (Tasks.busy state.1 < runners state.2)
    | .mainEnds _ => decide (Tasks.busy state.1 < runners state.2)
    | _ => true
  together _ shared := nomatch shared

abbrev State (S O T P : Type) := Tasks.State T P × Blocking.State S O

abbrev Action (O T P : Type) := ProductAction (Tasks.Action T P) (Blocking.Action O) Empty

abbrev Event (O T P : Type) := Tasks.Event T P ⊕ Blocking.Event O

def machine (visibility : Visibility) (library : AsyncShutdown S) (returns : Bool → Bool)
    (setting : Blocking.Setting) : Machine (State S O T P) (Action O T P) (Event O T P) :=
  Machine.product (Tasks.machine visibility) (Blocking.machine library returns setting) coupling

def State.new (library : AsyncShutdown S) : State S O T P := ([], .new library)

/-! ### What the executor does -/

/-- The destructor of the executor runs once nobody has a reference to it. -/
def permits (pool : FuturePool) (config : Config (State S O T P) (Event O T P)) :
    Action O T P → Bool
  | .left (.member index (.left (.poll _))) =>
      pool.polls (!alive config.state.2) (Tasks.history (lefts config.trace)) index
  | .left (.member index (.left .drop)) =>
      pool.drops (!alive config.state.2) (Tasks.history (lefts config.trace)) index
  -- Destructors of inner futures return.
  | .left (.member _ (.left (.dropFuture panics))) => !panics
  | _ => true

def pooled (pool : FuturePool) : Guard (State S O T P) (Action O T P) (Event O T P) :=
  fun config action => permits pool config action = true

instance (pool : FuturePool) (config : Config (State S O T P) (Event O T P))
    (action : Action O T P) : Decidable (pooled pool config action) :=
  inferInstanceAs (Decidable (_ = true))

variable {pool : FuturePool} {visibility : Visibility} {library : AsyncShutdown S}
  {returns : Bool → Bool} {setting : Blocking.Setting} {state next : State S O T P}
  {action : Action O T P} {events : List (Event O T P)}

/-! ### One step of the whole -/

private theorem tasks_step
    (stepped : (machine visibility library returns setting).step state action =
      some (next, events)) :
    (∃ own, FamilyStep (TaskJoin.machine visibility) TaskJoin.State.new state.1 own next.1
        (lefts events) ∧ action = .left own ∧ admits state.1 state.2 own = true ∧
        next.2 = state.2) ∨
      (next.1 = state.1 ∧ lefts events = []) := by
  cases productStep_of_step stepped with
  | left own moved shown alone moves =>
      rw [lefts_map_inl]
      exact .inl ⟨own, familyStep_of_step moves, rfl, alone, rfl⟩
  | right own moved shown => exact .inr ⟨rfl, lefts_map_inr shown⟩
  | both shared => cases shared

private theorem call_step
    (stepped : (machine visibility library returns setting).step state action =
      some (next, events)) :
    (∃ own, Blocking.Transition library returns setting state.2 own next.2 (rights events) ∧
        next.1 = state.1) ∨
      (next.2 = state.2 ∧ rights events = []) := by
  cases productStep_of_step stepped with
  | left own moved shown => exact .inr ⟨rfl, rights_map_inl shown⟩
  | right own moved shown _ moves =>
      rw [rights_map_inr]
      exact .inl ⟨own, Blocking.transition_of_step moves, rfl⟩
  | both shared => cases shared

/-! ### Nothing is left when everything has come to rest -/

variable {guard : Guard (State S O T P) (Action O T P) (Event O T P)}
  {config later : Config (State S O T P) (Event O T P)}

/-- No task is inside a call, no worker can poll its signal, and the executor does not
drop a task next. -/
structure Quiet (visibility : Visibility) (library : AsyncShutdown S) (returns : Bool → Bool)
    (setting : Blocking.Setting) (pool : FuturePool)
    (config : Config (State S O T P) (Event O T P)) : Prop where
  rest : Tasks.busy config.state.1 = 0
  workers : ∀ worker, (machine visibility library returns setting).step config.state
    (.right (.pollWorker worker)) = none
  drops : ∀ index, pooled pool config (.left (.member index (.left .drop))) →
    (machine visibility library returns setting).step config.state
      (.left (.member index (.left .drop))) = none

private theorem tasks_reaches
    (run : (machine visibility library returns setting).Reaches guard (.initial (.new library))
      config) :
    (Tasks.machine visibility).Reaches .any (.initial [])
      ⟨lefts config.trace, config.state.1⟩ := run.left

private theorem call_reaches
    (run : (machine visibility library returns setting).Reaches guard (.initial (.new library))
      config) :
    (Blocking.machine library returns setting).Reaches .any (.initial (.new library))
      config.right := run.right

private theorem locals_of_ended
    (run : (machine visibility library returns setting).Reaches guard (.initial (.new library))
      config) {outcome : Blocking.Outcome O} (ended : config.state.2.point = .ended outcome) :
    config.state.2.locals = [] := by
  have always : ∀ outcome, config.right.state.point = .ended outcome →
      config.right.state.locals = [] := by
    apply (call_reaches run).invariant (fun call => ∀ outcome,
      call.state.point = .ended outcome → call.state.locals = [])
    · rintro outcome ⟨⟩
    intro before action next events _reached old _allowed stepped
    cases Blocking.transition_of_step stepped with
    | ends _ _ locals => exact fun _ _ => locals
    | workerStops | workerGoesOn => exact old
    | startsAlone | starts | creates | fails | guards | mainEnds => rintro _ ⟨⟩
    | drops _ _ _ point =>
        intro outcome ended
        rw [show before.state.point = .ended outcome from ended] at point
        cases point
  exact always outcome ended

theorem calm_of_reaches
    (run : (machine visibility library returns setting).Reaches (pooled pool)
      (.initial (.new library)) config) : Tasks.Calm (lefts config.trace) := by
  apply run.invariant (fun config => Tasks.Calm (lefts config.trace)) nofun
  intro before action next events _reached calm allowed stepped event member
  rw [lefts_append] at member
  rcases List.mem_append.mp member with old | new
  · exact calm event old
  · rcases tasks_step stepped with ⟨own, step, rfl, _⟩ | ⟨_, silent⟩
    · cases event with
      | created => rfl
      | member index shown =>
          rcases shown with shown | shown
          · cases shown with
            | futureDropped panicked =>
                cases panicked with
                | false => rfl
                | true =>
                    have inside := Tasks.mem_taskTrace.mpr new
                    cases step.at index with
                    | rests _ _ silent | born _ _ _ silent =>
                        rw [Tasks.taskTrace, silent] at inside
                        cases inside
                    | moves act _ _ _ _ moves =>
                        obtain rfl := TaskJoin.step_panicked moves inside
                        cases allowed
            | _ => rfl
          · rfl
    · rw [silent] at new
      cases new

private theorem not_running_of_quiet (quiet : Quiet visibility library returns setting pool config)
    {worker : Nat} {name : String} :
    config.state.2.workers[worker]? ≠ some ⟨name, .running⟩ := by
  intro found
  have inside : (⟨name, .running⟩ : Blocking.Worker) ∈ config.state.2.workers :=
    List.mem_of_getElem? found
  have runs : 0 < runners config.state.2 := by
    have counted : 0 < config.state.2.workers.countP isRunning :=
      List.countP_pos_iff.mpr ⟨_, inside, rfl⟩
    unfold runners
    omega
  have stuck := quiet.workers worker
  have allowed : coupling.rightAlone config.state
      (.pollWorker worker : Blocking.Action O) = true := by
    simp only [coupling, quiet.rest, runs, decide_true]
  have moves : ∃ moved shown, (Blocking.machine library returns setting).step config.state.2
      (.pollWorker worker) = some (moved, shown) := by
    simp only [Blocking.machine, Blocking.pollWorker, found]
    split
    · exact ⟨_, _, rfl⟩
    · exact ⟨_, _, rfl⟩
  obtain ⟨moved, shown, moves⟩ := moves
  rw [machine, Machine.product_right allowed moves] at stuck
  cases stuck

private theorem call_rests {outcome : Blocking.Outcome O} (ended : state.2.point = .ended outcome)
    (none : ∀ (worker : Nat) name, state.2.workers[worker]? ≠ some ⟨name, .running⟩)
    (stepped : (machine visibility library returns setting).step state action =
      some (next, events)) : next.2 = state.2 := by
  rcases call_step stepped with ⟨own, transition, _⟩ | ⟨same, _⟩
  · generalize next.2 = after at transition
    generalize rights events = shown at transition
    cases transition with
    | workerStops worker name found | workerGoesOn worker name found =>
        exact absurd found (none worker name)
    | startsAlone point | starts point | creates _ point | fails _ point | guards _ point
    | mainEnds _ point | drops _ _ _ point | ends _ point =>
        rw [ended] at point
        cases point
  · exact same

private theorem nobody_runs {call : Blocking.State S O} {outcome : Blocking.Outcome O}
    (ended : call.point = .ended outcome)
    (none : ∀ (worker : Nat) name, call.workers[worker]? ≠ some ⟨name, .running⟩) :
    mainRuns call = false ∧ call.workers.any isRunning = false := by
  have still : ∀ worker ∈ call.workers, ¬ isRunning worker = true := by
    rintro ⟨name, point⟩ member runs
    obtain ⟨index, found⟩ := List.mem_iff_getElem?.mp member
    cases point with
    | running => exact none index name found
    | returned => cases runs
  constructor
  · rw [mainRuns, ended]
  · rw [List.any_eq_false]
    exact still

private theorem drop_moves {task : TaskJoin.State Party Party T P} (rests : task.1.point = .idle) :
    ∃ moved shown, (TaskJoin.machine visibility).step task (.left .drop) =
      some (moved, shown) := by
  have moves : ∃ moved shown, TaskFuture.machine.step task.1 .drop = some (moved, shown) := by
    simp only [TaskFuture.machine, TaskFuture.drop, rests]
    split
    · exact ⟨_, _, rfl⟩
    · exact ⟨_, _, rfl⟩
  obtain ⟨moved, shown, moves⟩ := moves
  exact ⟨_, _, Machine.product_left rfl moves⟩

/-- The executor is gone, every task is settled, and nothing is polled any more. -/
structure AllSettled (visibility : Visibility) (library : AsyncShutdown S)
    (returns : Bool → Bool) (setting : Blocking.Setting)
    (config : Config (State S O T P) (Event O T P)) : Prop where
  gone : alive config.state.2 = false
  settled : ∀ (index : Nat) task, config.state.1[index]? = some task →
    Tasks.Settled visibility (lefts config.trace) index task
  final : ∀ later, (machine visibility library returns setting).Reaches .any config later →
    later.state.1.length = config.state.1.length ∧
      ∀ (index : Nat) task, config.state.1[index]? = some task →
        TaskFuture.innerStarts (Tasks.taskTrace index (lefts later.trace)) =
          TaskFuture.innerStarts (Tasks.taskTrace index (lefts config.trace))

/-- An executor that nobody holds has dropped every task before it comes to rest. -/
private theorem allDropped_of_quiet (lawful : pool.Lawful)
    (run : (machine visibility library returns setting).Reaches guard (.initial (.new library))
      config) (gone : alive config.state.2 = false)
    (quiet : Quiet visibility library returns setting pool config) :
    Tasks.AllDropped config.state.1 := by
  apply Tasks.allDropped_of_empty (tasks_reaches run) quiet.rest
  intro future left
  obtain ⟨index, task, found, idle, drops⟩ :=
    Tasks.exists_drop lawful (tasks_reaches run) quiet.rest ⟨future, left⟩
  obtain ⟨moved, shown, moves⟩ : ∃ moved shown,
      (TaskJoin.machine visibility).step task (.left .drop) = some (moved, shown) :=
    drop_moves idle
  have allowed : coupling.leftAlone config.state
      (.member index (.left .drop) : Tasks.Action T P) = true := by
    simp [coupling, admits, taskMay, gone, quiet.rest]
  have enabled : (machine visibility library returns setting).step config.state
      (.left (.member index (.left .drop))) = some _ :=
    Machine.product_left allowed (Machine.family_member found moves)
  have permitted : pooled pool config (.left (.member index (.left .drop)) : Action O T P) := by
    change pool.drops (!alive config.state.2) _ index = true
    rw [gone]
    exact drops
  rw [quiet.drops index permitted] at enabled
  cases enabled

private theorem all_settled_of_quiet {outcome : Blocking.Outcome O} (lawful : pool.Lawful)
    (run : (machine visibility library returns setting).Reaches (pooled pool)
      (.initial (.new library)) config) (ended : config.state.2.point = .ended outcome)
    (quiet : Quiet visibility library returns setting pool config) :
    AllSettled visibility library returns setting config := by
  have none (worker : Nat) (name : String) :
      config.state.2.workers[worker]? ≠ some ⟨name, .running⟩ := not_running_of_quiet quiet
  obtain ⟨idle, stopped⟩ := nobody_runs ended none
  have gone : alive config.state.2 = false := by
    rw [alive, locals_of_ended run ended, stopped]
    rfl
  have dropped := allDropped_of_quiet lawful run gone quiet
  refine ⟨gone, ?_, ?_⟩
  · intro index task found
    exact Tasks.settled_of_dropped (tasks_reaches run) found (dropped index task found)
      (calm_of_reaches run)
  · intro later continued
    have still : later.state.2 = config.state.2 ∧ Tasks.AllDropped later.state.1 ∧
        later.state.1.length = config.state.1.length := by
      apply continued.invariant (fun later => later.state.2 = config.state.2 ∧
        Tasks.AllDropped later.state.1 ∧ later.state.1.length = config.state.1.length)
        ⟨rfl, dropped, rfl⟩
      rintro before action next events _reached ⟨same, all, count⟩ _allowed stepped
      have rests := call_rests (same ▸ ended) (same ▸ none) stepped
      refine ⟨rests.trans same, ?_⟩
      rcases tasks_step stepped with ⟨own, step, _, may, _⟩ | ⟨kept, _⟩
      · have unborn (id : RawId) : own ≠ .create id := by
          rintro rfl
          have rests : Tasks.busy before.state.1 = 0 := by
            apply Tasks.busy_eq_zero.mpr
            intro index task found
            rw [Tasks.isBusy, all index task found]
          simp [admits, same, idle, rests] at may
        obtain ⟨allNow, countNow⟩ := all.step unborn step
        exact ⟨allNow, countNow.trans count⟩
      · exact ⟨kept ▸ all, by rw [kept, count]⟩
    refine ⟨still.2.2, ?_⟩
    intro index task found
    exact Tasks.innerStarts_final (tasks_reaches run) found (dropped index task found)
      continued.left

/-- Where a worker could not be created the main future never runs, and spawns nothing. -/
private theorem creates_of_tasks
    (run : (machine visibility library returns setting).Reaches guard (.initial (.new library))
      config) (some : config.state.1 ≠ []) : setting.CreatesAll := by
  have always : config.state.1 ≠ [] → setting.CreatesAll := by
    apply run.invariant (fun config => config.state.1 ≠ [] → setting.CreatesAll)
    · intro some
      exact absurd rfl some
    intro before action next events reached old _allowed stepped some
    rcases tasks_step stepped with ⟨own, step, _, may, _⟩ | ⟨same, _⟩
    · generalize next.1 = moved at step
      generalize lefts events = shown at step
      cases step with
      | creates seed =>
          simp only [admits, Bool.or_eq_true, Bool.and_eq_true, decide_eq_true_eq] at may
          rcases may with main | ⟨inside, _⟩
          · have stands := Blocking.stands_of_reaches (call_reaches reached)
            have point : before.right.state.point = .runningUntil := by
              unfold mainRuns at main
              split at main
              · assumption
              · cases main
            rw [Blocking.Stands, point] at stands
            exact stands.1
          · apply old
            intro none
            rw [none] at inside
            exact Nat.lt_irrefl 0 inside
      | moves index act task after shown found =>
          apply old
          intro none
          rw [none] at found
          cases found
    · exact old (same ▸ some)
  exact always some

/-- All tasks are cancelled sooner or later: where there is one, each worker leaves the
executor when it next looks, and when all has come to rest each task has ended. -/
theorem tasks_end_after_return {outcome : Blocking.Outcome O} (lawful : library.Lawful)
    (stops : returns true = true) (keeper : pool.Lawful)
    (run : (machine visibility library returns setting).Reaches (pooled pool)
      (.initial (.new library)) config) (ended : config.state.2.point = .ended outcome) :
    (config.state.1 ≠ [] → Blocking.Dismissed library returns config.right) ∧
      (Quiet visibility library returns setting pool config →
        AllSettled visibility library returns setting config) := by
  constructor
  · intro some
    have all := creates_of_tasks run some
    have stands := Blocking.stands_of_reaches (call_reaches run)
    rw [Blocking.Stands, show config.right.state.point = .ended outcome from ended] at stands
    rcases stands with ⟨_, triggered⟩ | ⟨failed, _⟩
    · exact Blocking.dismissed_of_triggered lawful stops (call_reaches run) triggered
    · exact absurd all failed
  · exact all_settled_of_quiet keeper run ended

private theorem quiet_of_over (none : config.state.2.workers.any isRunning = false)
    (gone : Tasks.AllDropped config.state.1) :
    Quiet visibility library returns setting pool config := by
  constructor
  · apply Tasks.busy_eq_zero.mpr
    intro index task found
    rw [Tasks.isBusy, gone index task found]
  · intro worker
    have stuck : (Blocking.machine library returns setting).step config.state.2
        (.pollWorker worker) = Option.none := by
      simp only [Blocking.machine, Blocking.pollWorker]
      split
      · rename_i name found
        have runs := List.any_eq_false.mp none _ (List.mem_of_getElem? found)
        exact absurd rfl runs
      · rfl
    simp only [machine, Machine.product, stuck, ite_self]
  · intro index _permitted
    have stuck : (Tasks.machine visibility).step config.state.1 (.member index (.left .drop)) =
        Option.none := by
      simp only [Tasks.machine, Machine.family]
      split
      · rename_i task found
        simp [TaskJoin.machine, Machine.product, TaskFuture.machine, TaskFuture.drop,
          gone index task found]
      · rfl
    simp only [machine, Machine.product, stuck, ite_self]

def acts (index : Nat) (actions : List (TaskJoin.Action Party Party T P)) :
    List (Action O T P) := (Tasks.acts index actions).map .left

def twoThreads : Blocking.Setting := ⟨⟨2⟩, none, fun _ => true⟩

/-- One task is done and one waits for ever; the call returns, and the worker, which
leaves last, drops the task that waits. -/
def returnsBeforeTask : List (Action Nat Nat Nat) :=
  [.right .start, .right .spawn, .right .spawn, .left (.create ⟨1⟩), .left (.create ⟨2⟩)] ++
    acts 0 [.left (.poll (.task 0)), .left .check, .left .pollInner,
      .left (.innerReturn (.ready 42)), .left (.dropFuture false), .both 0,
      .right .wakeReplace, .right .wakeStore, .right .wakeMatch, .left .returnWake,
      .left .drop, .left .dropFields] ++
    acts 1 [.left (.poll (.task 1)), .left .check, .left .pollInner,
      .left (.innerReturn .pending), .left (.newBox 8), .left .updateLoad,
      .left .updateExchange, .left .updateReturn] ++
    [.right (.mainEnds (.returned 9)), .right .leave, .right .leave, .right .leave, .right .leave,
      .right .leave, .right (.pollWorker 0)] ++
    acts 1 [.left .drop, .left (.dropFuture false), .both 0, .right .wakeReplace,
      .right .wakeStore, .right .wakeMatch, .left .returnWake, .left .dropFields]

def ending? (call : Blocking.State S O) : Option (Blocking.Outcome O) :=
  match call.point with
  | .ended outcome => some outcome
  | _ => none

private theorem ending?_eq_some {call : Blocking.State S O} {outcome : Blocking.Outcome O} :
    ending? call = some outcome ↔ call.point = .ended outcome := by
  unfold ending?
  split <;> simp_all

theorem tasks_end_after_return_waiting :
    ∃ config : Config (State Bool Nat Nat Nat) (Event Nat Nat Nat),
      (machine .latest Blocking.shutdownFlag id twoThreads).exec (pooled .eager)
        (.initial (.new Blocking.shutdownFlag)) returnsBeforeTask = some config ∧
      config.state.1.length = 2 ∧ Blocking.Dismissed Blocking.shutdownFlag id config.right ∧
      AllSettled .latest Blocking.shutdownFlag id twoThreads config := by
  have ran : ((machine .latest Blocking.shutdownFlag id twoThreads).exec (pooled .eager)
      (.initial (.new Blocking.shutdownFlag)) returnsBeforeTask).map (fun config =>
        (ending? config.state.2, config.state.1.length, config.state.2.workers.any isRunning,
          Tasks.allDropped config.state.1)) = some (some (.returned 9), 2, false, true) := by
    decide +kernel
  obtain ⟨config, executed, reads⟩ := Option.map_eq_some_iff.mp ran
  simp only [Prod.mk.injEq] at reads
  obtain ⟨ended, two, none, gone⟩ := reads
  have some : config.state.1 ≠ [] := by
    intro empty
    rw [empty] at two
    cases two
  obtain ⟨dismissed, settled⟩ := tasks_end_after_return Blocking.shutdownFlag_lawful rfl
    FuturePool.eager_lawful (reaches_of_exec returnsBeforeTask executed) (ending?_eq_some.mp ended)
  exact ⟨config, executed, two, dismissed some,
    settled (quiet_of_over none (Tasks.allDropped_iff.mp gone))⟩

/-! ### Nothing is dropped while the executor is held -/

/-- Nobody runs before the executor is made, and it is held until the call is left. -/
structure Held (state : State S O T P) : Prop where
  entered : state.2.point = .entered → state.1 = [] ∧ state.2.workers = []
  spawning : ∀ index, state.2.point = .spawning index → .executor ∈ state.2.locals
  running : state.2.point = .runningUntil → .executor ∈ state.2.locals

private theorem Held.call {own : Blocking.Action O} {call : Blocking.State S O}
    {shown : List (Blocking.Event O)} (held : Held state)
    (transition : Blocking.Transition library returns setting state.2 own call shown) :
    Held (state.1, call) := by
  obtain ⟨entered, spawning, running⟩ := held
  cases transition with
  | startsAlone | fails | mainEnds | ends => exact ⟨nofun, nofun, nofun⟩
  | starts => exact ⟨nofun, fun _ _ => by simp, nofun⟩
  | creates index point => exact ⟨nofun, fun _ _ => spawning index point, nofun⟩
  | guards index point =>
      exact ⟨nofun, nofun, fun _ => List.mem_cons_of_mem _ (spawning index point)⟩
  | drops outcome dropped rest point =>
      constructor
      · intro here
        rw [show state.2.point = .entered from here] at point
        cases point
      · intro index here
        rw [show state.2.point = .spawning index from here] at point
        cases point
      · intro here
        rw [show state.2.point = .runningUntil from here] at point
        cases point
  | workerStops worker name found =>
      refine ⟨?_, spawning, running⟩
      intro here
      rw [(entered here).2] at found
      cases found
  | workerGoesOn => exact ⟨entered, spawning, running⟩

private theorem Held.tasks {own : Tasks.Action T P} {moved : Tasks.State T P}
    {shown : List (Tasks.Event T P)} (held : Held state)
    (may : admits state.1 state.2 own = true)
    (step : FamilyStep (TaskJoin.machine visibility) TaskJoin.State.new state.1 own moved shown) :
    Held (moved, state.2) := by
  obtain ⟨entered, spawning, running⟩ := held
  refine ⟨?_, spawning, running⟩
  intro here
  obtain ⟨noTasks, noWorkers⟩ := entered here
  refine ⟨?_, noWorkers⟩
  cases step with
  | creates seed =>
      have point : state.2.point = .entered := here
      simp [admits, mainRuns, point, noTasks, Tasks.busy] at may
  | moves index act before after shown found =>
      rw [noTasks] at found
      cases found

theorem held_of_reaches
    (run : (machine visibility library returns setting).Reaches guard (.initial (.new library))
      config) : Held config.state := by
  apply run.invariant (fun config => Held config.state) ⟨fun _ => ⟨rfl, rfl⟩, nofun, nofun⟩
  intro before action next events _reached held _allowed stepped
  rcases tasks_step stepped with ⟨own, step, _, may, same⟩ | ⟨same, _⟩
  · have kept := held.tasks may step
    rwa [← same] at kept
  · rcases call_step stepped with ⟨own, transition, _⟩ | ⟨still, _⟩
    · have kept := held.call transition
      rwa [← same] at kept
    · rw [show next = before.state from Prod.ext same still]
      exact held

/-- The executor is made once: whoever holds it now held it before. -/
private theorem Held.alive_of_step {own : Blocking.Action O} {call : Blocking.State S O}
    {shown : List (Blocking.Event O)} (held : Held state)
    (transition : Blocking.Transition library returns setting state.2 own call shown)
    (live : alive call = true) : alive state.2 = true ∨ state.2.point = .entered := by
  simp only [alive, Bool.or_eq_true, decide_eq_true_eq] at live ⊢
  cases transition with
  | startsAlone point | starts point => exact .inr point
  | creates index point => exact .inl (.inl (held.spawning index point))
  | guards index point => exact .inl (.inl (held.spawning index point))
  | mainEnds outcome point => exact .inl (.inl (held.running point))
  | fails | ends | workerGoesOn => exact .inl live
  | drops outcome dropped rest point locals =>
      left
      rcases live with holds | runs
      · left
        rw [locals]
        exact List.mem_cons_of_mem dropped holds
      · exact .inr runs
  | workerStops worker name found =>
      left
      rcases live with holds | _
      · exact .inl holds
      · right
        rw [List.any_eq_true]
        exact ⟨_, List.mem_of_getElem? found, rfl⟩

private theorem entered_of_step {own : Blocking.Action O} {before after : Blocking.State S O}
    {shown : List (Blocking.Event O)}
    (transition : Blocking.Transition library returns setting before own after shown)
    (entered : after.point = .entered) : before.point = .entered := by
  cases transition with
  | workerStops | workerGoesOn => exact entered
  | drops _ _ _ point => exact entered
  | startsAlone | starts | creates | fails | guards | mainEnds | ends => cases entered

private theorem undropped_of_alive (lawful : pool.Lawful)
    (run : (machine visibility library returns setting).Reaches (pooled pool)
      (.initial (.new library)) config) (live : alive config.state.2 = true) (index : Nat) :
    .dropBegan true ∉ Tasks.taskTrace index (lefts config.trace) := by
  have always : alive config.state.2 = true ∨ config.state.2.point = .entered →
      .dropBegan true ∉ Tasks.taskTrace index (lefts config.trace) := by
    apply run.invariant (fun config => alive config.state.2 = true ∨
      config.state.2.point = .entered →
        .dropBegan true ∉ Tasks.taskTrace index (lefts config.trace)) fun _ => List.not_mem_nil
    intro before action next events reached old allowed stepped live
    have held := held_of_reaches reached
    rw [lefts_append, Tasks.taskTrace_append, List.mem_append]
    rcases tasks_step stepped with ⟨own, step, rfl, _, same⟩ | ⟨_, silent⟩
    · rw [same] at live
      rintro (earlier | new)
      · exact old live earlier
      · refine Tasks.undropped_of_step lawful (tasks_reaches reached) step ?_ new
        rintro rfl inRange
        rcases live with holds | entered
        · have drops : pool.drops (!alive before.state.2)
              (Tasks.history (lefts before.trace)) index = true := allowed
          rwa [holds] at drops
        · rw [(held.entered entered).1] at inRange
          cases inRange
    · rw [silent]
      rintro (earlier | new)
      · rcases call_step stepped with ⟨own, transition, _⟩ | ⟨same, _⟩
        · rcases live with holds | entered
          · exact old (held.alive_of_step transition holds) earlier
          · exact old (.inr (entered_of_step transition entered)) earlier
        · rw [same] at live
          exact old live earlier
      · cases new
  exact always (.inl live)

/-- While someone holds the executor, tasks are cancelled on request alone. -/
theorem cancelled_on_request (lawful : pool.Lawful)
    (run : (machine visibility library returns setting).Reaches (pooled pool)
      (.initial (.new library)) config) (live : alive config.state.2 = true) (index : Nat)
    (cancelled : .error .cancelled ∈
      TaskFuture.handed (Tasks.taskTrace index (lefts config.trace))) :
    TaskFuture.cancellations (Tasks.taskTrace index (lefts config.trace)) ≠ [] := by
  cases found : config.state.1[index]? with
  | none =>
      rw [Tasks.taskTrace, (tasks_reaches run).member_unborn found] at cancelled
      cases cancelled
  | some task =>
      obtain ⟨id, _, reached⟩ := Tasks.member_reaches (tasks_reaches run) found
      have progress : TaskFuture.Progress (Tasks.taskTrace index (lefts config.trace)) task.1 :=
        TaskFuture.progress_of_reaches (TaskJoin.task_reaches reached)
      obtain ⟨value, only, due⟩ := progress.due (List.ne_nil_of_mem cancelled)
      rw [only, List.mem_singleton] at cancelled
      subst cancelled
      rcases due with completed | ⟨_, _, called | dropped⟩
      · have impossible : .error .cancelled ∈
            TaskFuture.completions (Tasks.taskTrace index (lefts config.trace)) := by
          simp [completed]
        exact absurd impossible TaskFuture.cancelled_not_mem_completions
      · exact called
      · exact absurd dropped (undropped_of_alive lawful run live index)

def cancelsInPoll : List (Action Nat Nat Nat) :=
  [.right .start, .right .spawn, .right .spawn, .left (.create ⟨1⟩)] ++
    acts 0 [.left (.poll (.task 0)), .left .check, .left .pollInner, .left .cancel,
      .left (.cancelLoad 0), .left (.cancelExchange 0), .left (.innerReturn .pending),
      .left (.newBox 8), .left .updateLoad, .left .rejectBox, .left (.dropFuture false), .both 0]

theorem cancelled_on_request_in_poll :
    ∃ config : Config (State Bool Nat Nat Nat) (Event Nat Nat Nat),
      (machine .latest Blocking.shutdownFlag id twoThreads).exec (pooled .eager)
        (.initial (.new Blocking.shutdownFlag)) cancelsInPoll = some config ∧
      .error .cancelled ∈ TaskFuture.handed (Tasks.taskTrace 0 (lefts config.trace)) ∧
      TaskFuture.cancellations (Tasks.taskTrace 0 (lefts config.trace)) ≠ [] := by
  have ran : ((machine .latest Blocking.shutdownFlag id twoThreads).exec (pooled .eager)
      (.initial (.new Blocking.shutdownFlag)) cancelsInPoll).map (fun config =>
        (alive config.state.2, decide (.error .cancelled ∈
          TaskFuture.handed (Tasks.taskTrace 0 (lefts config.trace))))) = some (true, true) := by
    decide +kernel
  obtain ⟨config, executed, reads⟩ := Option.map_eq_some_iff.mp ran
  simp only [Prod.mk.injEq, decide_eq_true_eq] at reads
  exact ⟨config, executed, reads.2,
    cancelled_on_request FuturePool.eager_lawful (reaches_of_exec cancelsInPoll executed)
      reads.1 0 reads.2⟩

end BlockingTasks

end Spawns
