/-
`spawns_executor::block_on`: one thread that enters a scope of its own pool, runs
a main task and whatever it spawns until the main task is joined, and leaves the
scope and the pool.

`LocalPool` of the crate `futures` is a parameter: what it does with its futures,
and whether and when its `run_until` and its destructor come back. The handle of
the main task belongs to `run_until`. All other handles are anyone's, on any
thread, and user code on this thread may enter and drop scopes of its own.
-/

import Spawns.Core.SpawnScope
import Spawns.Executor.TaskPool

namespace Spawns

open EventMachine PoolEvent

/-- `futures::executor::LocalPool`: `spawn_obj` succeeds, the destructor returns,
`run_until` starts on a thread that is or is not inside an executor, and returns when a
poll of its future was ready or not. -/
structure LocalPool extends FuturePool where
  accepts (closing : Bool) (history : List PoolEvent) : Bool
  closes (history : List PoolEvent) : Bool
  runs (nested : Bool) : Bool
  returns (ready : Bool) : Bool

/-- It takes every future until it is dropped, which ends when none is left, and
`run_until` runs outside of executors and returns as soon as its future is ready. -/
structure LocalPool.Lawful (pool : LocalPool) : Prop extends pool.toFuturePool.Lawful where
  accepts : ∀ history, pool.accepts false history = true
  closes : ∀ history, pool.closes history = true → ∀ future, ¬ Left history future
  runs : pool.runs false = true
  returns : pool.returns true = true

def LocalPool.eager : LocalPool where
  toFuturePool := .eager
  accepts closing _ := !closing
  closes history := isEmpty history
  runs nested := !nested
  returns ready := ready

theorem LocalPool.eager_lawful : LocalPool.eager.Lawful where
  toLawful := FuturePool.eager_lawful
  accepts _ := rfl
  closes _ := isEmpty_iff.mp
  runs := rfl
  returns := rfl

namespace BlockOn

variable {S T P : Type}

/-- How `pool.run_until(spawn(future))` ends: with what its future answers, by a panic of
that future, by a pool that takes no task, refused inside another executor, or unwound by
a destructor. -/
inductive RunEnd (T P : Type) where
  | output (output : Except (JoinError P) T)
  | panicked (panic : JoinPanic)
  | notSpawned
  | refused
  | unwound

/-- How the call ends: `strayScope` is a panic of the destructor of its scope. -/
inductive Outcome (T : Type) where
  | returned (output : T)
  | panicked (message : String)
  | alreadyBorrowed
  | notSpawned
  | refused
  | unwound
  | strayScope (drop : ScopeDrop)
  | aborted
  deriving DecidableEq, Repr

def Outcome.panics : Outcome T → Bool
  | .returned _ => false
  | _ => true

def RunEnd.unwrap : RunEnd T P → Outcome T
  | .output (.ok value) => .returned value
  | .output (.error error) =>
      .panicked ("called `Result::unwrap()` on an `Err` value: " ++ error.debug)
  | .panicked panic => .panicked panic.message
  | .notSpawned => .notSpawned
  | .refused => .refused
  | .unwound => .unwound

/-- Where the call stands; in `leaving` the scope is gone and the pool is dropped. -/
inductive Point (T P : Type) where
  | called
  | entered
  | spawned
  | running
  | returning (result : RunEnd T P)
  | leaving (outcome : Outcome T)
  | ended (outcome : Outcome T)

/-- `cell` is `SPAWNER` of the thread, and `scope` the `_scope` of the call. -/
structure Call (S T P : Type) where
  point : Point T P
  cell : RefCell (Option S)
  scope : Option (SpawnScope S)

inductive CallAction (S T P : Type) where
  | enter
  | spawnMain
  | spawnFails
  | runUntil
  | refuse
  | answer (outcome : PollOutcome T P)
  | unwind
  | exchange (spawner : Option S)
  | leaveScope
  | finish

/-- `scopeDropped` shows the spawner that the destructor of the scope finds. -/
inductive CallEvent (S T : Type) where
  | scopeDropped (current : Option S)
  | ended (outcome : Outcome T)

/-- `let _scope = enter(&spawner)` -/
def enterScope (spawner : S) (state : Call S T P) :
    Option (Call S T P × List (CallEvent S T)) :=
  match state.point with
  | .called =>
      match enter state.cell spawner with
      | some (scope, cell) => some (⟨.entered, cell, some scope⟩, [])
      | none => some ({ state with point := .leaving .alreadyBorrowed }, [])
  | _ => none

/-- `_scope` is dropped; a panic on top of another aborts. -/
def leaveScope [DecidableEq S] (state : Call S T P) :
    Option (Call S T P × List (CallEvent S T)) :=
  match state.point, state.scope with
  | .returning result, some scope =>
      match scope.drop state.cell with
      | (.dropped, cell) =>
          some (⟨.leaving result.unwrap, cell, none⟩, [.scopeDropped state.cell.value])
      | (rejected, cell) =>
          if result.unwrap.panics then
            some (⟨.ended .aborted, cell, none⟩,
              [.scopeDropped state.cell.value, .ended .aborted])
          else
            some (⟨.leaving (.strayScope rejected), cell, none⟩,
              [.scopeDropped state.cell.value])
  | _, _ => none

/-- Code of the pool runs: `run_until`, also as it unwinds, or the destructor. -/
def Point.inPool : Point T P → Bool
  | .running => true
  | .returning _ => true
  | .leaving _ => true
  | _ => false

/-- User code on the thread, which a poll or the pool has called, enters a scope or
drops one. -/
def userExchange (state : Call S T P) (spawner : Option S) :
    Option (Call S T P × List (CallEvent S T)) :=
  if state.point.inPool then
    match exchange state.cell spawner with
    | some (_, cell) => some ({ state with cell := cell }, [])
    | none => none
  else none

/-- A destructor of a future panics out of the pool. Where that is being dropped the
futures that are left leak; a panic on top of another aborts. -/
def unwind (state : Call S T P) : Option (Call S T P × List (CallEvent S T)) :=
  match state.point with
  | .running => some ({ state with point := .returning .unwound }, [])
  | .leaving outcome =>
      if outcome.panics then some ({ state with point := .ended .aborted }, [.ended .aborted])
      else some ({ state with point := .ended .unwound }, [.ended .unwound])
  | _ => none

/-- The body of `block_on`, whose own `Spawner` is `spawner`. Between `enter` and
`run_until` no user code runs. -/
def call [DecidableEq S] (spawner : S) :
    Machine (Call S T P) (CallAction S T P) (CallEvent S T) where
  step state action :=
    match state.point, action with
    | _, .enter => enterScope spawner state
    | .entered, .spawnMain => some ({ state with point := .spawned }, [])
    | .entered, .spawnFails => some ({ state with point := .returning .notSpawned }, [])
    | .spawned, .runUntil => some ({ state with point := .running }, [])
    | .spawned, .refuse => some ({ state with point := .returning .refused }, [])
    | .running, .answer (.ready output) =>
        some ({ state with point := .returning (.output output) }, [])
    | .running, .answer (.panicked panic) =>
        some ({ state with point := .returning (.panicked panic) }, [])
    | _, .exchange other => userExchange state other
    | _, .unwind => unwind state
    | _, .leaveScope => leaveScope state
    | .leaving outcome, .finish =>
        some ({ state with point := .ended outcome }, [.ended outcome])
    | _, _ => none

/-! ### What the thread lets happen to the tasks -/

def Point.isRunning : Point T P → Bool
  | .running => true
  | _ => false

def Point.isReturning : Point T P → Bool
  | .returning _ => true
  | _ => false

def Point.isClosing : Point T P → Bool
  | .leaving _ => true
  | .ended _ => true
  | _ => false

/-- No task is inside a call, so the thread is free for the next one. -/
def atRest (tasks : Tasks.State T P) : Bool := decide (Tasks.busy tasks = 0)

/-- `spawn` on this thread reaches `Spawner::spawn` of the call. User code runs in the
polls and the destructors of tasks, and reaches the spawner through the cell alone. -/
def spawnsHere [DecidableEq S] (spawner : S) (state : Call S T P) : Bool :=
  (state.point.isRunning || state.point.isReturning) && decide (state.cell.value = some spawner)

def pollEnds (visibility : Visibility) (joint : Joint.State Party T P)
    (action : Joint.Action Party T P) : Option (PollOutcome T P) :=
  match (Joint.machine visibility).step joint action with
  | some (_, events) => (Joint.polls events).head?.map fun poll => poll.outcome
  | none => none

/-- `run_until` owns the handle of the main task, which it polls between the tasks and
drops when it is left. -/
def mainHandleMay (tasks : Tasks.State T P) (point : Point T P) :
    Joint.Action Party T P → Bool
  | .pollLoad _ _ => point.isRunning && atRest tasks
  | .dropStore => point.isReturning
  | _ => true

/-- The pool owns a task and runs on one thread. Whoever has the handle cancels. -/
def taskMay (tasks : Tasks.State T P) (point : Point T P) (index : Nat) :
    TaskFuture.Action Party T P → Bool
  | .poll _ => point.inPool && atRest tasks
  | .drop => point.inPool && atRest tasks
  | .cancel => decide (index ≠ 0)
  | _ => true

def admits [DecidableEq S] (spawner : S) (tasks : Tasks.State T P) (state : Call S T P) :
    Tasks.Action T P → Bool
  | .create _ => spawnsHere spawner state
  | .member index (.left action) => taskMay tasks state.point index action
  | .member 0 (.right action) => mainHandleMay tasks state.point action
  | .member _ _ => true

inductive Shared (T P : Type) where
  | spawnMain (id : RawId)
  | answer (action : Joint.Action Party T P)
  | unwinds (index : Nat)

/-- `spawn(future)` makes the main task, which is the first; `run_until` is given what
its handle answers; a destructor that panics may unwind the call. -/
def coupling [DecidableEq S] (visibility : Visibility) (spawner : S) :
    Coupling (Tasks.State T P) (Call S T P) (Tasks.Action T P) (CallAction S T P)
      (Shared T P) where
  leftAlone state action := admits spawner state.1 state.2 action
  rightAlone state
    | .spawnMain => false
    | .answer _ => false
    | .unwind => false
    | .leaveScope => atRest state.1
    | .finish => atRest state.1
    | _ => true
  together state
    | .spawnMain id => some (.create id, .spawnMain)
    | .answer action =>
        match state.1[0]? with
        | some main =>
            match pollEnds visibility main.2 action with
            | some outcome =>
                if mainHandleMay state.1 state.2.point action then
                  some (.member 0 (.right action), .answer outcome)
                else none
            | none => none
        | none => none
    | .unwinds index => some (.member index (.left (.dropFuture true)), .unwind)

abbrev State (S T P : Type) := Tasks.State T P × Call S T P

abbrev Action (S T P : Type) :=
  ProductAction (Tasks.Action T P) (CallAction S T P) (Shared T P)

abbrev Event (S T P : Type) := Tasks.Event T P ⊕ CallEvent S T

def State.new (cell : RefCell (Option S)) : State S T P := ([], ⟨.called, cell, none⟩)

def machine [DecidableEq S] (visibility : Visibility) (spawner : S) :
    Machine (State S T P) (Action S T P) (Event S T P) :=
  Machine.product (Tasks.machine visibility) (call spawner) (coupling visibility spawner)

/-! ### What the pool does -/

/-- `run_until` polls on after this step of the handle of the main task. -/
def goesOn (pool : LocalPool) (visibility : Visibility) (joint : Joint.State Party T P)
    (action : Joint.Action Party T P) : Bool :=
  match pollEnds visibility joint action with
  | some (.ready _) => !pool.returns true
  | some (.panicked _) => false
  | _ => true

def permits (pool : LocalPool) (visibility : Visibility) (nested : Bool)
    (config : Config (State S T P) (Event S T P)) : Action S T P → Bool
  | .both (.spawnMain _) => pool.accepts false (Tasks.history (lefts config.trace))
  | .left (.create _) => pool.accepts false (Tasks.history (lefts config.trace))
  | .right .spawnFails => !pool.accepts false (Tasks.history (lefts config.trace))
  | .right .runUntil => pool.runs nested
  | .right .refuse => !pool.runs nested
  | .right .finish => pool.closes (Tasks.history (lefts config.trace))
  | .left (.member index (.left (.poll _))) =>
      pool.polls config.state.2.point.isClosing (Tasks.history (lefts config.trace)) index
  | .left (.member index (.left .drop)) =>
      pool.drops config.state.2.point.isClosing (Tasks.history (lefts config.trace)) index
  | .left (.member 0 (.right action)) =>
      config.state.1[0]?.all fun main => goesOn pool visibility main.2 action
  | .both (.answer action) =>
      config.state.1[0]?.all fun main => !goesOn pool visibility main.2 action
  | _ => true

/-- Of what the program allows, this pool does some; `nested` is when the thread is
inside an executor already. -/
def pooled (pool : LocalPool) (visibility : Visibility) (nested : Bool) :
    Guard (State S T P) (Action S T P) (Event S T P) :=
  fun config action => permits pool visibility nested config action = true

instance (pool : LocalPool) (visibility : Visibility) (nested : Bool)
    (config : Config (State S T P) (Event S T P)) (action : Action S T P) :
    Decidable (pooled pool visibility nested config action) :=
  inferInstanceAs (Decidable (_ = true))

variable [DecidableEq S] {visibility : Visibility} {spawner : S} {pool : LocalPool} {nested : Bool}
  {start : RefCell (Option S)} {state next : State S T P} {action : Action S T P}
  {events : List (Event S T P)} {config : Config (State S T P) (Event S T P)}

/-! ### The tasks of a run -/

private theorem tasks_step
    (stepped : (machine visibility spawner).step state action = some (next, events)) :
    (∃ own, FamilyStep (TaskJoin.machine visibility) TaskJoin.State.new state.1 own next.1
        (lefts events) ∧ ∀ index act, own = .member index (.left act) →
          (action = .left own ∧ taskMay state.1 state.2.point index act = true) ∨
            act = .dropFuture true) ∨
      (next.1 = state.1 ∧ lefts events = []) := by
  cases productStep_of_step stepped with
  | left own moved shown alone moves =>
      rw [lefts_map_inl]
      refine .inl ⟨own, familyStep_of_step moves, ?_⟩
      rintro index act rfl
      exact .inl ⟨rfl, alone⟩
  | right own moved shown => exact .inr ⟨rfl, lefts_map_inr shown⟩
  | both shared first second moved other shown answers chosen moves =>
      rw [lefts_both]
      refine .inl ⟨first, familyStep_of_step moves, ?_⟩
      rintro index act rfl
      cases shared with
      | spawnMain => cases chosen
      | answer own =>
          simp only [coupling] at chosen
          repeat' split at chosen
          all_goals cases chosen
      | unwinds =>
          cases chosen
          exact .inr rfl

variable {guard : Guard (State S T P) (Action S T P) (Event S T P)}

theorem tasks_reaches
    (run : (machine visibility spawner).Reaches guard (.initial (.new start)) config) :
    (Tasks.machine visibility).Reaches .any (.initial [])
      ⟨lefts config.trace, config.state.1⟩ := run.left

/-- Nobody has a handle that could cancel the main task. -/
structure Spared (config : Config (State S T P) (Event S T P)) : Prop where
  uncancelled : TaskFuture.cancellations (Tasks.taskTrace 0 (lefts config.trace)) = []
  uncalled : ∀ main, config.state.1[0]? = some main → main.1.cancels = []

theorem spared_of_reaches
    (run : (machine visibility spawner).Reaches guard (.initial (.new start)) config) :
    Spared config := by
  apply run.invariant (fun config => Spared config)
  · exact ⟨rfl, by rintro main ⟨⟩⟩
  · rintro before action next events _reached ⟨none, calls⟩ _allowed stepped
    have split : TaskFuture.cancellations (Tasks.taskTrace 0 (lefts (before.trace ++ events))) =
        TaskFuture.cancellations (Tasks.taskTrace 0 (lefts events)) := by
      simp only [Tasks.taskTrace_append, observe_append, none, List.nil_append]
    rcases tasks_step stepped with ⟨own, step, may⟩ | ⟨same, silent⟩
    · cases step.at 0 with
      | rests _ same silent =>
          refine ⟨?_, by rw [same]; exact calls⟩
          rw [split, Tasks.taskTrace, silent]
          rfl
      | born seed _ found silent =>
          refine ⟨?_, ?_⟩
          · rw [split, Tasks.taskTrace, silent]
            rfl
          · rw [found]
            rintro main ⟨⟩
            rfl
      | moves act state after found moved moves =>
          have other : act ≠ .left .cancel := by
            rintro rfl
            rcases may 0 .cancel rfl with ⟨_, allowed⟩ | panics
            · exact absurd allowed Bool.false_ne_true
            · cases panics
          obtain ⟨uncalled, quiet⟩ := TaskJoin.step_uncancelled moves (calls state found) other
          refine ⟨split.trans quiet, ?_⟩
          rw [moved]
          rintro main ⟨⟩
          exact uncalled
    · refine ⟨?_, by rw [same]; exact calls⟩
      rw [split, silent]
      rfl

/-! ### The steps of the call -/

inductive CallStep (spawner : S) (state : Call S T P) :
    CallAction S T P → Call S T P → List (CallEvent S T) → Prop where
  | enters (point : state.point = .called) (free : state.cell.flag = 0) :
      CallStep spawner state .enter
        ⟨.entered, .new (some spawner), some ⟨spawner, state.cell.value⟩⟩ []
  | borrowed (point : state.point = .called) (busy : state.cell.flag ≠ 0) :
      CallStep spawner state .enter { state with point := .leaving .alreadyBorrowed } []
  | spawns (point : state.point = .entered) :
      CallStep spawner state .spawnMain { state with point := .spawned } []
  | fails (point : state.point = .entered) :
      CallStep spawner state .spawnFails { state with point := .returning .notSpawned } []
  | runs (point : state.point = .spawned) :
      CallStep spawner state .runUntil { state with point := .running } []
  | refuses (point : state.point = .spawned) :
      CallStep spawner state .refuse { state with point := .returning .refused } []
  | answers (output : Except (JoinError P) T) (point : state.point = .running) :
      CallStep spawner state (.answer (.ready output))
        { state with point := .returning (.output output) } []
  | panics (panic : JoinPanic) (point : state.point = .running) :
      CallStep spawner state (.answer (.panicked panic))
        { state with point := .returning (.panicked panic) } []
  | exchanges (other : Option S) (point : state.point.inPool = true)
      (free : state.cell.flag = 0) :
      CallStep spawner state (.exchange other) { state with cell := .new other } []
  | unwindsRun (point : state.point = .running) :
      CallStep spawner state .unwind { state with point := .returning .unwound } []
  | unwindsDrop (outcome : Outcome T) (point : state.point = .leaving outcome)
      (calm : outcome.panics = false) :
      CallStep spawner state .unwind { state with point := .ended .unwound } [.ended .unwound]
  | abortsDrop (outcome : Outcome T) (point : state.point = .leaving outcome) :
      CallStep spawner state .unwind { state with point := .ended .aborted } [.ended .aborted]
  | leaves (result : RunEnd T P) (scope : SpawnScope S) (cell : RefCell (Option S))
      (point : state.point = .returning result) (stands : state.scope = some scope)
      (dropped : scope.drop state.cell = (.dropped, cell)) :
      CallStep spawner state .leaveScope ⟨.leaving result.unwrap, cell, none⟩
        [.scopeDropped state.cell.value]
  | strays (result : RunEnd T P) (scope : SpawnScope S) (rejected : ScopeDrop)
      (cell : RefCell (Option S)) (point : state.point = .returning result)
      (stands : state.scope = some scope) (dropped : scope.drop state.cell = (rejected, cell))
      (stray : rejected ≠ .dropped) (calm : result.unwrap.panics = false) :
      CallStep spawner state .leaveScope ⟨.leaving (.strayScope rejected), cell, none⟩
        [.scopeDropped state.cell.value]
  | abortsScope (result : RunEnd T P) (scope : SpawnScope S) (rejected : ScopeDrop)
      (cell : RefCell (Option S)) (point : state.point = .returning result)
      (stands : state.scope = some scope) (dropped : scope.drop state.cell = (rejected, cell))
      (stray : rejected ≠ .dropped) :
      CallStep spawner state .leaveScope ⟨.ended .aborted, cell, none⟩
        [.scopeDropped state.cell.value, .ended .aborted]
  | finishes (outcome : Outcome T) (point : state.point = .leaving outcome) :
      CallStep spawner state .finish { state with point := .ended outcome } [.ended outcome]

theorem callStep_of_step {state next : Call S T P} {action : CallAction S T P}
    {shown : List (CallEvent S T)}
    (stepped : (call spawner).step state action = some (next, shown)) :
    CallStep spawner state action next shown := by
  simp only [call] at stepped
  split at stepped
  · unfold enterScope at stepped
    split at stepped
    · rename_i point
      by_cases free : state.cell.flag = 0
      · rw [enter_free free] at stepped
        cases stepped
        exact .enters point free
      · rw [enter_busy free] at stepped
        cases stepped
        exact .borrowed point free
    · cases stepped
  · cases stepped
    exact .spawns ‹_›
  · cases stepped
    exact .fails ‹_›
  · cases stepped
    exact .runs ‹_›
  · cases stepped
    exact .refuses ‹_›
  · cases stepped
    exact .answers _ ‹_›
  · cases stepped
    exact .panics _ ‹_›
  · unfold userExchange at stepped
    split at stepped
    · rename_i point
      by_cases free : state.cell.flag = 0
      · rw [exchange, RefCell.withBorrowMut_free free] at stepped
        cases stepped
        exact .exchanges _ point free
      · rw [exchange, RefCell.withBorrowMut_busy free] at stepped
        cases stepped
    · cases stepped
  · unfold unwind at stepped
    split at stepped
    · cases stepped
      exact .unwindsRun ‹_›
    · rename_i outcome point
      split at stepped <;> rename_i panics <;> cases stepped
      · exact .abortsDrop outcome point
      · exact .unwindsDrop outcome point (Bool.eq_false_iff.mpr panics)
    · cases stepped
  · unfold leaveScope at stepped
    split at stepped
    · rename_i result scope point stands
      split at stepped
      · cases stepped
        exact .leaves result scope _ point stands ‹_›
      · rename_i rejected cell stray dropped
        split at stepped <;> rename_i panics <;> cases stepped
        · exact .abortsScope result scope rejected cell point stands dropped stray
        · exact .strays result scope rejected cell point stands dropped stray
            (Bool.eq_false_iff.mpr panics)
    · cases stepped
  · cases stepped
    exact .finishes _ ‹_›
  · cases stepped

theorem call_step
    (stepped : (machine visibility spawner).step state action = some (next, events)) :
    (∃ act, CallStep spawner state.2 act next.2 (rights events) ∧
        (action = .right act ∧ next.1 = state.1 ∧
          (coupling visibility spawner).rightAlone state act = true ∨
        ∃ shared first, action = .both shared ∧
          (coupling visibility spawner).together state shared = some (first, act) ∧
          (Tasks.machine visibility).step state.1 first = some (next.1, lefts events))) ∨
      (next.2 = state.2 ∧ rights events = []) := by
  cases productStep_of_step stepped with
  | left own moved shown => exact .inr ⟨rfl, rights_map_inl shown⟩
  | right own moved shown alone moves =>
      rw [rights_map_inr]
      exact .inl ⟨own, callStep_of_step moves, .inl ⟨rfl, rfl, alone⟩⟩
  | both shared first second moved other shown answers chosen moves answered =>
      rw [rights_both, lefts_both]
      exact .inl ⟨second, callStep_of_step answered, .inr ⟨shared, first, rfl, chosen, moves⟩⟩

/-- The scope of the call stands from `enter` until `run_until` has been left, and then
nothing is borrowed. -/
structure Framed (start : RefCell (Option S)) (spawner : S) (state : Call S T P) : Prop where
  called : state.point = .called → state.cell = start
  stands : ∀ scope, state.scope = some scope → scope.spawner = spawner ∧ state.cell.flag = 0

private theorem CallStep.framed {before after : Call S T P} {act : CallAction S T P}
    {shown : List (CallEvent S T)} (framed : Framed start spawner before)
    (step : CallStep spawner before act after shown) : Framed start spawner after := by
  obtain ⟨called, stands⟩ := framed
  cases step with
  | enters =>
      refine ⟨nofun, ?_⟩
      rintro scope ⟨⟩
      exact ⟨rfl, rfl⟩
  | exchanges other point =>
      refine ⟨?_, fun scope same => ⟨(stands scope same).1, rfl⟩⟩
      intro here
      change before.point = .called at here
      rw [here] at point
      cases point
  | borrowed | spawns | fails | runs | refuses | answers | panics | unwindsRun | unwindsDrop
  | abortsDrop | finishes => exact ⟨nofun, stands⟩
  | leaves | strays | abortsScope => exact ⟨nofun, nofun⟩

theorem framed_of_reaches
    (run : (machine visibility spawner).Reaches guard (.initial (.new start)) config) :
    Framed start spawner config.state.2 := by
  apply run.invariant (fun config => Framed start spawner config.state.2)
  · exact ⟨fun _ => rfl, nofun⟩
  · intro before action next events _reached framed _allowed stepped
    rcases call_step stepped with ⟨act, step, _⟩ | ⟨same, _⟩
    · exact step.framed framed
    · rw [same]
      exact framed

/-- The destructor of the scope panics exactly where another spawner is current. -/
theorem Framed.dropped_iff {state : Call S T P} {scope : SpawnScope S} {drop : ScopeDrop}
    {cell : RefCell (Option S)} (framed : Framed start spawner state)
    (stands : state.scope = some scope) (dropped : scope.drop state.cell = (drop, cell)) :
    drop = .dropped ↔ state.cell.value = some spawner := by
  obtain ⟨own, free⟩ := framed.stands scope stands
  have succeeds := (scope.drop_free free).2
  rw [dropped, own] at succeeds
  exact succeeds

/-! ### Tasks that the pool keeps -/

private theorem CallStep.open_before {before after : Call S T P} {act : CallAction S T P}
    {shown : List (CallEvent S T)} (step : CallStep spawner before act after shown)
    (stands : after.point.isClosing = false) : before.point.isClosing = false := by
  cases step with
  | enters point | spawns point | fails point | runs point | refuses point | answers _ point
  | panics _ point | unwindsRun point => rw [point]; rfl
  | exchanges => exact stands
  | borrowed | unwindsDrop | abortsDrop | leaves | strays | abortsScope | finishes => cases stands

private theorem open_of_step
    (stepped : (machine visibility spawner).step state action = some (next, events))
    (stands : next.2.point.isClosing = false) : state.2.point.isClosing = false := by
  rcases call_step stepped with ⟨act, step, _⟩ | ⟨same, _⟩
  · exact step.open_before stands
  · rw [← same]
    exact stands

/-- While the pool stands no task is dropped before it is done. -/
theorem undropped_of_reaches (lawful : pool.Lawful)
    (run : (machine visibility spawner).Reaches (pooled pool visibility nested)
      (.initial (.new start)) config)
    (stands : config.state.2.point.isClosing = false) (index : Nat) :
    .dropBegan true ∉ Tasks.taskTrace index (lefts config.trace) := by
  have always : config.state.2.point.isClosing = false →
      .dropBegan true ∉ Tasks.taskTrace index (lefts config.trace) := by
    apply run.invariant (fun config => config.state.2.point.isClosing = false →
      .dropBegan true ∉ Tasks.taskTrace index (lefts config.trace)) fun _ => List.not_mem_nil
    intro before action next events reached old allowed stepped stands
    have earlier := open_of_step stepped stands
    rw [lefts_append, Tasks.taskTrace_append, List.mem_append]
    rintro (past | new)
    · exact old earlier past
    · rcases tasks_step stepped with ⟨own, step, may⟩ | ⟨same, silent⟩
      · refine Tasks.undropped_of_step lawful.toLawful (tasks_reaches reached) step ?_ new
        rintro rfl _
        rcases may index .drop rfl with ⟨rfl, _⟩ | panics
        · have drops : pool.drops before.state.2.point.isClosing
              (Tasks.history (lefts before.trace)) index = true := allowed
          rwa [earlier] at drops
        · cases panics
      · rw [silent] at new
        cases new
  exact always stands

/-! ### What the handle of the main task answers -/

section

variable {joint after : Joint.State Party T P} {act : Joint.Action Party T P}
  {trace shown : List (Joint.Event Party T P)}

theorem deliveries_of_goesOn (lawful : pool.Lawful) (coherent : Joint.Coherent ⟨trace, joint⟩)
    (goes : goesOn pool visibility joint act = true)
    (stepped : (Joint.machine visibility).step joint act = some (after, shown)) :
    Joint.deliveries shown = [] := by
  rcases Joint.step_polls coherent.stages stepped with ⟨quiet, _⟩ | ⟨poll, returned, _, _⟩
  · exact Joint.deliveries_nil_of_polls quiet
  · rw [goesOn, pollEnds, stepped] at goes
    simp only [returned, List.head?_cons, Option.map_some] at goes
    rw [Joint.deliveries_eq_polls, returned]
    obtain ⟨waker, loaded, outcome⟩ := poll
    cases outcome with
    | pending => rfl
    | ready =>
        rw [lawful.returns] at goes
        cases goes
    | panicked => cases goes

theorem answer_of_pollEnds (coherent : Joint.Coherent ⟨trace, joint⟩)
    (undelivered : Joint.deliveries trace = []) {outcome : PollOutcome T P}
    (ends : pollEnds visibility joint act = some outcome)
    (stepped : (Joint.machine visibility).step joint act = some (after, shown)) :
    outcome = .pending ∨ ∃ output, outcome = .ready output ∧ output ∈ Joint.deliveries shown := by
  rw [pollEnds, stepped] at ends
  rcases Joint.step_polls coherent.stages stepped with ⟨quiet, _⟩ | ⟨poll, returned, answers, _⟩
  · simp only [quiet, List.head?_nil, Option.map_none, reduceCtorEq] at ends
  · simp only [returned, List.head?_cons, Option.map_some, Option.some.injEq] at ends
    rcases coherent.phase.answer undelivered answers with ⟨_, pending⟩ | ⟨value, _, _, ready⟩
    · exact .inl (ends.symm.trans pending)
    · refine .inr ⟨_, ends.symm.trans ready, ?_⟩
      rw [Joint.deliveries_eq_polls, returned]
      simp [ready, PollOutcome.output?]

end

end BlockOn

end Spawns
