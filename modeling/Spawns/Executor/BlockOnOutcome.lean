/-
What `spawns_executor::block_on` tells its caller, and what becomes of its tasks.

With a pool that keeps its promises the call ends as the main task does, which
nobody can cancel, unless a destructor panics or user code leaves a scope of its
own behind on the thread. When the call is over, every task of its pool has
handed an outcome to its joint and is never polled again, whatever its inner
future was waiting for.
-/

import Spawns.Executor.BlockOn

namespace Spawns

open EventMachine PoolEvent

open Machine (reaches_of_exec)

namespace BlockOn

variable {S T P : Type} {spawner : S} {nested : Bool} {start : RefCell (Option S)}

/-! ### How the call ends -/

def Explains (nested : Bool) (trace : List (Tasks.Event T P)) : RunEnd T P → Prop
  | .output output => output ∈ Joint.deliveries (Tasks.jointTrace 0 trace) ∧
      ∀ error, output = .error error → error.isCancelled = false
  | .panicked _ => False
  | .notSpawned => False
  | .refused => nested = true
  | .unwound => ¬ Tasks.Calm trace

/-- When its scope was dropped, the spawner of the call was not the current one. -/
def Strays (spawner : S) (trace : List (CallEvent S T)) : Prop :=
  ∃ current, .scopeDropped current ∈ trace ∧ current ≠ some spawner

inductive Ends (nested : Bool) (start : RefCell (Option S)) (spawner : S)
    (trace : List (Event S T P)) : Outcome T → Prop where
  | borrowed (busy : start.flag ≠ 0) : Ends nested start spawner trace .alreadyBorrowed
  | unwraps (result : RunEnd T P) (explains : Explains nested (lefts trace) result) :
      Ends nested start spawner trace result.unwrap
  | strays (drop : ScopeDrop) (stray : Strays spawner (rights trace)) :
      Ends nested start spawner trace (.strayScope drop)
  | unwinds (panicked : ¬ Tasks.Calm (lefts trace)) : Ends nested start spawner trace .unwound
  | aborts (panicked : Strays spawner (rights trace) ∨ ¬ Tasks.Calm (lefts trace)) :
      Ends nested start spawner trace .aborted

def Accounts (nested : Bool) (start : RefCell (Option S)) (spawner : S)
    (trace : List (Event S T P)) : Point T P → Prop
  | .called => Joint.deliveries (Tasks.jointTrace 0 (lefts trace)) = []
  | .entered => Joint.deliveries (Tasks.jointTrace 0 (lefts trace)) = []
  | .spawned => Joint.deliveries (Tasks.jointTrace 0 (lefts trace)) = []
  | .running => Joint.deliveries (Tasks.jointTrace 0 (lefts trace)) = []
  | .returning result => Explains nested (lefts trace) result
  | .leaving outcome => Ends nested start spawner trace outcome
  | .ended outcome => Ends nested start spawner trace outcome

private theorem Explains.append {trace : List (Tasks.Event T P)} {result : RunEnd T P}
    (explains : Explains nested trace result) (events : List (Tasks.Event T P)) :
    Explains nested (trace ++ events) result := by
  cases result with
  | output output =>
      refine ⟨?_, explains.2⟩
      rw [Tasks.jointTrace_append]
      exact mem_observe_append _ explains.1 _
  | panicked | notSpawned => exact explains
  | refused => exact explains
  | unwound => exact fun calm => explains calm.of_append

private theorem Strays.append {trace : List (CallEvent S T)} (stray : Strays spawner trace)
    (events : List (CallEvent S T)) : Strays spawner (trace ++ events) := by
  obtain ⟨current, member, other⟩ := stray
  exact ⟨current, List.mem_append_left _ member, other⟩

private theorem Ends.append {trace : List (Event S T P)} {outcome : Outcome T}
    (ends : Ends nested start spawner trace outcome) (events : List (Event S T P)) :
    Ends nested start spawner (trace ++ events) outcome := by
  have stray (earlier : Strays spawner (rights trace)) :
      Strays spawner (rights (trace ++ events)) := by
    rw [rights_append]
    exact earlier.append _
  have panicked (earlier : ¬ Tasks.Calm (lefts trace)) :
      ¬ Tasks.Calm (lefts (trace ++ events)) := by
    rw [lefts_append]
    exact fun calm => earlier calm.of_append
  cases ends with
  | borrowed busy => exact .borrowed busy
  | unwraps result explains =>
      refine .unwraps result ?_
      rw [lefts_append]
      exact explains.append _
  | strays drop earlier => exact .strays drop (stray earlier)
  | unwinds earlier => exact .unwinds (panicked earlier)
  | aborts earlier => exact .aborts (earlier.imp stray panicked)

variable [DecidableEq S] {visibility : Visibility} {pool : LocalPool} {state next : State S T P}
  {action : Action S T P} {events : List (Event S T P)}
  {guard : Guard (State S T P) (Action S T P) (Event S T P)}
  {config : Config (State S T P) (Event S T P)}

private theorem undelivered_of_permitted {own : Tasks.Action T P} {moved : Tasks.State T P}
    {shown : List (Tasks.Event T P)} (lawful : pool.Lawful)
    (run : (machine visibility spawner).Reaches guard (.initial (.new start)) config)
    (permitted : permits pool visibility nested config (.left own) = true)
    (step : FamilyStep (TaskJoin.machine visibility) TaskJoin.State.new config.state.1 own moved
      shown) :
    Joint.deliveries (Tasks.jointTrace 0 shown) = [] := by
  cases step.at 0 with
  | rests _ _ silent | born _ _ _ silent =>
      rw [Tasks.jointTrace, silent]
      rfl
  | moves act before after found _ moves =>
      obtain ⟨id, _, reached⟩ := Tasks.member_reaches (tasks_reaches run) found
      have coherent := Joint.coherent_of_reaches (TaskJoin.joint_reaches reached)
      rcases TaskJoin.joint_step moves with ⟨joined, stepped, calls⟩ | ⟨_, silent⟩
      · rcases calls with rfl | ⟨value, raw, rfl⟩
        · simp only [permits, found, Option.all_some] at permitted
          exact deliveries_of_goesOn lawful coherent permitted stepped
        · obtain ⟨_, _, ⟨_, _, shows⟩ | ⟨_, _, shows⟩ | ⟨_, _, shows⟩⟩ :=
            Joint.wakeLoad_cases stepped
          all_goals
            rw [Tasks.jointTrace, shows]
            rfl
      · rw [Tasks.jointTrace, silent]
        rfl

/-- What the main task delivers while the pool stands is no cancellation. -/
private theorem uncancelled_of_delivered (lawful : pool.Lawful)
    (run : (machine visibility spawner).Reaches (pooled pool visibility nested)
      (.initial (.new start)) config)
    {main : TaskJoin.State Party Party T P} (found : config.state.1[0]? = some main)
    (stands : config.state.2.point.isClosing = false) {output : Except (JoinError P) T}
    (delivered : output ∈ Joint.deliveries (Tasks.jointTrace 0 (lefts config.trace)))
    {error : JoinError P} (failed : output = .error error) : error.isCancelled = false := by
  obtain ⟨id, _, reached⟩ := Tasks.member_reaches (tasks_reaches run) found
  have learns := TaskJoin.learns_of_delivered reached delivered
  rw [← Bool.not_eq_true]
  intro cancelled
  rcases learns.because ⟨error, failed, cancelled⟩ with called | dropped
  · exact called (spared_of_reaches run).uncancelled
  · exact undropped_of_reaches lawful run stands 0 dropped

private theorem explains_of_answer {own : Joint.Action Party T P} {outcome : PollOutcome T P}
    {after : Call S T P} {main : TaskJoin.State Party Party T P} {moved : Tasks.State T P}
    {shown : List (Tasks.Event T P)} {shows : List (CallEvent S T)} (lawful : pool.Lawful)
    (run : (machine visibility spawner).Reaches (pooled pool visibility nested)
      (.initial (.new start)) config)
    (found : config.state.1[0]? = some main)
    (undelivered : Joint.deliveries (Tasks.jointTrace 0 (lefts config.trace)) = [])
    (ends : pollEnds visibility main.2 own = some outcome)
    (moves : (Tasks.machine visibility).step config.state.1 (.member 0 (.right own)) =
      some (moved, shown))
    (answered : CallStep spawner config.state.2 (.answer outcome) after shows)
    (further : (machine visibility spawner).Reaches (pooled pool visibility nested)
      (.initial (.new start)) ⟨config.trace ++ (shown.map .inl ++ shows.map .inr),
        (moved, after)⟩) :
    ∃ output, after.point = .returning (.output output) ∧
      Explains nested (lefts config.trace ++ shown) (.output output) := by
  obtain ⟨_, now, same, foundNow, stepped⟩ := family_member_cases moves
  rw [found, Option.some.injEq] at same
  subst same
  have step := TaskJoin.right_step stepped
  obtain ⟨id, _, reached⟩ := Tasks.member_reaches (tasks_reaches run) found
  have coherent := Joint.coherent_of_reaches (TaskJoin.joint_reaches reached)
  rcases answer_of_pollEnds coherent undelivered ends step with rfl | ⟨output, rfl, inside⟩
  · cases answered
  · cases answered
    have delivered : output ∈
        Joint.deliveries (Tasks.jointTrace 0 (lefts config.trace ++ shown)) := by
      rw [Tasks.jointTrace_append, Joint.deliveries, observe_append]
      exact List.mem_append_right _ inside
    refine ⟨output, rfl, delivered, ?_⟩
    intro error failed
    apply uncancelled_of_delivered lawful further foundNow rfl _ failed
    rw [lefts_append, lefts_both]
    exact delivered

private theorem panicked_of_unwinds {index : Nat} {tasks moved : Tasks.State T P}
    {trace shown : List (Tasks.Event T P)}
    (moves : (Tasks.machine visibility).step tasks (.member index (.left (.dropFuture true))) =
      some (moved, shown)) : ¬ Tasks.Calm (trace ++ shown) := by
  obtain ⟨before, after, _, _, stepped⟩ := family_member_cases moves
  have transition := TaskJoin.left_step stepped
  have shows : .futureDropped true ∈ Tasks.taskTrace index shown := by
    rw [Tasks.taskTrace]
    generalize lefts (memberTrace index shown) = events at transition ⊢
    generalize after.1 = next at transition
    cases transition with
    | futurePanicsInPoll | futurePanicsInDrop => exact List.mem_cons_self
  intro calm
  cases calm _ (List.mem_append_right _ (Tasks.mem_taskTrace.mp shows))

private theorem Accounts.call {before after : Call S T P} {act : CallAction S T P}
    {trace : List (Event S T P)} {shown : List (CallEvent S T)} (lawful : pool.Lawful)
    (framed : Framed start spawner before) (tasks : Tasks.State T P)
    (accounts : Accounts nested start spawner trace before.point)
    (alone : (coupling visibility spawner).rightAlone (tasks, before) act = true)
    (permitted : permits pool visibility nested ⟨trace, (tasks, before)⟩ (.right act) = true)
    (step : CallStep spawner before act after shown) :
    Accounts nested start spawner (trace ++ shown.map .inr) after.point := by
  have same : lefts (trace ++ shown.map .inr) = lefts trace := by
    rw [lefts_append, lefts_map_inr, List.append_nil]
  have strays {scope : SpawnScope S} {drop : ScopeDrop} {cell : RefCell (Option S)}
      (stands : before.scope = some scope) (dropped : scope.drop before.cell = (drop, cell))
      (other : drop ≠ .dropped) (seen : .scopeDropped before.cell.value ∈ shown) :
      Strays spawner (rights (trace ++ shown.map .inr)) := by
    refine ⟨before.cell.value, ?_, ?_⟩
    · rw [rights_append, rights_map_inr]
      exact List.mem_append_right _ seen
    · exact fun current => other ((framed.dropped_iff stands dropped).mpr current)
  cases step with
  | enters point | runs point =>
      rw [point] at accounts
      simpa only [Accounts, same] using accounts
  | borrowed point busy =>
      refine Ends.borrowed ?_
      rw [← framed.called point]
      exact busy
  | fails point =>
      simp [permits, lawful.accepts] at permitted
  | refuses point =>
      change nested = true
      cases nested with
      | true => rfl
      | false => simp [permits, lawful.runs] at permitted
  | exchanges other point =>
      change Accounts nested start spawner (trace ++ []) before.point
      rw [List.append_nil]
      exact accounts
  | leaves result scope cell point =>
      rw [point] at accounts
      refine Ends.unwraps result ?_
      rw [same]
      exact accounts
  | strays result scope drop cell point stands dropped other =>
      exact .strays drop (strays stands dropped other List.mem_cons_self)
  | abortsScope result scope drop cell point stands dropped other =>
      exact .aborts (.inl (strays stands dropped other List.mem_cons_self))
  | finishes outcome point =>
      rw [point] at accounts
      exact accounts.append _
  | spawns | answers | panics | unwindsRun | unwindsDrop | abortsDrop => cases alone

theorem accounts_of_reaches (lawful : pool.Lawful)
    (run : (machine visibility spawner).Reaches (pooled pool visibility nested)
      (.initial (.new start)) config) :
    Accounts nested start spawner config.trace config.state.2.point := by
  apply run.invariant (fun config =>
    Accounts nested start spawner config.trace config.state.2.point)
  · rfl
  intro before action next events reached accounts allowed stepped
  have whole := reached.tail (.mk allowed stepped)
  cases productStep_of_step stepped with
  | left own moved shown alone moves =>
      have quiet := undelivered_of_permitted lawful reached allowed (familyStep_of_step moves)
      have sum : Joint.deliveries (Tasks.jointTrace 0 (lefts (before.trace ++ shown.map .inl))) =
          Joint.deliveries (Tasks.jointTrace 0 (lefts before.trace)) := by
        rw [lefts_append, lefts_map_inl, Tasks.jointTrace_append, Joint.deliveries, observe_append,
          ← Joint.deliveries, ← Joint.deliveries, quiet, List.append_nil]
      change Accounts nested start spawner (before.trace ++ shown.map .inl) before.state.2.point
      cases point : before.state.2.point with
      | called | entered | spawned | running =>
          rw [point] at accounts
          exact sum.trans accounts
      | returning result =>
          rw [point] at accounts
          simp only [Accounts, lefts_append]
          exact Explains.append accounts _
      | leaving outcome | ended outcome =>
          rw [point] at accounts
          exact Ends.append accounts _
  | right own moved shown alone moves =>
      exact accounts.call lawful (framed_of_reaches reached) before.state.1 alone allowed
        (callStep_of_step moves)
  | both shared first second moved other shown answers chosen moves answered =>
      have step := callStep_of_step answered
      have sum : lefts (before.trace ++ (shown.map .inl ++ answers.map .inr : List (Event S T P))) =
          lefts before.trace ++ shown := by
        rw [lefts_append, lefts_both]
      cases shared with
      | spawnMain id =>
          cases chosen
          cases moves
          cases step with
          | spawns point =>
              rw [point] at accounts
              simp only [Accounts]
              rw [sum, Tasks.jointTrace_append, Joint.deliveries, observe_append]
              exact List.append_eq_nil_iff.mpr ⟨accounts, rfl⟩
      | answer own =>
          simp only [coupling] at chosen
          repeat' split at chosen
          all_goals cases chosen
          rename_i main found _ outcome ends may
          have running : before.state.2.point = .running := by
            cases step <;> assumption
          rw [running] at accounts
          obtain ⟨output, ended, explains⟩ :=
            explains_of_answer lawful reached found accounts ends moves step whole
          change Accounts nested start spawner _ other.point
          rw [ended]
          simp only [Accounts]
          rw [sum]
          exact explains
      | unwinds index =>
          cases chosen
          have panicked : ¬ Tasks.Calm (lefts (before.trace ++
              (shown.map .inl ++ answers.map .inr : List (Event S T P)))) := by
            rw [sum]
            exact panicked_of_unwinds moves
          cases step with
          | unwindsRun => exact panicked
          | unwindsDrop => exact .unwinds panicked
          | abortsDrop => exact .aborts (.inr panicked)

/-- What the call tells its caller about the main future. -/
structure Tells (nested : Bool) (start : RefCell (Option S)) (spawner : S)
    (trace : List (Event S T P)) (outcome : Outcome T) : Prop where
  returned : ∀ output, outcome = .returned output →
    .ready output ∈ TaskFuture.innerAnswers (Tasks.taskTrace 0 (lefts trace))
  panicked : ∀ message, outcome = .panicked message → ∃ id payload,
    (seeds (lefts trace))[0]? = some id ∧
      .panicked payload ∈ TaskFuture.innerAnswers (Tasks.taskTrace 0 (lefts trace)) ∧
      message = "called `Result::unwrap()` on an `Err` value: JoinError::Panic(" ++
        id.toId.debug ++ ", ...)"
  alreadyBorrowed : outcome = .alreadyBorrowed → start.flag ≠ 0
  notSpawned : outcome ≠ .notSpawned
  refused : outcome = .refused → nested = true
  unwound : outcome = .unwound → ¬ Tasks.Calm (lefts trace)
  strayScope : ∀ drop, outcome = .strayScope drop → Strays spawner (rights trace)
  aborted : outcome = .aborted → Strays spawner (rights trace) ∨ ¬ Tasks.Calm (lefts trace)
  ready : start.flag = 0 → nested = false → Tasks.Calm (lefts trace) →
    ¬ Strays spawner (rights trace) → ∀ output,
    .ready output ∈ TaskFuture.innerAnswers (Tasks.taskTrace 0 (lefts trace)) →
      outcome = .returned output

private theorem main_of_delivered
    (run : (machine visibility spawner).Reaches guard (.initial (.new start)) config)
    {output : Except (JoinError P) T}
    (delivered : output ∈ Joint.deliveries (Tasks.jointTrace 0 (lefts config.trace))) :
    ∃ id, (seeds (lefts config.trace))[0]? = some id ∧
      Learns id (Tasks.taskTrace 0 (lefts config.trace)) output := by
  cases found : config.state.1[0]? with
  | none =>
      rw [Tasks.jointTrace, (tasks_reaches run).member_unborn found] at delivered
      cases delivered
  | some main =>
      obtain ⟨id, seeded, reached⟩ := Tasks.member_reaches (tasks_reaches run) found
      exact ⟨id, seeded, TaskJoin.learns_of_delivered reached delivered⟩

private theorem tells_of_output {output : Except (JoinError P) T}
    (run : (machine visibility spawner).Reaches guard (.initial (.new start)) config)
    (explains : Explains nested (lefts config.trace) (.output output)) :
    Tells nested start spawner config.trace (RunEnd.output output).unwrap := by
  obtain ⟨delivered, uncancelled⟩ := explains
  obtain ⟨id, seeded, learns⟩ := main_of_delivered run delivered
  cases output with
  | ok value =>
      have ready := (learns.value value).mp rfl
      refine ⟨?_, nofun, nofun, nofun, nofun, nofun, nofun, nofun, ?_⟩
      · rintro output ⟨⟩
        exact ready
      · intro _ _ _ _ output answered
        cases (learns.value output).mpr answered
        rfl
  | error error =>
      refine ⟨nofun, ?_, nofun, nofun, nofun, nofun, nofun, nofun, ?_⟩
      · rintro message ⟨⟩
        obtain ⟨own, inner⟩ := error
        cases inner with
        | cancelled => cases uncancelled _ rfl
        | panic payload =>
            have named : own = id.toId := learns.named _ rfl
            refine ⟨id, payload, seeded, (learns.payload payload).mp ⟨_, rfl, rfl⟩, ?_⟩
            rw [named]
            rfl
      · intro _ _ _ _ output answered
        cases (learns.value output).mpr answered

/-- `block_on` returns what the main future answered, and panics because that panicked. -/
theorem tells_main {outcome : Outcome T} (lawful : pool.Lawful)
    (run : (machine visibility spawner).Reaches (pooled pool visibility nested)
      (.initial (.new start)) config)
    (ended : config.state.2.point = .ended outcome) :
    Tells nested start spawner config.trace outcome := by
  have accounts := accounts_of_reaches lawful run
  rw [ended] at accounts
  cases accounts with
  | borrowed busy =>
      exact ⟨nofun, nofun, fun _ => busy, nofun, nofun, nofun, nofun, nofun,
        fun free => absurd free busy⟩
  | unwraps result explains =>
      cases result with
      | output output => exact tells_of_output run explains
      | panicked | notSpawned => cases explains
      | refused =>
          have inside : nested = true := explains
          refine ⟨nofun, nofun, nofun, nofun, fun _ => inside, nofun, nofun, nofun, ?_⟩
          intro _ single
          rw [inside] at single
          cases single
      | unwound =>
          exact ⟨nofun, nofun, nofun, nofun, nofun, fun _ => explains, nofun, nofun,
            fun _ _ calm => absurd calm explains⟩
  | strays drop stray =>
      exact ⟨nofun, nofun, nofun, nofun, nofun, nofun, fun _ _ => stray, nofun,
        fun _ _ _ straight => absurd stray straight⟩
  | unwinds panicked =>
      exact ⟨nofun, nofun, nofun, nofun, nofun, fun _ => panicked, nofun, nofun,
        fun _ _ calm => absurd calm panicked⟩
  | aborts because =>
      refine ⟨nofun, nofun, nofun, nofun, nofun, nofun, nofun, fun _ => because, ?_⟩
      intro _ _ calm straight
      rcases because with stray | panicked
      · exact absurd stray straight
      · exact absurd calm panicked

def acts (index : Nat) (actions : List (TaskJoin.Action Party Party T P)) :
    List (Action S T P) := (Tasks.acts index actions).map .left

/-- The main task spawns another and returns at its first poll; the other waits for
ever and is dropped with the pool. -/
def spawnsAndReturns : List (Action Nat Nat Nat) :=
  [.right .enter, .both (.spawnMain ⟨1⟩), .right .runUntil] ++
    acts 0 [.right (.pollLoad (.thread 0) 0), .right .pollReplace] ++
    acts 0 [.left (.poll (.task 0)), .left .check, .left .pollInner] ++
    [.right (.exchange (some 8)), .right (.exchange (some 7)), .left (.create ⟨2⟩)] ++
    acts 0 [.left (.innerReturn (.ready 42)), .left (.dropFuture false), .both 0,
      .right .wakeReplace, .right .wakeStore, .right .wakeMatch, .right .wakeReturn,
      .left .returnWake, .left .drop, .left .dropFields] ++
    acts 1 [.left (.poll (.task 1)), .left .check, .left .pollInner,
      .left (.innerReturn .pending), .left (.newBox 8), .left .updateLoad,
      .left .updateExchange, .left .updateReturn] ++
    acts 0 [.right (.pollLoad (.thread 0) 1)] ++
    [.both (.answer .pollReplace)] ++
    acts 0 [.right .dropStore, .right .dropReplace] ++
    [.right .leaveScope] ++
    acts 1 [.left .drop, .left (.dropFuture false), .both 0, .right .wakeReplace,
      .right .wakeStore, .right .wakeMatch, .left .returnWake, .left .dropFields] ++
    [.right .finish]

def Point.outcome? : Point T P → Option (Outcome T)
  | .ended outcome => some outcome
  | _ => none

private theorem Point.outcome?_eq_some {point : Point T P} {outcome : Outcome T} :
    point.outcome? = some outcome ↔ point = .ended outcome := by
  cases point <;> simp [outcome?]

theorem tells_main_returning :
    ∃ config, (machine .latest 7).exec (pooled .eager .latest false)
        (.initial (.new (.new none))) spawnsAndReturns = some config ∧
      Tells false (.new none) 7 config.trace (.returned 42) := by
  have ran : ((machine .latest 7).exec (pooled .eager .latest false)
      (.initial (.new (.new none))) spawnsAndReturns).map
        (fun config => config.state.2.point.outcome?) = some (some (.returned 42)) := by
    decide +kernel
  obtain ⟨config, executed, ended⟩ := Option.map_eq_some_iff.mp ran
  exact ⟨config, executed, tells_main LocalPool.eager_lawful
    (reaches_of_exec spawnsAndReturns executed) (Point.outcome?_eq_some.mp ended)⟩

/-! ### Nothing is left when the call is over -/

/-- Every task is settled, and nothing is ever polled again. -/
structure AllSettled (visibility : Visibility) (spawner : S)
    (config : Config (State S T P) (Event S T P)) : Prop where
  settled : ∀ (index : Nat) task, config.state.1[index]? = some task →
    Tasks.Settled visibility (lefts config.trace) index task
  final : ∀ later, (machine visibility spawner).Reaches .any config later →
    later.state.1.length = config.state.1.length ∧
      ∀ (index : Nat) task, config.state.1[index]? = some task →
        TaskFuture.innerStarts (Tasks.taskTrace index (lefts later.trace)) =
          TaskFuture.innerStarts (Tasks.taskTrace index (lefts config.trace))

end BlockOn

end Spawns
