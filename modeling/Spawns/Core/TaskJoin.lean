/-
A task beside its joint and the `JoinHandle`.

The call of `self.joint.wake(value)` is one step of both, and the task goes on
when that call has returned. Anything else they do on their own, in any order.
The executor catches what unwinds out of a poll or out of the drop of the task.
-/

import Spawns.Core.JointWakeup
import Spawns.Core.TaskProgress
import Spawns.Foundation.Product

namespace Spawns

open EventMachine

open Machine (reaches_of_exec)

-- The executor is woken by a `W`, the joiner by a `V`.
variable {W V T P : Type}

/-! ### What either party does on its own -/

section

variable {state next : TaskFuture.State W T P} {events : List (TaskFuture.Event W T P)}
  {action : TaskFuture.Action W T P}

private theorem TaskFuture.step_unhanded
    (transition : TaskFuture.Transition state action next events)
    (other : action ≠ .callWake) : TaskFuture.handed events = [] := by
  cases transition with
  | wakeCalled => exact absurd rfl other
  | updateReturns => simp [(TaskFuture.quiet_freeEvents _ _).unhanded]
  | boxRejected | fieldsDropped | cancelFrees | cancellationDrops =>
      exact (TaskFuture.quiet_freeEvents _ _).unhanded
  | pollsFinished | pollStarts | checkFinds | checkPasses | innerStarts | innerPends | innerEnds
  | boxReused | boxDangles | boxMade | updateFinds | updateLoads | updateStores | updateRejected
  | updateRetries | futureDrops | futurePanicsInPoll | futurePanicsInDrop | pollEnds | dropEnds
  | dropFinishes | dropSkips | cancelStarts | cancelFinds | cancelLoads | cancelTakes
  | cancelClaims | cancelLoses | cancelRetries | cancelWakes | cancelDangles => rfl

private theorem TaskFuture.step_notifying {caller : TaskFuture.Caller}
    (transition : TaskFuture.Transition state action next events)
    (notifying : state.point = .notifying caller) (other : action ≠ .returnWake) :
    next.point = .notifying caller := by
  cases transition with
  | pollEnds | dropEnds => exact absurd rfl other
  | pollsFinished _ point | pollStarts _ point | checkFinds _ point | checkPasses _ point
  | innerStarts _ point | innerPends _ point | innerEnds _ point | boxReused _ _ point
  | boxDangles _ _ point | boxMade _ _ point | updateFinds _ _ point | updateLoads _ _ point
  | updateStores _ _ _ point | updateRejected _ _ _ point | updateRetries _ _ _ point
  | updateReturns _ point | boxRejected _ point | futureDrops _ _ point
  | futurePanicsInPoll _ point | futurePanicsInDrop _ point | wakeCalled _ _ point
  | dropFinishes point | dropSkips point | fieldsDropped point | cancellationDrops point =>
      rw [notifying] at point
      cases point
  | cancelStarts | cancelFinds | cancelLoads | cancelTakes | cancelClaims | cancelLoses
  | cancelRetries | cancelWakes | cancelDangles | cancelFrees => exact notifying

end

section

variable {visibility : Visibility} {state next : Joint.State V T P}
  {events : List (Joint.Event V T P)} {action : Joint.Action V T P}

private theorem Joint.step_uncalled (stepped : (Joint.machine visibility).step state action =
      some (next, events)) (other : ∀ value raw, action ≠ .wakeLoad value raw) :
    Joint.calls events = [] ∧
      (state.wake = .notCalled ∨ state.wake = .returned → next.wake = state.wake) := by
  cases action with
  | wakeLoad value raw => exact absurd rfl (other value raw)
  | wakeReplace =>
      obtain ⟨value, wake, rfl, rfl⟩ := Joint.wakeReplace_cases stepped
      exact ⟨rfl, fun rests => by rw [wake] at rests; simp at rests⟩
  | wakeStore =>
      obtain ⟨previous, wake, rfl, rfl⟩ := Joint.wakeStore_cases stepped
      exact ⟨rfl, fun rests => by rw [wake] at rests; simp at rests⟩
  | wakeMatch =>
      obtain ⟨previous, wake⟩ := Joint.wakeMatch_cases stepped
      exact ⟨Joint.observe_wakeMatch (fun _ => rfl) (fun _ => rfl) stepped,
        fun rests => by rw [wake] at rests; simp at rests⟩
  | wakeReturn =>
      obtain ⟨wake, rfl, rfl⟩ := Joint.wakeReturn_cases stepped
      exact ⟨rfl, fun rests => by rw [wake] at rests; simp at rests⟩
  | pollLoad waker raw =>
      obtain ⟨_, _, ⟨_, rfl, rfl⟩ | ⟨_, rfl, rfl⟩ | ⟨_, rfl, rfl⟩⟩ :=
        Joint.pollLoad_cases stepped <;> exact ⟨rfl, fun _ => rfl⟩
  | pollReplace =>
      rcases Joint.pollReplace_cases stepped with ⟨_, _, rfl, rfl⟩ | ⟨_, _, _, _, _, rfl, rfl⟩ |
        ⟨_, _, _, _, rfl, rfl⟩ <;> exact ⟨rfl, fun _ => rfl⟩
  | pollSettle =>
      obtain ⟨_, _, _, _, rfl, rfl⟩ := Joint.pollSettle_cases stepped
      exact ⟨by simp, fun _ => rfl⟩
  | dropStore =>
      obtain ⟨_, rfl, rfl⟩ := Joint.dropStore_cases stepped
      exact ⟨rfl, fun _ => rfl⟩
  | dropReplace =>
      obtain ⟨_, rfl, rfl⟩ := Joint.dropReplace_cases stepped
      exact ⟨Joint.calls_discardedOf _, fun _ => rfl⟩

end

namespace TaskJoin

abbrev State (W V T P : Type) := TaskFuture.State W T P × Joint.State V T P

abbrev Action (W V T P : Type) :=
  ProductAction (TaskFuture.Action W T P) (Joint.Action V T P) Nat

abbrev Event (W V T P : Type) := TaskFuture.Event W T P ⊕ Joint.Event V T P

/-- `self.joint.wake(value)` is called by `finish` alone, with its value, and
`finish` returns after it. The shared step carries the stage that `wake` loads. -/
def coupling : Coupling (TaskFuture.State W T P) (Joint.State V T P) (TaskFuture.Action W T P)
    (Joint.Action V T P) Nat where
  leftAlone state
    | .callWake => false
    | .returnWake =>
        match state.2.wake with
        | .returned => true
        | _ => false
    | _ => true
  rightAlone _
    | .wakeLoad _ _ => false
    | _ => true
  together state raw :=
    match state.1.point with
    | .handing _ value => some (.callWake, .wakeLoad value raw)
    | _ => none

def machine (visibility : Visibility) : Machine (State W V T P) (Action W V T P) (Event W V T P) :=
  .product TaskFuture.machine (Joint.machine visibility) coupling

def State.new (id : RawId) : State W V T P := (TaskFuture.State.new, Joint.State.new id)

variable {visibility : Visibility} {id : RawId}
  {guard : Guard (State W V T P) (Action W V T P) (Event W V T P)}
  {config later : Config (State W V T P) (Event W V T P)}

theorem task_reaches (run : (machine visibility).Reaches guard (.initial (.new id)) config) :
    TaskFuture.machine.Reaches .any (.initial .new) config.left := run.left

theorem joint_reaches (run : (machine visibility).Reaches guard (.initial (.new id)) config) :
    (Joint.machine visibility).Reaches .any (.initial (.new id)) config.right := run.right

/-! ### The call of `Joint::wake` -/

structure Linked (config : Config (State W V T P) (Event W V T P)) : Prop where
  calls : Joint.calls config.right.trace = TaskFuture.handed config.left.trace
  uncalled : TaskFuture.handed config.left.trace = [] → config.state.2.wake = .notCalled
  returned : TaskFuture.handed config.left.trace ≠ [] →
    (∃ caller, config.state.1.point = .notifying caller) ∨ config.state.2.wake = .returned

theorem step_linked {action : Action W V T P} {next : State W V T P}
    {events : List (Event W V T P)} (linked : Linked config)
    (stepped : (machine visibility).step config.state action = some (next, events)) :
    Linked ⟨config.trace ++ events, next⟩ := by
  cases productStep_of_step stepped with
  | left taskAction moved shown alone moves =>
      have transition := TaskFuture.transition_of_step moves
      have uncalled : taskAction ≠ .callWake := by
        rintro rfl
        cases alone
      have same : TaskFuture.handed (lefts config.trace ++ shown) =
          TaskFuture.handed (lefts config.trace) := by
        simp only [observe_append, TaskFuture.step_unhanded transition uncalled, List.append_nil]
      have leftTrace := Config.left_append config.trace (shown.map .inl) (moved, config.state.2)
      have rightTrace := Config.right_append config.trace (shown.map .inl) (moved, config.state.2)
      rw [lefts_map_inl] at leftTrace
      rw [rights_map_inl, List.append_nil] at rightTrace
      refine ⟨?_, ?_, ?_⟩
      · rw [leftTrace, rightTrace, same]
        exact linked.calls
      · rw [leftTrace, same]
        exact linked.uncalled
      · rw [leftTrace, same]
        intro handed
        rcases linked.returned handed with ⟨caller, notifying⟩ | atEnd
        · by_cases returns : taskAction = .returnWake
          · right
            subst returns
            change config.state.2.wake = .returned
            simp only [coupling] at alone
            split at alone
            · assumption
            · cases alone
          · exact .inl ⟨caller, TaskFuture.step_notifying transition notifying returns⟩
        · exact .inr atEnd
  | right jointAction moved shown alone moves =>
      have other : ∀ value raw, jointAction ≠ .wakeLoad value raw := by
        rintro value raw rfl
        cases alone
      obtain ⟨silent, stays⟩ := Joint.step_uncalled moves other
      have leftTrace := Config.left_append config.trace (shown.map .inr) (config.state.1, moved)
      have rightTrace := Config.right_append config.trace (shown.map .inr) (config.state.1, moved)
      rw [lefts_map_inr, List.append_nil] at leftTrace
      rw [rights_map_inr] at rightTrace
      refine ⟨?_, ?_, ?_⟩
      · rw [leftTrace, rightTrace]
        simp only [observe_append, silent, List.append_nil]
        exact linked.calls
      · rw [leftTrace]
        intro unhanded
        have before := linked.uncalled unhanded
        exact (stays (.inl before)).trans before
      · rw [leftTrace]
        intro handed
        rcases linked.returned handed with notifying | atEnd
        · exact .inl notifying
        · exact .inr ((stays (.inr atEnd)).trans atEnd)
  | both raw first second moved other shown answers chosen moves answered =>
      simp only [coupling] at chosen
      split at chosen
      · rename_i caller value point
        cases chosen
        have leftTrace := Config.left_append config.trace
          (shown.map .inl ++ answers.map .inr) (moved, other)
        have rightTrace := Config.right_append config.trace
          (shown.map .inl ++ answers.map .inr) (moved, other)
        rw [lefts_both] at leftTrace
        rw [rights_both] at rightTrace
        have called : Joint.calls answers = [value] := by
          obtain ⟨_, _, ⟨_, _, rfl⟩ | ⟨_, _, rfl⟩ | ⟨_, _, rfl⟩⟩ := Joint.wakeLoad_cases answered
          all_goals rfl
        cases TaskFuture.transition_of_step moves with
        | wakeCalled caller handedOver here =>
            rw [point] at here
            cases here
            refine ⟨?_, ?_, ?_⟩
            · have before : Joint.calls (rights config.trace) =
                  TaskFuture.handed (lefts config.trace) := linked.calls
              have calledSum : Joint.calls (rights config.trace ++ answers) =
                  Joint.calls (rights config.trace) ++ Joint.calls answers := observe_append _ _ _
              have handedSum : TaskFuture.handed (lefts config.trace ++ [.handed value]) =
                  TaskFuture.handed (lefts config.trace) ++ [value] := observe_append _ _ _
              rw [leftTrace, rightTrace, calledSum, called, before]
              exact handedSum.symm
            · rw [leftTrace]
              intro unhanded
              simp at unhanded
            · intro _handed
              exact .inl ⟨caller, rfl⟩
      · cases chosen

theorem linked_of_reaches
    (run : (machine visibility).Reaches guard (.initial (.new id)) config) : Linked config := by
  apply run.invariant (fun config => Linked config) ⟨rfl, fun _ => rfl, nofun⟩
  intro before action next events _reached linked _allowed stepped
  exact step_linked linked stepped

/-! ### A joiner is abandoned only by a destructor that panics -/

/-- The inner future is gone, and the call that gave it up has returned or unwound. -/
def GivenUp (state : TaskFuture.State W T P) : Prop :=
  state.hasFuture = false ∧
    (state.point = .idle ∨ state.point = .dropping ∨ state.point = .dropped)

/-- The next poll of the handle returns `Ready`, and it returns whatever else stands still. -/
structure NextPollReady (visibility : Visibility)
    (config : Config (State W V T P) (Event W V T P)) (output : Except (JoinError P) T) :
    Prop where
  answers : ∀ later poll rest, (machine visibility).Reaches .any config later →
    Joint.polls later.right.trace = Joint.polls config.right.trace ++ poll :: rest →
    poll.outcome = .ready output
  returns : config.state.2.handle = .idle → ∀ waker, ∃ later loaded,
    (machine visibility).Reaches (.onlyRight Joint.onlyPolls) config later ∧
      Joint.polls later.right.trace =
        Joint.polls config.right.trace ++ [⟨waker, loaded, .ready output⟩]

structure NotAbandoned (visibility : Visibility) (id : RawId)
    (config : Config (State W V T P) (Event W V T P)) : Prop where
  handed : TaskFuture.handed config.left.trace ≠ [] ∨ config.state.2.handle.Leaving
  joins : ¬ config.state.2.handle.Leaving → Joint.deliveries config.right.trace = [] →
    ∃ value, TaskFuture.handed config.left.trace = [value] ∧
      NextPollReady visibility config (joinOutput id value)

theorem published_of_returned {trace : List (Joint.Event V T P)} {state : Joint.State V T P}
    (phase : Joint.Phase trace state) (returned : state.wake = .returned)
    (live : ¬ state.handle.Leaving) : Joint.published trace ≠ [] := by
  cases phase with
  | fresh waiting | abandoned waiting =>
      rcases waiting with ⟨wake, _⟩ | ⟨_, wake, _⟩ <;> rw [returned] at wake <;> cases wake
  | refused _ _ _ _ _ _ _ handle =>
      rcases handle with ⟨handle, _⟩ | ⟨handle, _⟩ <;> rw [handle] at live <;>
        exact absurd trivial live
  | available _ _ _ publishes | settling _ _ _ _ _ publishes | taken _ _ _ _ _ publishes =>
      simp [publishes]
  | revoked _ _ _ _ _ _ _ handle | late _ _ _ _ _ _ _ handle =>
      rw [handle] at live
      exact absurd trivial live

private theorem lift_polls {last : Config (Joint.State V T P) (Joint.Event V T P)}
    (run : (Joint.machine visibility).Reaches Joint.onlyPolls config.right last) :
    ∃ final, (machine visibility).Reaches (.onlyRight Joint.onlyPolls) config final ∧
      final.right = last := by
  have lifted : ∃ final, (Machine.product TaskFuture.machine (Joint.machine visibility)
      coupling).Reaches (.onlyRight Joint.onlyPolls) config final ∧
        final.left = config.left ∧ final.right = last := by
    refine run.lift_right fun _ _ action allowed => ?_
    cases action with
    | wakeLoad => cases allowed
    | wakeReplace | wakeStore | wakeMatch | wakeReturn | pollLoad | pollReplace | pollSettle
    | dropStore | dropReplace => rfl
  obtain ⟨final, reached, _, same⟩ := lifted
  exact ⟨final, reached, same⟩

theorem joins_of_handed {value : TaskResult T P}
    (run : (machine visibility).Reaches guard (.initial (.new id)) config)
    (givenUp : GivenUp config.state.1) (handed : TaskFuture.handed config.left.trace = [value])
    (live : ¬ config.state.2.handle.Leaving)
    (undelivered : Joint.deliveries config.right.trace = []) :
    NextPollReady visibility config (joinOutput id value) := by
  have linked := linked_of_reaches run
  have jointRun := joint_reaches run
  have returned : config.state.2.wake = .returned := by
    rcases linked.returned (by simp [handed]) with ⟨caller, notifying⟩ | returned
    · rcases givenUp.2 with point | point | point <;> rw [notifying] at point <;> cases point
    · exact returned
  have publishes := published_of_returned (Joint.coherent_of_reaches jointRun).phase returned live
  have called : Joint.calls config.right.trace = [value] := linked.calls.trans handed
  constructor
  · intro later poll rest continued answers
    exact Joint.first_answer_of_published jointRun publishes called undelivered continued.right
      answers
  · intro idle waker
    obtain ⟨last, loaded, reached, answers⟩ :=
      (Joint.nextPollReady_of_published jointRun idle publishes called undelivered).returns waker
    obtain ⟨later, lifted, same⟩ := lift_polls reached
    refine ⟨later, loaded, lifted, ?_⟩
    rw [same]
    exact answers

/-- The handed value reaches a live joiner; a panicking destructor keeps it back. -/
theorem not_abandoned_iff
    (run : (machine visibility).Reaches guard (.initial (.new id)) config)
    (givenUp : GivenUp config.state.1) :
    NotAbandoned visibility id config ↔
      true ∉ TaskFuture.destructions config.left.trace ∨ config.state.2.handle.Leaving := by
  cases TaskFuture.progress_of_reaches (task_reaches run) with
  | running future | finishing _ _ future =>
      rw [show config.left.state.hasFuture = false from givenUp.1] at future
      cases future
  | handing caller value _ point =>
      rcases givenUp.2 with here | here | here <;>
        rw [show config.state.1.point = .handing caller value from point] at here <;> cases here
  | done value before after _ _ split _ once _ destroyed =>
      have handed : TaskFuture.handed config.left.trace = [value] := by
        rw [split]
        simp [once.1, once.2]
      refine iff_of_true ⟨.inl (by simp [handed]), ?_⟩ (.inl (by simp [destroyed]))
      intro live undelivered
      exact ⟨value, handed, joins_of_handed run givenUp handed live undelivered⟩
  | lost _ _ unhanded destroyed =>
      constructor
      · intro kept
        exact .inr (kept.handed.resolve_left (by simp [unhanded]))
      · rintro (calm | leaving)
        · exact absurd (by simp [destroyed]) calm
        · exact ⟨.inr leaving, fun live => absurd leaving live⟩

theorem lost_joiner_pends
    (run : (machine visibility).Reaches guard (.initial (.new id)) config)
    (panicked : true ∈ TaskFuture.destructions config.left.trace)
    (continued : (machine visibility).Reaches guard config later) :
    Joint.AllPending later.right.trace := by
  have whole := run.trans continued
  have still : true ∈ TaskFuture.destructions later.left.trace := by
    obtain ⟨since, grows⟩ := continued.left.exists_suffix
    have sum : TaskFuture.destructions (config.left.trace ++ since) =
      TaskFuture.destructions config.left.trace ++ TaskFuture.destructions since :=
      observe_append _ _ _
    rw [grows, sum]
    exact List.mem_append_left _ panicked
  have unhanded : TaskFuture.handed later.left.trace = [] := by
    cases TaskFuture.progress_of_reaches (task_reaches whole) with
    | running _ _ unhanded | finishing _ _ _ _ _ unhanded | handing _ _ _ _ _ unhanded
    | lost _ _ unhanded => exact unhanded
    | done _ _ _ _ _ _ _ _ _ destroyed =>
        rw [destroyed] at still
        simp at still
  have uncalled := (linked_of_reaches whole).uncalled unhanded
  have called : Joint.calls later.right.trace = [] :=
    (linked_of_reaches whole).calls.trans unhanded
  cases (Joint.coherent_of_reaches (joint_reaches whole)).phase with
  | fresh _ _ _ _ pending | abandoned _ _ _ _ pending => exact pending
  | refused _ _ some | available _ _ some | settling _ _ _ _ some | taken _ _ _ _ some
  | revoked _ _ _ _ some | late _ _ some =>
      rw [called] at some
      cases some

def finishesBesideJoiner : List (Action Nat Nat Nat Nat) :=
  [.right (.pollLoad 9 0), .right .pollReplace, .left (.poll 1), .left .check, .left .pollInner,
    .left (.innerReturn (.ready 42)), .left (.dropFuture false), .both 0, .right .wakeReplace,
    .right .wakeStore, .right .wakeMatch, .right .wakeReturn, .left .returnWake]

theorem not_abandoned_iff_finishing :
    ∃ config, (machine .latest).exec .any (.initial (State.new ⟨7⟩)) finishesBesideJoiner =
        some config ∧ config.state.2.handle = .idle ∧
        (NotAbandoned .latest ⟨7⟩ config ↔
          true ∉ TaskFuture.destructions config.left.trace ∨
            config.state.2.handle.Leaving) := by
  obtain ⟨config, executed, idle, gone, point⟩ :
      ∃ config, (machine .latest).exec .any (.initial (State.new ⟨7⟩)) finishesBesideJoiner =
        some config ∧ config.state.2.handle = .idle ∧ config.state.1.hasFuture = false ∧
        config.state.1.point = .idle := ⟨_, rfl, rfl, rfl, rfl⟩
  have run : (machine .latest).Reaches .any (.initial (State.new ⟨7⟩)) config :=
    reaches_of_exec finishesBesideJoiner executed
  exact ⟨config, executed, idle, not_abandoned_iff run ⟨gone, .inl point⟩⟩

/-- The inner future returns a value and then panics in its destructor. -/
def destructorPanics : List (Action Nat Nat Nat Nat) :=
  [.right (.pollLoad 9 0), .right .pollReplace, .left (.poll 1), .left .check, .left .pollInner,
    .left (.innerReturn (.ready 42)), .left (.dropFuture true)]

theorem abandoned_by_destructor :
    ¬ ∀ config : Config (State Nat Nat Nat Nat) (Event Nat Nat Nat Nat),
      (machine .latest).Reaches .any (.initial (State.new ⟨7⟩)) config →
      GivenUp config.state.1 → NotAbandoned .latest ⟨7⟩ config := by
  intro claim
  obtain ⟨config, executed, idle, gone, point, unhanded⟩ :
      ∃ config, (machine .latest).exec .any (.initial (State.new ⟨7⟩)) destructorPanics =
        some config ∧ config.state.2.handle = .idle ∧ config.state.1.hasFuture = false ∧
        config.state.1.point = .idle ∧ TaskFuture.handed config.left.trace = [] :=
    ⟨_, rfl, rfl, rfl, rfl, rfl⟩
  rcases (claim config (reaches_of_exec destructorPanics executed) ⟨gone, .inl point⟩).handed with
    handed | leaving
  · exact handed unhanded
  · rw [idle] at leaving
    exact leaving

end TaskJoin

end Spawns
