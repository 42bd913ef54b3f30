/-
The wake-up owed to a joiner whose last poll returned `Pending`.

`Joint::wake` takes out the waker of the last poll that found no value. A
handle polled again after `Ready` can register a waker behind its back, which
nobody calls: the wake-up is served exactly when no poll has returned `Ready`.
-/

import Spawns.Core.JointPoll

namespace Spawns.Joint

open EventMachine

open Machine (reaches_of_exec)

variable {W T P : Type} {visibility : Visibility} {trace events : List (Event W T P)}
  {state next : State W T P}
  {guard : Guard (State W T P) (Action W T P) (Event W T P)} {id : RawId}
  {config : Config (State W T P) (Event W T P)}

def onlyPolls : Guard (State W T P) (Action W T P) (Event W T P) := fun _ action =>
  match action with
  | .pollLoad _ _ | .pollReplace | .pollSettle => True
  | _ => False

def WokenAfterPublication (trace : List (Event W T P)) : Prop :=
  ∀ before waker after, trace = before ++ .woken waker :: after → published before ≠ []

/-- The next poll returns `Ready`, and it returns even if `Joint::wake` stands still. -/
structure NextPollReady (visibility : Visibility) (config : Config (State W T P) (Event W T P))
    (output : Except (JoinError P) T) : Prop where
  answers : ∀ later poll rest, (machine visibility).Reaches .any config later →
    polls later.trace = polls config.trace ++ poll :: rest → poll.outcome = .ready output
  returns : ∀ waker, ∃ later loaded,
    (machine visibility).Reaches onlyPolls config later ∧
      polls later.trace = polls config.trace ++ [⟨waker, loaded, .ready output⟩]

/-- The joiner that registered `waker` last has been woken for a value it can take. -/
structure Served (visibility : Visibility) (id : RawId)
    (config : Config (State W T P) (Event W T P)) (waker : W) : Prop where
  wokenOnce : woken config.trace = [waker]
  ordered : WokenAfterPublication config.trace
  ready : ∃ value, calls config.trace = [value] ∧ config.state.result = .finished value ∧
    NextPollReady visibility config (joinOutput id value)

/-! ### The order of publication and wake-up -/

theorem step_woken {action : Action W T P} (phase : Phase trace state)
    (stepped : (machine visibility).step state action = some (next, events))
    (calls_one : woken events ≠ []) :
    ∃ waker, events = [.woken waker] ∧ published trace ≠ [] := by
  cases action with
  | wakeLoad value raw =>
      obtain ⟨_, _, ⟨_, _, rfl⟩ | ⟨_, _, rfl⟩ | ⟨_, _, rfl⟩⟩ := wakeLoad_cases stepped
      all_goals exact absurd rfl calls_one
  | wakeReplace => obtain ⟨_, _, _, rfl⟩ := wakeReplace_cases stepped; exact absurd rfl calls_one
  | wakeStore => obtain ⟨_, _, _, rfl⟩ := wakeStore_cases stepped; exact absurd rfl calls_one
  | wakeMatch =>
      obtain ⟨previous, wake⟩ := wakeMatch_cases stepped
      rcases phase.took (.inr wake) with ⟨publishes, took, _⟩ | ⟨rfl, _⟩
      · obtain ⟨_, _, rfl, _⟩ := wakeMatch_registrable wake took stepped
        cases previous with
        | joining waker => exact ⟨waker, rfl, by simp [publishes]⟩
        | empty | joined | finished | detached => exact absurd rfl calls_one
      · obtain ⟨_, rfl⟩ := wakeMatch_detached wake stepped
        exact absurd (woken_discardedOf _) calls_one
  | wakeReturn => obtain ⟨_, _, rfl⟩ := wakeReturn_cases stepped; exact absurd rfl calls_one
  | pollLoad waker raw =>
      obtain ⟨_, _, ⟨_, _, rfl⟩ | ⟨_, _, rfl⟩ | ⟨_, _, rfl⟩⟩ := pollLoad_cases stepped
      all_goals exact absurd rfl calls_one
  | pollReplace =>
      rcases pollReplace_cases stepped with ⟨_, _, _, rfl⟩ | ⟨_, _, _, _, _, _, rfl⟩ |
        ⟨_, _, _, _, _, rfl⟩ <;> exact absurd rfl calls_one
  | pollSettle =>
      obtain ⟨_, _, _, _, _, rfl⟩ := pollSettle_cases stepped
      refine absurd ?_ calls_one
      simp
  | dropStore => obtain ⟨_, _, rfl⟩ := dropStore_cases stepped; exact absurd rfl calls_one
  | dropReplace =>
      obtain ⟨_, _, rfl⟩ := dropReplace_cases stepped
      exact absurd (woken_discardedOf _) calls_one

theorem wokenAfterPublication_of_reaches
    (run : (machine visibility).Reaches guard (.initial (State.new id)) config) :
    WokenAfterPublication config.trace := by
  apply run.invariant (fun config => WokenAfterPublication config.trace)
  · intro before waker after split
    cases before <;> cases split
  · intro earlier action next events reached ordered _allowed stepped before waker after split
    rcases List.append_eq_append_iff.mp split with ⟨part, rfl, later⟩ | ⟨part, old, later⟩
    · have called : woken events ≠ [] := by
        rw [later]
        simp
      obtain ⟨only, alone, publishes⟩ :=
        step_woken (coherent_of_reaches reached).phase stepped called
      exact observe_append_ne_nil _ publishes part
    · cases part with
      | nil =>
          rw [List.nil_append] at later
          have called : woken events ≠ [] := by
            rw [← later]
            simp
          obtain ⟨only, alone, publishes⟩ :=
            step_woken (coherent_of_reaches reached).phase stepped called
          rwa [old, List.append_nil] at publishes
      | cons head rest =>
          rw [List.cons_append, List.cons.injEq] at later
          obtain ⟨rfl, _⟩ := later
          exact ordered before waker rest old

/-! ### The wake-up of the last pending poll -/

theorem poll_starts (visibility : Visibility) (waker : W) (idle : state.handle = .idle)
    (stages : StageFacts trace state) :
    ∃ point : HandlePoint W T P, point.Busy ∧ point.caller? = some waker ∧
      (machine visibility).step state (.pollLoad waker state.stage.current) =
        some ({ state with handle := point }, []) := by
  have readable := state.stage.readable_current visibility
  obtain ⟨stage, valid⟩ := stages.valid readable.mem_values
  cases stage with
  | finished =>
      exact ⟨.taking waker, trivial, rfl, by simp [machine, pollLoad, idle, readable, valid]⟩
  | running | detached =>
      exact ⟨.registering waker state.stage.current, trivial, rfl,
        by simp [machine, pollLoad, idle, readable, valid]⟩

theorem first_answer_of_published {value : TaskResult T P}
    (run : (machine visibility).Reaches guard (.initial (State.new id)) config)
    (publishes : published config.trace ≠ []) (called : calls config.trace = [value])
    (undelivered : deliveries config.trace = []) {later : Config (State W T P) (Event W T P)}
    {poll : PollReturn W T P} {rest : List (PollReturn W T P)}
    (continued : (machine visibility).Reaches .any config later)
    (returned : polls later.trace = polls config.trace ++ poll :: rest) :
    poll.outcome = .ready (joinOutput id value) := by
  have freeRun : (machine visibility).Reaches .any (.initial (State.new id)) config :=
    run.weaken fun _ _ _ => trivial
  rcases next_poll_ready freeRun publishes undelivered continued with
    silent | ⟨same, first, others, calledSame, firstReturned, outcome⟩
  · rw [returned] at silent
    exact absurd silent (by simp)
  · rw [called, List.cons.injEq] at calledSame
    rw [returned, List.append_cancel_left_eq, List.cons.injEq] at firstReturned
    rw [firstReturned.1, outcome, calledSame.1]

theorem nextPollReady_of_published {value : TaskResult T P}
    (run : (machine visibility).Reaches guard (.initial (State.new id)) config)
    (idle : config.state.handle = .idle) (publishes : published config.trace ≠ [])
    (called : calls config.trace = [value]) (undelivered : deliveries config.trace = []) :
    NextPollReady visibility config (joinOutput id value) := by
  refine ⟨fun _ _ _ continued returned =>
    first_answer_of_published run publishes called undelivered continued returned, ?_⟩
  intro waker
  obtain ⟨point, busy, caller, loads⟩ := poll_starts visibility waker idle
    (coherent_of_reaches run).stages
  have starts : (machine visibility).Reaches onlyPolls config
      ⟨config.trace ++ [], { config.state with handle := point }⟩ :=
    .single (.mk (show onlyPolls config (.pollLoad waker _) from trivial) loads)
  have finishes : ∃ later poll, (machine visibility).Reaches onlyPolls
      ⟨config.trace ++ [], { config.state with handle := point }⟩ later ∧
      polls later.trace = polls (config.trace ++ []) ++ [poll] ∧
      point.caller? = some poll.waker := poll_finishes busy (fun _ => trivial) (fun _ => trivial)
  obtain ⟨later, poll, finishes, returned, same⟩ := finishes
  rw [List.append_nil] at returned
  rw [caller, Option.some.injEq] at same
  have reached : (machine visibility).Reaches onlyPolls config later := starts.trans finishes
  have outcome := first_answer_of_published run publishes called undelivered
    (reached.weaken fun _ _ _ => trivial) returned
  refine ⟨later, poll.loaded, reached, ?_⟩
  rw [returned, same, ← outcome]

private theorem registered_of_last {waker : W} {loaded : Nat} {outcome : PollOutcome T P}
    (last : (polls trace).getLast? = some ⟨waker, loaded, outcome⟩) :
    registered trace = .joining waker := by
  simp only [registered, last]

/-- An idle handle that was delivered nothing is owed the waker it registered last. -/
theorem Phase.owed {waker : W} {loaded : Nat} (phase : Phase trace state)
    (idle : state.handle = .idle)
    (last : (polls trace).getLast? = some ⟨waker, loaded, .pending⟩)
    (woke : state.wake = .notifying ∨ state.wake = .returned) :
    deliveries trace ≠ [] ∧ (∀ value, state.result ≠ .finished value) ∨
      ∃ value, calls trace = [value] ∧ state.result = .finished value ∧
        published trace ≠ [] ∧ deliveries trace = [] ∧ woken trace = [waker] := by
  cases phase with
  | fresh waiting => rcases woke with woke | woke <;> simp_all
  | abandoned _ _ _ _ _ handle => rw [idle] at handle; cases handle
  | refused _ _ _ _ _ _ _ handle =>
      rcases handle with ⟨handle, _⟩ | ⟨handle, _⟩ <;> rw [idle] at handle <;> cases handle
  | available value after called publishes _ pending _ result =>
      refine .inr ⟨value, called, result, by simp [publishes], pending.deliveries_nil, ?_⟩
      rw [registered_of_last last] at after
      rcases woke with woke | woke
      all_goals
        rw [woke] at after
        cases after with
        | _ owed => exact owed
  | settling _ _ _ _ _ _ _ _ handle => rw [idle] at handle; cases handle
  | taken _ _ _ _ _ _ _ delivered _ result =>
      refine .inl ⟨by simp [delivered], ?_⟩
      intro value finished
      rcases result with joined | ⟨_, joining⟩ <;> simp_all
  | revoked _ _ _ _ _ _ _ handle => rw [idle] at handle; cases handle
  | late _ _ _ _ _ _ _ handle => rw [idle] at handle; cases handle

/-- From the call of the waker on, the joiner whose last poll returned `Pending`
is served exactly when none of its polls had returned `Ready` before. -/
theorem joiner_served_iff_undelivered {waker : W} {loaded : Nat}
    (run : (machine visibility).Reaches guard (.initial (State.new id)) config)
    (idle : config.state.handle = .idle)
    (last : (polls config.trace).getLast? = some ⟨waker, loaded, .pending⟩)
    (woke : config.state.wake = .notifying ∨ config.state.wake = .returned) :
    Served visibility id config waker ↔ deliveries config.trace = [] := by
  rcases (coherent_of_reaches run).phase.owed idle last woke with
    ⟨delivered, empty⟩ | ⟨value, called, result, publishes, undelivered, owed⟩
  · constructor
    · intro served
      obtain ⟨value, _, finished, _⟩ := served.ready
      exact absurd finished (empty value)
    · intro undelivered
      exact absurd undelivered delivered
  · refine ⟨fun _ => undelivered, fun _ => ?_⟩
    exact
      { wokenOnce := owed
        ordered := wokenAfterPublication_of_reaches run
        ready := ⟨value, called, result,
          nextPollReady_of_published run idle publishes called undelivered⟩ }

def registeredTwice : List (Action Nat Nat Nat) :=
  [.pollLoad 1 0, .pollReplace, .pollLoad 2 0, .wakeLoad (.ok 42) 0, .pollReplace,
    .wakeReplace, .wakeStore, .wakeMatch]

theorem joiner_served_iff_undelivered_twice :
    ∃ config, (machine .latest).exec .any (.initial (State.new ⟨7⟩)) registeredTwice =
        some config ∧ config.state.wake = .notifying ∧
        (Served .latest ⟨7⟩ config 2 ↔ deliveries config.trace = []) := by
  obtain ⟨config, executed, idle, last, woke⟩ :
      ∃ config, (machine .latest).exec .any (.initial (State.new ⟨7⟩)) registeredTwice =
        some config ∧ config.state.handle = .idle ∧
        (polls config.trace).getLast? = some ⟨2, 0, .pending⟩ ∧
        config.state.wake = .notifying := ⟨_, rfl, rfl, rfl, rfl⟩
  have run : (machine .latest).Reaches .any (.initial (State.new ⟨7⟩)) config :=
    reaches_of_exec registeredTwice executed
  exact ⟨config, executed, woke, joiner_served_iff_undelivered run idle last (.inl woke)⟩

/-- After `Ready` and a caught panic a third poll registers a waker too late. -/
def registeredLate : List (Action Nat Nat Nat) :=
  [.wakeLoad (.ok 42) 0, .wakeReplace, .pollLoad 1 0, .pollReplace, .pollSettle,
    .pollLoad 2 0, .pollReplace, .pollLoad 3 0, .pollReplace, .wakeStore, .wakeMatch]

theorem registered_late_not_served :
    ¬ ∀ (config : Config (State Nat Nat Nat) (Event Nat Nat Nat)) (waker loaded : Nat),
      (machine .latest).Reaches .any (.initial (State.new ⟨7⟩)) config →
      config.state.handle = .idle →
      (polls config.trace).getLast? = some ⟨waker, loaded, .pending⟩ →
      config.state.wake = .notifying ∨ config.state.wake = .returned →
      Served .latest ⟨7⟩ config waker := by
  intro claim
  obtain ⟨config, executed, idle, last, woke, uncalled⟩ :
      ∃ config, (machine .latest).exec .any (.initial (State.new ⟨7⟩)) registeredLate =
        some config ∧ config.state.handle = .idle ∧
        (polls config.trace).getLast? = some ⟨3, 0, .pending⟩ ∧
        config.state.wake = .returned ∧ woken config.trace = [] := ⟨_, rfl, rfl, rfl, rfl, rfl⟩
  have served := claim config 3 0 (reaches_of_exec registeredLate executed) idle last (.inr woke)
  have called := served.wokenOnce
  rw [uncalled] at called
  cases called

end Spawns.Joint
