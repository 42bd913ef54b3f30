/-
Polls of a handle that has already returned `Ready`.

The fast path finds `Joined` and leaves `Joined`. The slow path finds `Joined`,
panics as well, but leaves `Joining` behind, and nothing repairs that: the next
poll of the handle then registers its waker or reaches `unreachable!`.
-/

import Spawns.Core.JointPoll

namespace Spawns.Joint

open EventMachine

open Machine (reaches_of_exec)

variable {W T P : Type} {visibility : Visibility} {trace events : List (Event W T P)}
  {state next : State W T P}

abbrev repolls (trace : List (Event W T P)) : List (PollReturn W T P) :=
  afterFirst (fun poll => poll.outcome.output?.isSome) (polls trace)

def StaysJoined (id : RawId) (trace : List (Event W T P)) : Prop :=
  ∀ poll ∈ repolls trace, poll.outcome = .panicked (.alreadyJoined id.toId)

/-- Every poll after the first `Ready`, the last one excepted, loaded `Finished`. -/
def RepolledAfterStore (trace : List (Event W T P)) : Prop :=
  ∀ poll ∈ (repolls trace).dropLast, poll.loaded = Stage.finished.toUsize

/-! ### Repolls along a trace -/

private theorem unready_of_undelivered (undelivered : deliveries trace = []) :
    ∀ poll ∈ polls trace, poll.outcome.output?.isSome = false := by
  rw [deliveries_eq_polls, List.filterMap_eq_nil_iff] at undelivered
  intro poll member
  rw [undelivered poll member]
  rfl

private theorem ready_of_delivered (delivered : deliveries trace ≠ []) :
    ∃ poll ∈ polls trace, poll.outcome.output?.isSome = true := by
  obtain ⟨output, member⟩ := List.exists_mem_of_ne_nil _ delivered
  rw [deliveries_eq_polls] at member
  obtain ⟨poll, returned, ready⟩ := List.mem_filterMap.mp member
  exact ⟨poll, returned, by rw [ready]; rfl⟩

private theorem repolls_of_undelivered (undelivered : deliveries trace = []) : repolls trace = [] :=
  afterFirst_eq_nil (unready_of_undelivered undelivered)

private theorem repolls_append (delivered : deliveries trace ≠ []) (events : List (Event W T P)) :
    repolls (trace ++ events) = repolls trace ++ polls events := by
  simp only [repolls, observe_append]
  exact afterFirst_append (ready_of_delivered delivered) _

private theorem repolls_first_answer {poll : PollReturn W T P} (undelivered : deliveries trace = [])
    (returned : polls events = [poll]) : repolls (trace ++ events) = [] := by
  simp only [repolls, observe_append, returned]
  exact afterFirst_append_singleton (unready_of_undelivered undelivered) _

/-! ### The joint after a delivery -/

private theorem Phase.delivered (phase : Phase trace state) (delivered : deliveries trace ≠ []) :
    ∃ previous, WakePoint.After trace previous state.wake ∧
      (previous.Registrable ∨ previous = .detached ∧ state.wake = .returned) ∧
      (state.handle.Open ∧ (state.result = .joined ∨ ∃ waker, state.result = .joining waker) ∨
        state.handle = .dropped) := by
  cases phase with
  | fresh _ _ _ _ pending | abandoned _ _ _ _ pending | refused _ _ _ _ _ _ pending
  | available _ _ _ _ _ pending | settling _ _ _ _ _ _ _ pending
  | late _ _ _ _ _ _ pending => exact absurd pending.deliveries_nil delivered
  | taken _ previous after took _ _ _ _ handle result =>
      exact ⟨previous, after, .inl took, .inl ⟨handle, result⟩⟩
  | revoked _ previous after took _ _ _ handle => exact ⟨previous, after, took, .inr handle⟩

def HandlePoint.SlowLoaded : HandlePoint W T P → Prop
  | .registering _ loaded => loaded ≠ Stage.finished.toUsize
  | .settling _ loaded _ => loaded ≠ Stage.finished.toUsize
  | _ => True

private theorem step_slowLoaded {action : Action W T P} (slow : state.handle.SlowLoaded)
    (stepped : (machine visibility).step state action = some (next, events)) :
    next.handle.SlowLoaded := by
  cases action with
  | wakeLoad value raw =>
      obtain ⟨_, _, ⟨_, rfl, _⟩ | ⟨_, rfl, _⟩ | ⟨_, rfl, _⟩⟩ := wakeLoad_cases stepped
      all_goals exact slow
  | wakeReplace => obtain ⟨_, _, rfl, _⟩ := wakeReplace_cases stepped; exact slow
  | wakeStore => obtain ⟨_, _, rfl, _⟩ := wakeStore_cases stepped; exact slow
  | wakeMatch => rw [(wakeMatch_frame stepped).2.2]; exact slow
  | wakeReturn => obtain ⟨_, rfl, _⟩ := wakeReturn_cases stepped; exact slow
  | pollLoad waker raw =>
      obtain ⟨_, _, ⟨_, rfl, _⟩ | ⟨other, rfl, _⟩ | ⟨_, rfl, _⟩⟩ := pollLoad_cases stepped
      · trivial
      · exact other
      · exact slow
  | pollReplace =>
      rcases pollReplace_cases stepped with ⟨_, _, rfl, _⟩ | ⟨_, _, _, handle, _, rfl, _⟩ |
        ⟨_, _, _, _, rfl, _⟩
      · trivial
      · rw [handle] at slow
        exact slow
      · trivial
  | pollSettle => obtain ⟨_, _, _, _, rfl, _⟩ := pollSettle_cases stepped; trivial
  | dropStore => obtain ⟨_, rfl, _⟩ := dropStore_cases stepped; trivial
  | dropReplace => obtain ⟨_, rfl, _⟩ := dropReplace_cases stepped; trivial

inductive Repolled (state next : State W T P) : PollReturn W T P → Prop where
  | fast (waker : W) (result : next.result = .joined) :
      Repolled state next
        ⟨waker, Stage.finished.toUsize, takingOutcome state.id state.result⟩
  | slow (waker : W) (loaded : Nat) (early : loaded ≠ Stage.finished.toUsize)
      (result : next.result = .joining waker) :
      Repolled state next ⟨waker, loaded, registeringOutcome state.id state.result⟩

private theorem wakeMatch_result (phase : Phase trace state) (delivered : deliveries trace ≠ [])
    (stepped : wakeMatch state = some (next, events)) : next.result = state.result := by
  obtain ⟨previous, wake⟩ := wakeMatch_cases stepped
  rcases phase.took (.inr wake) with ⟨_, took, _⟩ | ⟨_, _, _, _, _, _, pending, _⟩
  · obtain ⟨_, rfl, _⟩ := wakeMatch_registrable wake took stepped
    rfl
  · exact absurd pending.deliveries_nil delivered

private theorem step_after_delivery {action : Action W T P} (phase : Phase trace state)
    (stages : StageFacts trace state) (slow : state.handle.SlowLoaded)
    (delivered : deliveries trace ≠ [])
    (stepped : (machine visibility).step state action = some (next, events)) :
    (polls events = [] ∧ (next.result = state.result ∨ next.handle = .dropped) ∧
      (state.handle = .dropped → next.handle = .dropped)) ∨
    ∃ poll, polls events = [poll] ∧ state.handle ≠ .dropped ∧ Repolled state next poll := by
  obtain ⟨previous, after, _, place⟩ := phase.delivered delivered
  cases action with
  | wakeLoad value raw =>
      obtain ⟨_, _, ⟨_, rfl, rfl⟩ | ⟨_, rfl, rfl⟩ | ⟨_, rfl, rfl⟩⟩ := wakeLoad_cases stepped
      all_goals exact .inl ⟨rfl, .inl rfl, id⟩
  | wakeReplace =>
      obtain ⟨_, wake, _⟩ := wakeReplace_cases stepped
      rw [wake] at after
      cases after
  | wakeStore =>
      obtain ⟨_, _, rfl, rfl⟩ := wakeStore_cases stepped
      exact .inl ⟨rfl, .inl rfl, id⟩
  | wakeMatch =>
      refine .inl ⟨wakeMatch_polls stepped, .inl (wakeMatch_result phase delivered stepped), ?_⟩
      rw [(wakeMatch_frame stepped).2.2]
      exact id
  | wakeReturn =>
      obtain ⟨_, rfl, rfl⟩ := wakeReturn_cases stepped
      exact .inl ⟨rfl, .inl rfl, id⟩
  | pollLoad waker raw =>
      obtain ⟨idle, member, ⟨_, rfl, rfl⟩ | ⟨_, rfl, rfl⟩ | ⟨invalid, _⟩⟩ :=
        pollLoad_cases stepped
      · exact .inl ⟨rfl, .inl rfl, fun dropped => by rw [idle] at dropped; cases dropped⟩
      · exact .inl ⟨rfl, .inl rfl, fun dropped => by rw [idle] at dropped; cases dropped⟩
      · obtain ⟨stage, valid⟩ := stages.valid member
        rw [invalid] at valid
        cases valid
  | pollReplace =>
      rcases pollReplace_cases stepped with ⟨waker, handle, rfl, rfl⟩ |
        ⟨_, _, value, handle, finished, _⟩ | ⟨waker, loaded, handle, _, rfl, rfl⟩
      · exact .inr ⟨_, rfl, by rw [handle]; simp, .fast waker rfl⟩
      · rcases place with ⟨_, joined | ⟨_, joining⟩⟩ | dropped
        · rw [finished] at joined; cases joined
        · rw [finished] at joining; cases joining
        · rw [handle] at dropped; cases dropped
      · rw [handle] at slow
        exact .inr ⟨_, rfl, by rw [handle]; simp, .slow waker loaded slow rfl⟩
  | pollSettle =>
      obtain ⟨_, _, _, handle, _⟩ := pollSettle_cases stepped
      rcases place with ⟨opened, _⟩ | dropped
      · rw [handle] at opened; cases opened
      · rw [handle] at dropped; cases dropped
  | dropStore =>
      obtain ⟨idle, rfl, rfl⟩ := dropStore_cases stepped
      exact .inl ⟨rfl, .inl rfl, fun dropped => by rw [idle] at dropped; cases dropped⟩
  | dropReplace =>
      obtain ⟨_, rfl, rfl⟩ := dropReplace_cases stepped
      exact .inl ⟨polls_discardedOf _, .inr rfl, fun _ => rfl⟩

private theorem step_first_delivery {action : Action W T P}
    (stages : StageFacts trace state) (undelivered : deliveries trace = [])
    (stepped : (machine visibility).step state action = some (next, events))
    (delivers : deliveries (trace ++ events) ≠ []) : next.result = .joined := by
  have answered : deliveries events ≠ [] := by
    simpa only [observe_append, undelivered, List.nil_append] using delivers
  have returned : polls events ≠ [] := fun quiet => answered (deliveries_nil_of_polls quiet)
  cases action with
  | wakeLoad value raw =>
      obtain ⟨_, _, ⟨_, _, rfl⟩ | ⟨_, _, rfl⟩ | ⟨_, _, rfl⟩⟩ := wakeLoad_cases stepped
      all_goals exact absurd rfl returned
  | wakeReplace => obtain ⟨_, _, _, rfl⟩ := wakeReplace_cases stepped; exact absurd rfl returned
  | wakeStore => obtain ⟨_, _, _, rfl⟩ := wakeStore_cases stepped; exact absurd rfl returned
  | wakeMatch => exact absurd (wakeMatch_polls stepped) returned
  | wakeReturn => obtain ⟨_, _, rfl⟩ := wakeReturn_cases stepped; exact absurd rfl returned
  | pollLoad waker raw =>
      obtain ⟨_, member, ⟨_, _, rfl⟩ | ⟨_, _, rfl⟩ | ⟨invalid, _⟩⟩ := pollLoad_cases stepped
      · exact absurd rfl returned
      · exact absurd rfl returned
      · obtain ⟨stage, valid⟩ := stages.valid member
        rw [invalid] at valid
        cases valid
  | pollReplace =>
      rcases pollReplace_cases stepped with ⟨_, _, rfl, _⟩ | ⟨_, _, _, _, _, _, rfl⟩ |
        ⟨waker, loaded, _, unfinished, _, rfl⟩
      · rfl
      · exact absurd rfl returned
      · -- The slow path delivers nothing when the result is not `Finished`.
        cases result : state.result with
        | finished value => exact absurd result (unfinished value)
        | empty | joining | joined | detached =>
            rw [result] at answered
            exact absurd rfl answered
  | pollSettle => obtain ⟨_, _, _, _, rfl, _⟩ := pollSettle_cases stepped; rfl
  | dropStore => obtain ⟨_, _, rfl⟩ := dropStore_cases stepped; exact absurd rfl returned
  | dropReplace =>
      obtain ⟨_, _, rfl⟩ := dropReplace_cases stepped
      exact absurd (polls_discardedOf _) returned

/-! ### Repolls along a run -/

/-- How far the repolls of a handle have spoiled its result. -/
inductive Repolling (id : RawId) (trace : List (Event W T P)) (state : State W T P) : Prop where
  | undelivered (none : deliveries trace = [])
  | intact (delivered : deliveries trace ≠ [])
      (clean : ∀ poll ∈ repolls trace, poll.loaded = Stage.finished.toUsize ∧
        poll.outcome = .panicked (.alreadyJoined id.toId))
      (result : state.result = .joined ∨ state.handle = .dropped)
  | spoiled (delivered : deliveries trace ≠ []) (before : List (PollReturn W T P))
      (last : PollReturn W T P) (split : repolls trace = before ++ [last])
      (clean : ∀ poll ∈ before, poll.loaded = Stage.finished.toUsize ∧
        poll.outcome = .panicked (.alreadyJoined id.toId))
      (early : last.loaded ≠ Stage.finished.toUsize)
      (outcome : last.outcome = .panicked (.alreadyJoined id.toId))
      (result : (∃ waker, state.result = .joining waker) ∨ state.handle = .dropped)
  | broken (delivered : deliveries trace ≠ [])
      (early : ∃ poll ∈ (repolls trace).dropLast, poll.loaded ≠ Stage.finished.toUsize)
      (wrong : ∃ poll ∈ repolls trace, poll.outcome ≠ .panicked (.alreadyJoined id.toId))

private theorem Repolling.staysJoined_iff {id : RawId} (repolling : Repolling id trace state) :
    StaysJoined id trace ↔ RepolledAfterStore trace := by
  cases repolling with
  | undelivered none =>
      simp only [StaysJoined, RepolledAfterStore, repolls_of_undelivered none,
        List.dropLast_nil, List.not_mem_nil, false_implies, implies_true]
  | intact _ clean =>
      refine ⟨fun _ poll member => ?_, fun _ poll member => (clean poll member).2⟩
      exact (clean poll (List.dropLast_subset _ member)).1
  | spoiled _ before last split clean _ outcome =>
      constructor
      · intro _joined poll member
        rw [split, List.dropLast_concat] at member
        exact (clean poll member).1
      · intro _stored poll member
        rw [split, List.mem_append, List.mem_singleton] at member
        rcases member with old | rfl
        · exact (clean poll old).2
        · exact outcome
  | broken _ early wrong =>
      obtain ⟨poll, member, different⟩ := wrong
      obtain ⟨first, earlier, unstored⟩ := early
      exact ⟨fun joined => absurd (joined poll member) different,
        fun stored => absurd (stored first earlier) unstored⟩

private theorem Repolled.wrong {poll : PollReturn W T P} {waker : W}
    (repolled : Repolled state next poll) (joining : state.result = .joining waker) :
    poll.outcome ≠ .panicked (.alreadyJoined state.id.toId) := by
  cases repolled with
  | fast => rw [joining]; simp [takingOutcome]
  | slow => rw [joining]; simp [registeringOutcome]

private theorem Repolling.repoll {poll : PollReturn W T P}
    (repolling : Repolling state.id trace state)
    (delivered : deliveries trace ≠ []) (returned : polls events = [poll])
    (live : state.handle ≠ .dropped) (repolled : Repolled state next poll) :
    Repolling state.id (trace ++ events) next := by
  have still : deliveries (trace ++ events) ≠ [] := observe_append_ne_nil _ delivered events
  have grown : repolls (trace ++ events) = repolls trace ++ [poll] := by
    rw [repolls_append delivered, returned]
  cases repolling with
  | undelivered none => exact absurd none delivered
  | intact _ clean result =>
      have joined := result.resolve_right live
      cases repolled with
      | fast waker left =>
          refine .intact still ?_ (.inl left)
          intro poll member
          rw [grown, List.mem_append, List.mem_singleton] at member
          rcases member with old | rfl
          · exact clean poll old
          · exact ⟨rfl, by rw [joined]; rfl⟩
      | slow waker loaded early left =>
          exact .spoiled still _ _ grown clean early (by rw [joined]; rfl) (.inl ⟨waker, left⟩)
  | spoiled _ before last split _ early _ result =>
      obtain ⟨waker, joining⟩ := result.resolve_right live
      refine .broken still ⟨last, ?_, early⟩ ⟨poll, ?_, repolled.wrong joining⟩
      · rw [grown, List.dropLast_concat, split]
        simp
      · rw [grown]
        simp
  | broken _ early wrong =>
      obtain ⟨first, earlier, unstored⟩ := early
      obtain ⟨answer, member, different⟩ := wrong
      refine .broken still ⟨first, ?_, unstored⟩ ⟨answer, ?_, different⟩
      · rw [grown, List.dropLast_concat]
        exact List.dropLast_subset _ earlier
      · rw [grown]
        exact List.mem_append_left _ member

private theorem Repolling.silent (repolling : Repolling state.id trace state)
    (delivered : deliveries trace ≠ []) (quiet : polls events = [])
    (result : next.result = state.result ∨ next.handle = .dropped)
    (stays : state.handle = .dropped → next.handle = .dropped) :
    Repolling state.id (trace ++ events) next := by
  have still : deliveries (trace ++ events) ≠ [] := observe_append_ne_nil _ delivered events
  have same : repolls (trace ++ events) = repolls trace := by
    rw [repolls_append delivered, quiet, List.append_nil]
  cases repolling with
  | undelivered none => exact absurd none delivered
  | intact _ clean left =>
      refine .intact still (same ▸ clean) ?_
      rcases left with joined | dropped
      · exact result.imp_left fun kept => kept.trans joined
      · exact .inr (stays dropped)
  | spoiled _ before last split clean early outcome left =>
      refine .spoiled still before last (same.trans split) clean early outcome ?_
      rcases left with ⟨waker, joining⟩ | dropped
      · exact result.imp_left fun kept => ⟨waker, kept.trans joining⟩
      · exact .inr (stays dropped)
  | broken _ early wrong => exact .broken still (same ▸ early) (same ▸ wrong)

variable {guard : Guard (State W T P) (Action W T P) (Event W T P)} {id : RawId}
  {config : Config (State W T P) (Event W T P)}

theorem slowLoaded_of_reaches
    (run : (machine visibility).Reaches guard (.initial (State.new id)) config) :
    config.state.handle.SlowLoaded := by
  apply run.invariant (fun config => config.state.handle.SlowLoaded) trivial
  intro before action next events _reached slow _allowed stepped
  exact step_slowLoaded slow stepped

theorem repolling_of_reaches
    (run : (machine visibility).Reaches guard (.initial (State.new id)) config) :
    Repolling id config.trace config.state := by
  refine run.invariant (fun config => Repolling id config.trace config.state)
    (.undelivered rfl) ?_
  intro before action next events reached repolling _allowed stepped
  have coherent := coherent_of_reaches reached
  have same := id_of_reaches reached
  subst same
  by_cases delivered : deliveries before.trace = []
  · by_cases delivers : deliveries (before.trace ++ events) = []
    · exact .undelivered delivers
    · refine .intact delivers ?_ (.inl (step_first_delivery coherent.stages delivered stepped
        delivers))
      intro poll member
      rcases step_polls coherent.stages stepped with ⟨quiet, _⟩ | ⟨answer, returned, _⟩
      · refine absurd ?_ delivers
        simp only [observe_append, delivered, deliveries_nil_of_polls quiet, List.append_nil]
      · rw [repolls_first_answer delivered returned] at member
        cases member
  · rcases step_after_delivery coherent.phase coherent.stages (slowLoaded_of_reaches reached)
      delivered stepped with ⟨quiet, result, stays⟩ | ⟨poll, returned, live, repolled⟩
    · exact repolling.silent delivered quiet result stays
    · exact repolling.repoll delivered returned live repolled

/-- After the first `Ready` every poll panics with 'already joined' exactly when
none but the last of these polls began before `wake` had stored `Finished`. -/
theorem stays_joined_iff_repolled_after_store
    (run : (machine visibility).Reaches guard (.initial (State.new id)) config) :
    StaysJoined id config.trace ↔ RepolledAfterStore config.trace :=
  (repolling_of_reaches run).staysJoined_iff

/-- One slow poll takes the value, the next panics, and both kinds of poll after it go wrong. -/
def repollInWindow : List (Action Nat Nat Nat) :=
  [.wakeLoad (.ok 42) 0, .wakeReplace, .pollLoad 1 0, .pollReplace, .pollSettle,
    .pollLoad 2 0, .pollReplace, .pollLoad 3 0, .pollReplace, .wakeStore, .pollLoad 4 1,
    .pollReplace]

private theorem repollInWindow_outcomes :
    ∃ config, (machine .latest).exec .any (.initial (State.new ⟨7⟩)) repollInWindow =
        some config ∧ (repolls config.trace).map (fun poll => poll.outcome) =
          [.panicked (.alreadyJoined ⟨7⟩), .pending, .panicked .noTaskResult] :=
  ⟨_, rfl, rfl⟩

theorem stays_joined_iff_repolled_after_store_in_window :
    ∃ config, (machine .latest).exec .any (.initial (State.new ⟨7⟩)) repollInWindow =
        some config ∧ (StaysJoined ⟨7⟩ config.trace ↔ RepolledAfterStore config.trace) := by
  obtain ⟨config, executed, _outcomes⟩ := repollInWindow_outcomes
  have run : (machine .latest).Reaches .any (.initial (State.new ⟨7⟩)) config :=
    reaches_of_exec repollInWindow executed
  exact ⟨config, executed, stays_joined_iff_repolled_after_store run⟩

theorem repolled_in_window_unjoins :
    ¬ ∀ config : Config (State Nat Nat Nat) (Event Nat Nat Nat),
      (machine .latest).Reaches .any (.initial (State.new ⟨7⟩)) config →
        StaysJoined ⟨7⟩ config.trace := by
  intro claim
  obtain ⟨config, executed, outcomes⟩ := repollInWindow_outcomes
  have joined := claim config (reaches_of_exec repollInWindow executed)
  have pending : PollOutcome.pending ∈
      (repolls config.trace).map (fun poll => poll.outcome) := by
    rw [outcomes]
    simp
  obtain ⟨poll, member, same⟩ := List.mem_map.mp pending
  rw [joined poll member] at same
  cases same

end Spawns.Joint
