/-
Exactly-once delivery of a task's result to a caller that stops polling at
the first `Ready`.
-/

import Spawns.Core.JointPoll

namespace Spawns.Joint

open EventMachine

open Machine (reaches_of_exec)

variable {W T P : Type} {visibility : Visibility} {id : RawId}
  {config : Config (State W T P) (Event W T P)}

/-- What holds of a joint after every step of a run under `untilReady`. -/
structure ExactlyOnce (visibility : Visibility) (id : RawId)
    (config : Config (State W T P) (Event W T P)) : Prop where
  atMostOneReady : (deliveries config.trace).length ≤ 1
  readyCarriesValue : ∀ output ∈ deliveries config.trace,
    ∃ value, calls config.trace = [value] ∧ output = joinOutput id value
  noPollPanics : ∀ poll ∈ polls config.trace, ∀ panic, poll.outcome ≠ .panicked panic
  noWakePanics : config.state.wake ≠ .panicked
  readyAfterPublication : published config.trace ≠ [] → config.state.handle.Replacing →
    (∀ later poll rest, (machine visibility).Reaches untilReady config later →
      polls later.trace = polls config.trace ++ poll :: rest →
      ∃ value, calls config.trace = [value] ∧ poll.outcome = .ready (joinOutput id value)) ∧
    ∃ later poll, (machine visibility).Reaches untilReady config later ∧
      polls later.trace = polls config.trace ++ [poll]
  neverBoth : (deliveries config.trace).length + (discarded config.trace).length ≤ 1
  discardsValue : ∀ value ∈ discarded config.trace, calls config.trace = [value]
  accounted : config.state.wake = .returned → config.state.handle = .dropped →
    (deliveries config.trace).length + (discarded config.trace).length = 1 ∧
      config.state.result = .detached

theorem Phase.not_panicked {trace : List (Event W T P)} {state : State W T P}
    (phase : Phase trace state) : state.wake ≠ .panicked := by
  intro wake
  cases phase with
  | fresh waiting | abandoned waiting => simp_all
  | refused _ returned => rw [wake] at returned; cases returned
  | available _ after | settling _ _ _ after | taken _ _ after | revoked _ _ after =>
      rw [wake] at after; cases after
  | late _ after => simp_all

theorem Phase.fate {trace : List (Event W T P)} {state : State W T P}
    (phase : Phase trace state) :
    deliveries trace = [] ∧ discarded trace = [] ∨
      ∃ value, calls trace = [value] ∧
        (deliveries trace = [joinOutput state.id value] ∧ discarded trace = [] ∨
          deliveries trace = [] ∧ discarded trace = [value]) := by
  cases phase with
  | fresh _ _ _ kept pending | abandoned _ _ _ kept pending =>
      exact .inl ⟨pending.deliveries_nil, kept⟩
  | available _ _ _ _ kept pending | settling _ _ _ _ _ _ kept pending
  | late _ _ _ _ _ kept pending => exact .inl ⟨pending.deliveries_nil, kept⟩
  | refused value _ called _ _ lost pending =>
      exact .inr ⟨value, called, .inr ⟨pending.deliveries_nil, lost⟩⟩
  | taken value _ _ _ called _ kept delivered =>
      exact .inr ⟨value, called, .inl ⟨delivered, kept⟩⟩
  | revoked value _ _ _ called _ settled =>
      rcases settled with ⟨delivered, kept⟩ | ⟨pending, lost⟩
      · exact .inr ⟨value, called, .inl ⟨delivered, kept⟩⟩
      · exact .inr ⟨value, called, .inr ⟨pending.deliveries_nil, lost⟩⟩

private theorem Phase.settled {trace : List (Event W T P)} {state : State W T P}
    (phase : Phase trace state) (wake : state.wake = .returned)
    (handle : state.handle = .dropped) :
    (deliveries trace).length + (discarded trace).length = 1 ∧ state.result = .detached := by
  cases phase with
  | fresh waiting | abandoned waiting => simp_all
  | refused _ _ _ _ _ lost pending point =>
      rcases point with ⟨point, _⟩ | ⟨_, result⟩
      · rw [handle] at point; cases point
      · exact ⟨by simp [pending.deliveries_nil, lost], result⟩
  | available _ _ _ _ _ _ point | taken _ _ _ _ _ _ _ _ point =>
      rw [handle] at point; cases point
  | settling _ _ _ _ _ _ _ _ point => rw [handle] at point; cases point
  | revoked _ _ _ _ _ _ settled _ result =>
      rcases settled with ⟨delivered, kept⟩ | ⟨pending, lost⟩
      · exact ⟨by simp [delivered, kept], result⟩
      · exact ⟨by simp [pending.deliveries_nil, lost], result⟩
  | late _ after => simp_all

private theorem polls_do_not_panic
    (run : (machine visibility).Reaches untilReady (.initial (State.new id)) config) :
    ∀ poll ∈ polls config.trace, ∀ panic, poll.outcome ≠ .panicked panic := by
  refine run.invariant (fun config =>
    ∀ poll ∈ polls config.trace, ∀ panic, poll.outcome ≠ .panicked panic)
    (fun poll member => by cases member) ?_
  intro before action next events reached safe _allowed stepped
  have coherent := coherent_of_reaches reached
  rcases step_polls coherent.stages stepped with ⟨quiet, _⟩ | ⟨answer, returned, answers, _⟩
  · simpa only [observe_append, quiet, List.append_nil] using safe
  · intro poll member panic panicked
    simp only [observe_append, returned, List.mem_append, List.mem_singleton] at member
    rcases member with old | rfl
    · exact safe poll old panic panicked
    · have nothing := undelivered_of_busy reached answers.busy
      rcases coherent.phase.answer nothing answers with ⟨_, outcome⟩ | ⟨_, _, _, outcome⟩
      all_goals rw [outcome] at panicked; cases panicked

/-- Any interleaving of one `Joint::wake` with the polls, up to the first
`Ready`, and the drop of the handle delivers or discards the value once. -/
theorem wake_delivers_exactly_once
    (run : (machine visibility).Reaches untilReady (.initial (State.new id)) config) :
    ExactlyOnce visibility id config := by
  have phase := (coherent_of_reaches run).phase
  have sameId := id_of_reaches run
  refine
    { atMostOneReady := ?_
      readyCarriesValue := ?_
      noPollPanics := polls_do_not_panic run
      noWakePanics := phase.not_panicked
      readyAfterPublication := ?_
      neverBoth := ?_
      discardsValue := ?_
      accounted := phase.settled }
  · rcases phase.fate with ⟨none, _⟩ | ⟨_, _, ⟨once, _⟩ | ⟨none, _⟩⟩
    all_goals simp only [*, List.length_nil, List.length_singleton, Nat.zero_le, Nat.le_refl]
  · intro output member
    rcases phase.fate with ⟨none, _⟩ | ⟨value, called, ⟨once, _⟩ | ⟨none, _⟩⟩
    · rw [none] at member; cases member
    · rw [once, List.mem_singleton, sameId] at member
      exact ⟨value, called, member⟩
    · rw [none] at member; cases member
  · intro publishes replacing
    have undelivered := undelivered_of_busy run replacing.busy
    obtain ⟨finished, answer, finishes, answered, _⟩ :
        ∃ finished answer, (machine visibility).Reaches untilReady config finished ∧
          polls finished.trace = polls config.trace ++ [answer] ∧
          config.state.handle.caller? = some answer.waker :=
      poll_finishes replacing.busy (fun _ => trivial) (fun _ => trivial)
    refine ⟨?_, finished, answer, finishes, answered⟩
    intro later poll rest continued returned
    rcases next_poll_ready run publishes undelivered continued with
      silent | ⟨value, first, others, called, first_returned, outcome⟩
    · rw [silent] at returned
      exact absurd returned (by simp)
    · rw [returned, List.append_cancel_left_eq, List.cons.injEq] at first_returned
      exact ⟨value, called, first_returned.1 ▸ outcome⟩
  · rcases phase.fate with ⟨none, kept⟩ | ⟨_, _, ⟨once, kept⟩ | ⟨none, lost⟩⟩
    all_goals simp [*]
  · intro value member
    rcases phase.fate with ⟨_, kept⟩ | ⟨only, called, ⟨_, kept⟩ | ⟨_, lost⟩⟩
    · rw [kept] at member; cases member
    · rw [kept] at member; cases member
    · rw [lost, List.mem_singleton] at member
      rw [called, member]

/-- The second poll loads the stage before `wake` stores it and takes the
result between that store and the wake-up of the first poll's waker. -/
def overtakenWake : List (Action Nat Nat Nat) :=
  [.pollLoad 1 0, .pollReplace, .wakeLoad (.ok 42) 0, .wakeReplace, .pollLoad 2 0, .wakeStore,
    .pollReplace, .wakeMatch, .pollSettle, .wakeReturn, .dropStore, .dropReplace]

theorem wake_delivers_exactly_once_overtaken :
    ∃ config, (machine .latest).exec untilReady (.initial (State.new ⟨7⟩)) overtakenWake =
        some config ∧ ExactlyOnce .latest ⟨7⟩ config :=
  ⟨_, rfl, wake_delivers_exactly_once (reaches_of_exec overtakenWake rfl)⟩

end Spawns.Joint
