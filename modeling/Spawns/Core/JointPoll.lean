/-
What one poll of a handle can answer, by phase.

A poll is busy from its load of the stage until it returns. The guard
`untilReady` describes a caller that stops polling at the first `Ready`.
-/

import Spawns.Core.JointStep

namespace Spawns

variable {T P : Type}

def PollOutcome.output? : PollOutcome T P → Option (Except (JoinError P) T)
  | .ready output => some output
  | _ => none

namespace Joint

open EventMachine

variable {W T P : Type} {visibility : Visibility} {trace events : List (Event W T P)}
  {state next : State W T P}

theorem deliveries_eq_polls (trace : List (Event W T P)) :
    deliveries trace = (polls trace).filterMap fun poll => poll.outcome.output? := by
  induction trace with
  | nil => rfl
  | cons event rest ih =>
      simp only [observe_cons, List.filterMap_append, ih]
      cases event with
      | pollReturned poll =>
          obtain ⟨waker, loaded, outcome⟩ := poll
          cases outcome <;> rfl
      | _ => rfl

theorem deliveries_nil_of_polls (quiet : polls events = []) : deliveries events = [] := by
  rw [deliveries_eq_polls, quiet]
  rfl

def HandlePoint.Busy : HandlePoint W T P → Prop
  | .taking _ => True
  | .registering _ _ => True
  | .settling _ _ _ => True
  | _ => False

def HandlePoint.caller? : HandlePoint W T P → Option W
  | .taking waker => some waker
  | .registering waker _ => some waker
  | .settling waker _ _ => some waker
  | _ => none

def HandlePoint.Replacing : HandlePoint W T P → Prop
  | .taking _ => True
  | .registering _ _ => True
  | _ => False

theorem HandlePoint.Replacing.busy {point : HandlePoint W T P} (replacing : point.Replacing) :
    point.Busy := by
  cases point with
  | taking | registering => trivial
  | idle | settling | detaching | dropped => cases replacing

inductive Answers (state : State W T P) : PollReturn W T P → Prop where
  | taking (waker : W) (handle : state.handle = .taking waker) :
      Answers state ⟨waker, Stage.finished.toUsize, takingOutcome state.id state.result⟩
  | registering (waker : W) (loaded : Nat) (handle : state.handle = .registering waker loaded)
      (unfinished : ∀ value, state.result ≠ .finished value) :
      Answers state ⟨waker, loaded, registeringOutcome state.id state.result⟩
  | settling (waker : W) (loaded : Nat) (value : TaskResult T P)
      (handle : state.handle = .settling waker loaded value) :
      Answers state ⟨waker, loaded, .ready (joinOutput state.id value)⟩

theorem Answers.busy {poll : PollReturn W T P} (answers : Answers state poll) :
    state.handle.Busy := by
  cases answers with
  | taking _ handle | registering _ _ handle | settling _ _ _ handle => rw [handle]; trivial

@[simp] theorem polls_discardedOf (result : JoinResult W T P) :
    polls (discardedOf result) = [] := observe_discardedOf (fun _ => rfl) _

@[simp] theorem calls_discardedOf (result : JoinResult W T P) :
    calls (discardedOf result) = [] := observe_discardedOf (fun _ => rfl) _

@[simp] theorem published_discardedOf (result : JoinResult W T P) :
    published (discardedOf result) = [] := observe_discardedOf (fun _ => rfl) _

@[simp] theorem woken_discardedOf (result : JoinResult W T P) :
    woken (discardedOf result) = [] := observe_discardedOf (fun _ => rfl) _

/-- A step of a joint lets at most one poll return, the one that was running. -/
theorem step_polls {action : Action W T P} (stages : StageFacts trace state)
    (stepped : (machine visibility).step state action = some (next, events)) :
    (polls events = [] ∧
      (next.handle.Busy → state.handle.Busy ∨ ∃ waker raw, action = .pollLoad waker raw)) ∨
    (∃ poll, polls events = [poll] ∧ Answers state poll ∧ next.handle = .idle) := by
  cases action with
  | wakeLoad value raw =>
      obtain ⟨_, _, ⟨_, rfl, rfl⟩ | ⟨_, rfl, rfl⟩ | ⟨_, rfl, rfl⟩⟩ := wakeLoad_cases stepped
      all_goals exact .inl ⟨rfl, .inl⟩
  | wakeReplace => obtain ⟨_, _, rfl, rfl⟩ := wakeReplace_cases stepped; exact .inl ⟨rfl, .inl⟩
  | wakeStore => obtain ⟨_, _, rfl, rfl⟩ := wakeStore_cases stepped; exact .inl ⟨rfl, .inl⟩
  | wakeMatch =>
      refine .inl ⟨wakeMatch_polls stepped, ?_⟩
      rw [(wakeMatch_frame stepped).2.2]
      exact .inl
  | wakeReturn => obtain ⟨_, rfl, rfl⟩ := wakeReturn_cases stepped; exact .inl ⟨rfl, .inl⟩
  | pollLoad waker raw =>
      obtain ⟨_, member, ⟨_, rfl, rfl⟩ | ⟨_, rfl, rfl⟩ | ⟨invalid, _⟩⟩ := pollLoad_cases stepped
      · exact .inl ⟨rfl, fun _ => .inr ⟨waker, raw, rfl⟩⟩
      · exact .inl ⟨rfl, fun _ => .inr ⟨waker, raw, rfl⟩⟩
      · obtain ⟨stage, valid⟩ := stages.valid member
        rw [invalid] at valid
        cases valid
  | pollReplace =>
      rcases pollReplace_cases stepped with
        ⟨waker, handle, rfl, rfl⟩ | ⟨waker, loaded, value, handle, _, rfl, rfl⟩ |
        ⟨waker, loaded, handle, unfinished, rfl, rfl⟩
      · exact .inr ⟨_, rfl, .taking waker handle, rfl⟩
      · exact .inl ⟨rfl, fun _ => .inl (by rw [handle]; trivial)⟩
      · exact .inr ⟨_, rfl, .registering waker loaded handle unfinished, rfl⟩
  | pollSettle =>
      obtain ⟨waker, loaded, value, handle, rfl, rfl⟩ := pollSettle_cases stepped
      refine .inr ⟨⟨waker, loaded, .ready (joinOutput state.id value)⟩, ?_,
        .settling waker loaded value handle, rfl⟩
      simp
  | dropStore => obtain ⟨_, rfl, rfl⟩ := dropStore_cases stepped; exact .inl ⟨rfl, False.elim⟩
  | dropReplace =>
      obtain ⟨_, rfl, rfl⟩ := dropReplace_cases stepped
      exact .inl ⟨polls_discardedOf _, False.elim⟩

/-- Before anything was delivered, a poll answers `Pending` while the result is
not published and `Ready` with the published value after that. -/
theorem Phase.answer {poll : PollReturn W T P} (phase : Phase trace state)
    (undelivered : deliveries trace = []) (answers : Answers state poll) :
    published trace = [] ∧ poll.outcome = .pending ∨
      ∃ value, calls trace = [value] ∧ published trace ≠ [] ∧
        poll.outcome = .ready (joinOutput state.id value) := by
  have busy := answers.busy
  cases phase with
  | fresh _ unpublished _ _ _ handle result =>
      refine .inl ⟨unpublished, ?_⟩
      cases answers with
      | taking _ point => rw [point] at handle; exact absurd trivial handle.2
      | registering =>
          exact registeringOutcome_registrable _ (result ▸ registered_registrable trace)
      | settling _ _ _ point => rw [point] at handle; exact False.elim handle.1
  | abandoned _ _ _ _ _ handle => rw [handle] at busy; cases busy
  | refused _ _ _ _ _ _ _ handle =>
      rcases handle with ⟨handle, _⟩ | ⟨handle, _⟩ <;> rw [handle] at busy <;> cases busy
  | available value _ called publishes _ _ handle result =>
      refine .inr ⟨value, called, by simp [publishes], ?_⟩
      cases answers with
      | taking => rw [result]; rfl
      | registering _ _ _ unfinished => exact absurd result (unfinished value)
      | settling _ _ _ point => rw [point] at handle; cases handle
  | settling value _ _ _ called publishes _ _ handle =>
      refine .inr ⟨value, called, by simp [publishes], ?_⟩
      cases answers with
      | taking _ point => rw [point] at handle; cases handle
      | registering _ _ point => rw [point] at handle; cases handle
      | settling _ _ _ point => rw [point] at handle; cases handle; rfl
  | taken _ _ _ _ _ _ _ delivered => rw [delivered] at undelivered; cases undelivered
  | revoked _ _ _ _ _ _ _ handle => rw [handle] at busy; cases busy
  | late _ _ _ _ _ _ _ handle => rw [handle] at busy; cases busy

/-! ### Polls along a run -/

private theorem step_id {action : Action W T P}
    (stepped : (machine visibility).step state action = some (next, events)) :
    next.id = state.id := by
  cases action with
  | wakeLoad value raw =>
      obtain ⟨_, _, ⟨_, rfl, _⟩ | ⟨_, rfl, _⟩ | ⟨_, rfl, _⟩⟩ := wakeLoad_cases stepped
      all_goals rfl
  | wakeReplace => obtain ⟨_, _, rfl, _⟩ := wakeReplace_cases stepped; rfl
  | wakeStore => obtain ⟨_, _, rfl, _⟩ := wakeStore_cases stepped; rfl
  | wakeMatch => exact (wakeMatch_frame stepped).1
  | wakeReturn => obtain ⟨_, rfl, _⟩ := wakeReturn_cases stepped; rfl
  | pollLoad waker raw =>
      obtain ⟨_, _, ⟨_, rfl, _⟩ | ⟨_, rfl, _⟩ | ⟨_, rfl, _⟩⟩ := pollLoad_cases stepped
      all_goals rfl
  | pollReplace =>
      rcases pollReplace_cases stepped with ⟨_, _, rfl, _⟩ | ⟨_, _, _, _, _, rfl, _⟩ |
        ⟨_, _, _, _, rfl, _⟩ <;> rfl
  | pollSettle => obtain ⟨_, _, _, _, rfl, _⟩ := pollSettle_cases stepped; rfl
  | dropStore => obtain ⟨_, rfl, _⟩ := dropStore_cases stepped; rfl
  | dropReplace => obtain ⟨_, rfl, _⟩ := dropReplace_cases stepped; rfl

variable {guard : Guard (State W T P) (Action W T P) (Event W T P)} {id : RawId}
  {config later : Config (State W T P) (Event W T P)}

theorem id_of_reaches
    (run : (machine visibility).Reaches guard (.initial (State.new id)) config) :
    config.state.id = id := by
  apply run.invariant (fun config => config.state.id = id) rfl
  intro before action next events _reached same _allowed stepped
  exact (step_id stepped).trans same

private theorem Phase.one_call (phase : Phase trace state) (publishes : published trace ≠ []) :
    ∃ value, calls trace = [value] := by
  cases phase with
  | fresh _ unpublished | abandoned _ unpublished | refused _ _ _ unpublished =>
      exact absurd unpublished publishes
  | available value _ called | settling value _ _ _ called | taken value _ _ _ called
  | revoked value _ _ _ called | late value _ called => exact ⟨value, called⟩

/-- Once the result is published and nothing is delivered, the next poll to
return does so with `Ready`, whatever happens before it does. -/
theorem next_poll_ready
    (run : (machine visibility).Reaches guard (.initial (State.new id)) config)
    (publishes : published config.trace ≠ []) (undelivered : deliveries config.trace = [])
    (continued : (machine visibility).Reaches guard config later) :
    polls later.trace = polls config.trace ∨
      ∃ value poll rest, calls config.trace = [value] ∧
        polls later.trace = polls config.trace ++ poll :: rest ∧
        poll.outcome = .ready (joinOutput id value) := by
  refine continued.invariant (fun later => polls later.trace = polls config.trace ∨
    ∃ value poll rest, calls config.trace = [value] ∧
      polls later.trace = polls config.trace ++ poll :: rest ∧
      poll.outcome = .ready (joinOutput id value)) (.inl rfl) ?_
  intro before action next events reached progress _allowed stepped
  have coherent := coherent_of_reaches (run.trans reached)
  obtain ⟨suffix, extends_⟩ := reached.exists_suffix
  rcases progress with silent | ⟨value, poll, rest, called, returned, outcome⟩
  · rcases step_polls coherent.stages stepped with ⟨quiet, _⟩ | ⟨poll, returned, answers, _⟩
    · exact .inl (by simp only [observe_append, silent, quiet, List.append_nil])
    · have nothing : deliveries before.trace = [] := by
        rw [deliveries_eq_polls, silent, ← deliveries_eq_polls, undelivered]
      have still : published before.trace ≠ [] := by
        rw [extends_]
        exact observe_append_ne_nil _ publishes suffix
      rcases coherent.phase.answer nothing answers with
        ⟨unpublished, _⟩ | ⟨value, called, _, outcome⟩
      · exact absurd unpublished still
      · obtain ⟨first, calledFirst⟩ := (coherent_of_reaches run).phase.one_call publishes
        have same : first = value := by
          rw [extends_, show calls (config.trace ++ suffix) = calls config.trace ++ calls suffix
            from observe_append _ _ _, calledFirst] at called
          exact (List.cons.inj called).1
        subst same
        refine .inr ⟨first, poll, [], calledFirst, ?_, ?_⟩
        · simp only [observe_append, silent, returned]
        · rw [outcome, id_of_reaches (run.trans reached)]
  · refine .inr ⟨value, poll, rest ++ polls events, called, ?_, outcome⟩
    simp only [observe_append, returned, List.append_assoc, List.cons_append]

theorem pollReplace_taking {waker : W} (visibility : Visibility)
    (handle : state.handle = .taking waker) :
    (machine visibility).step state .pollReplace =
      some ({ state with result := .joined, handle := .idle },
        [.pollReturned
          ⟨waker, Stage.finished.toUsize, takingOutcome state.id state.result⟩]) := by
  simp only [machine, pollReplace, handle]

theorem pollReplace_finished {waker : W} {loaded : Nat} {value : TaskResult T P}
    (visibility : Visibility) (handle : state.handle = .registering waker loaded)
    (result : state.result = .finished value) :
    (machine visibility).step state .pollReplace =
      some ({ state with
        result := .joining waker
        handle := .settling waker loaded value }, []) := by
  simp only [machine, pollReplace, handle, result]

theorem pollReplace_unfinished {waker : W} {loaded : Nat} (visibility : Visibility)
    (handle : state.handle = .registering waker loaded)
    (unfinished : ¬ ∃ value, state.result = .finished value) :
    (machine visibility).step state .pollReplace =
      some ({ state with result := .joining waker, handle := .idle },
        [.pollReturned ⟨waker, loaded, registeringOutcome state.id state.result⟩]) := by
  cases result : state.result with
  | finished value => exact absurd ⟨value, result⟩ unfinished
  | empty | joining | joined | detached => simp [machine, pollReplace, handle, result]

theorem pollSettle_settling {waker : W} {loaded : Nat} {value : TaskResult T P}
    (visibility : Visibility) (handle : state.handle = .settling waker loaded value) :
    (machine visibility).step state .pollSettle =
      some ({ state with result := .joined, handle := .idle }, discardedOf state.result ++
        [.pollReturned ⟨waker, loaded, .ready (joinOutput state.id value)⟩]) := by
  simp only [machine, pollSettle, handle]

/-- A running poll can always finish by its own steps alone. -/
theorem poll_finishes (busy : config.state.handle.Busy)
    (replaces : ∀ config, guard config .pollReplace)
    (settles : ∀ config, guard config .pollSettle) :
    ∃ later poll, (machine visibility).Reaches guard config later ∧
      polls later.trace = polls config.trace ++ [poll] ∧
      config.state.handle.caller? = some poll.waker := by
  obtain ⟨trace, state⟩ := config
  have settle (trace : List (Event W T P)) (state : State W T P) (waker : W) (loaded : Nat)
      (value : TaskResult T P) (handle : state.handle = .settling waker loaded value) :
      ∃ later, (machine visibility).Reaches guard ⟨trace, state⟩ later ∧
        polls later.trace =
          polls trace ++ [⟨waker, loaded, .ready (joinOutput state.id value)⟩] := by
    exact ⟨_, .single (.mk (settles _) (pollSettle_settling visibility handle)), by simp⟩
  cases handle : state.handle with
  | idle | detaching | dropped => rw [handle] at busy; cases busy
  | taking waker =>
      exact ⟨_, _, .single (.mk (replaces _) (pollReplace_taking visibility handle)),
        by simp; rfl, rfl⟩
  | registering waker loaded =>
      by_cases finished : ∃ value, state.result = .finished value
      · obtain ⟨value, result⟩ := finished
        obtain ⟨later, reached, returned⟩ := settle (trace ++ []) { state with
              result := .joining waker
              handle := .settling waker loaded value } waker loaded value rfl
        exact ⟨later, _,
          .head (.mk (replaces _) (pollReplace_finished visibility handle result)) reached,
          by rw [returned, List.append_nil], rfl⟩
      · exact ⟨_, _, .single (.mk (replaces _) (pollReplace_unfinished visibility handle finished)),
          by simp; rfl, rfl⟩
  | settling waker loaded value =>
      obtain ⟨later, reached, returned⟩ := settle trace state waker loaded value handle
      exact ⟨later, _, reached, returned, rfl⟩

/-! ### Callers that stop at the first `Ready` -/

def untilReady : Guard (State W T P) (Action W T P) (Event W T P) := fun config action =>
  match action with
  | .pollLoad _ _ => (deliveries config.trace).isEmpty = true
  | _ => True

instance (config : Config (State W T P) (Event W T P)) (action : Action W T P) :
    Decidable (untilReady config action) :=
  match action with
  | .pollLoad _ _ => inferInstanceAs (Decidable (_ = true))
  | .wakeLoad _ _ | .wakeReplace | .wakeStore | .wakeMatch | .wakeReturn | .pollReplace
  | .pollSettle | .dropStore | .dropReplace => inferInstanceAs (Decidable True)

theorem undelivered_of_busy
    (run : (machine visibility).Reaches untilReady (.initial (State.new id)) config)
    (busy : config.state.handle.Busy) : deliveries config.trace = [] := by
  refine run.invariant
    (fun config => config.state.handle.Busy → deliveries config.trace = []) (fun _ => rfl) ?_
    busy
  intro before action next events reached undelivered allowed stepped busy
  have coherent := coherent_of_reaches reached
  rcases step_polls coherent.stages stepped with ⟨quiet, cause⟩ | ⟨_, _, _, idle⟩
  · have before_nil : deliveries before.trace = [] := by
      rcases cause busy with running | ⟨waker, raw, rfl⟩
      · exact undelivered running
      · exact List.isEmpty_iff.mp allowed
    simp only [observe_append, before_nil, deliveries_nil_of_polls quiet, List.append_nil]
  · rw [idle] at busy
    cases busy

end Joint

end Spawns
