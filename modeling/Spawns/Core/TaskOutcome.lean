/-
The outcome of a task whose inner future has a destructor that returns.

The value handed to `Joint::wake` is decided once: by the answer that ended the
inner future, or by a cancellation that came first, or by an early drop.
-/

import Spawns.Core.TaskProgress

namespace Spawns.TaskFuture

open EventMachine BoxHeap

open Machine (reaches_of_exec)

variable {W T P : Type} {trace events : List (Event W T P)} {state next : State W T P}
  {config later : Config (State W T P) (Event W T P)}

def calm : Guard (State W T P) (Action W T P) (Event W T P) := fun _ action =>
  match action with
  | .dropFuture panics => panics = false
  | _ => True

instance (config : Config (State W T P) (Event W T P)) (action : Action W T P) :
    Decidable (calm config action) := by
  cases action <;> unfold calm <;> infer_instance

/-- What holds of a task after every step of a run under `calm`. -/
structure Outcome (config : Config (State W T P) (Event W T P)) : Prop where
  handsAtMostOnce : (handed config.trace).length ≤ 1
  handsByEnd : .ready ∈ pollAnswers config.trace ∨ config.state.point = .dropping ∨
    config.state.point = .dropped → (handed config.trace).length = 1
  okIff : ∀ value ∈ handed config.trace, ∀ output,
    value = .ok output ↔ .ready output ∈ innerAnswers config.trace
  panicIff : ∀ value ∈ handed config.trace, ∀ payload,
    value = .error (.panic payload) ↔ .panicked payload ∈ innerAnswers config.trace
  cancelledOtherwise : ∀ value ∈ handed config.trace,
    value = .error .cancelled ↔ ∀ answer ∈ innerAnswers config.trace, answer = .pending
  cancelledBecause : ∀ before after,
    config.trace = before ++ .handed (.error .cancelled) :: after →
      cancellations before ≠ [] ∨ .dropBegan true ∈ before
  staysDecided : handed config.trace ≠ [] → ∀ later, machine.Reaches calm config later →
    handed later.trace = handed config.trace ∧
      innerStarts later.trace = innerStarts config.trace
  laterPolls : handed config.trace ≠ [] → config.state.point = .idle → ∀ waker : W,
    machine.step config.state (.poll waker) =
      some (config.state, [.pollStarted waker, .pollReturned .ready])

/-! ### Answers and results of the inner future -/

private theorem completions_eq (trace : List (Event W T P)) :
    completions trace = (innerAnswers trace).filterMap InnerAnswer.result? := by
  induction trace with
  | nil => rfl
  | cons event rest ih =>
      simp only [observe_cons, List.filterMap_append, ih]
      cases event with
      | innerReturned answer => cases answer <;> rfl
      | _ => rfl

private theorem mem_completions {value : TaskResult T P} :
    value ∈ completions trace ↔
      ∃ answer ∈ innerAnswers trace, InnerAnswer.result? answer = some value := by
  rw [completions_eq, List.mem_filterMap]

theorem ok_mem_completions {output : T} :
    .ok output ∈ completions trace ↔ .ready output ∈ innerAnswers trace := by
  rw [mem_completions]
  constructor
  · rintro ⟨answer, member, result⟩
    cases answer <;> simp_all
  · intro member
    exact ⟨_, member, rfl⟩

theorem panic_mem_completions {payload : P} :
    .error (.panic payload) ∈ completions trace ↔ .panicked payload ∈ innerAnswers trace := by
  rw [mem_completions]
  constructor
  · rintro ⟨answer, member, result⟩
    cases answer <;> simp_all
  · intro member
    exact ⟨_, member, rfl⟩

theorem cancelled_not_mem_completions : .error .cancelled ∉ completions trace := by
  rw [mem_completions]
  rintro ⟨answer, _, result⟩
  cases answer <;> cases result

theorem completions_nil_iff :
    completions trace = [] ↔ ∀ answer ∈ innerAnswers trace, answer = .pending := by
  rw [completions_eq, List.filterMap_eq_nil_iff]
  refine forall₂_congr fun answer _ => ?_
  cases answer <;> simp

/-! ### The value handed over -/

private theorem destructions_calm (run : machine.Reaches calm (.initial State.new) config) :
    ∀ panicked ∈ destructions config.trace, panicked = false := by
  refine run.invariant
    (fun config => ∀ panicked ∈ destructions config.trace, panicked = false) (by simp
      [Config.initial]) ?_
  intro before action next events _reached safe allowed stepped
  have silent (none : destructions events = []) :
      ∀ panicked ∈ destructions (before.trace ++ events), panicked = false := by
    simpa only [observe_append, none, List.append_nil] using safe
  have transition := transition_of_step stepped
  cases transition with
  | futurePanicsInPoll | futurePanicsInDrop => cases allowed
  | futureDrops =>
      intro panicked member
      simp only [observe_append, List.mem_append] at member
      rcases member with old | new
      · exact safe panicked old
      · simpa using new
  | updateReturns =>
      apply silent
      simp [(quiet_freeEvents _ _).undestroyed]
  | boxRejected | fieldsDropped | cancelFrees | cancellationDrops =>
      exact silent (quiet_freeEvents _ _).undestroyed
  | pollsFinished | pollStarts | checkFinds | checkPasses | innerStarts | innerPends | innerEnds
  | boxReused | boxDangles | boxMade | updateFinds | updateLoads | updateStores | updateRejected
  | updateRetries | wakeCalled | pollEnds | dropEnds | dropFinishes | dropSkips | cancelStarts
  | cancelFinds | cancelLoads | cancelTakes | cancelClaims | cancelLoses | cancelRetries
  | cancelWakes | cancelDangles => exact silent rfl

theorem Progress.handed_value (progress : Progress trace state) (some : handed trace ≠ []) :
    state.hasFuture = false ∧ ∃ value before after, handed trace = [value] ∧
      trace = before ++ .handed value :: after ∧ handed before = [] ∧ handed after = [] ∧
      completions after = [] ∧ Due before value := by
  cases progress with
  | running _ _ none | finishing _ _ _ _ _ none | handing _ _ _ _ _ none | lost _ _ none =>
      exact absurd none some
  | done value before after future _ split due once ended =>
      refine ⟨future, value, before, after, ?_, split, once.1, once.2, ended, due⟩
      rw [split]
      simp [once]

private theorem innerStarts_of_gone {action : Action W T P} (progress : Progress trace state)
    (gone : state.hasFuture = false) (transition : Transition state action next events) :
    innerStarts events = [] ∧ next.hasFuture = false := by
  cases transition with
  | innerStarts waker point =>
      have future := progress.future_of_running (by rw [point]; trivial)
        (by rw [point]; exact not_false)
      rw [gone] at future
      cases future
  | updateReturns =>
      have quiet : innerStarts (freeEvents state.heap state.waker : List (Event W T P)) = [] :=
        observe_freeEvents (fun _ => rfl) (fun _ => rfl) _ _
      exact ⟨by simp [quiet], gone⟩
  | boxRejected | fieldsDropped | cancelFrees | cancellationDrops =>
      exact ⟨observe_freeEvents (fun _ => rfl) (fun _ => rfl) _ _, gone⟩
  | futureDrops | futurePanicsInPoll | futurePanicsInDrop => exact ⟨rfl, rfl⟩
  | pollsFinished | pollStarts | checkFinds | checkPasses | innerPends | innerEnds | boxReused
  | boxDangles | boxMade | updateFinds | updateLoads | updateStores | updateRejected
  | updateRetries | wakeCalled | pollEnds | dropEnds | dropFinishes | dropSkips | cancelStarts
  | cancelFinds | cancelLoads | cancelTakes | cancelClaims | cancelLoses | cancelRetries
  | cancelWakes | cancelDangles => exact ⟨rfl, gone⟩

variable {guard : Guard (State W T P) (Action W T P) (Event W T P)}

theorem innerStarts_final (run : machine.Reaches guard (.initial State.new) config)
    (gone : config.state.hasFuture = false) (continued : machine.Reaches guard config later) :
    innerStarts later.trace = innerStarts config.trace := by
  have both : innerStarts later.trace = innerStarts config.trace ∧
      later.state.hasFuture = false := by
    refine continued.invariant (fun later =>
      innerStarts later.trace = innerStarts config.trace ∧ later.state.hasFuture = false)
      ⟨rfl, gone⟩ ?_
    intro before action next events reached same _allowed stepped
    have quiet := innerStarts_of_gone (progress_of_reaches (run.trans reached)) same.2
      (transition_of_step stepped)
    refine ⟨?_, quiet.2⟩
    simp only [observe_append, same.1, quiet.1, List.append_nil]
  exact both.1

private theorem handed_final (run : machine.Reaches guard (.initial State.new) config)
    (some : handed config.trace ≠ []) (continued : machine.Reaches guard config later) :
    handed later.trace = handed config.trace := by
  obtain ⟨suffix, grows⟩ := continued.exists_suffix
  obtain ⟨_, first, _, _, before, _⟩ := (progress_of_reaches run).handed_value some
  have still : handed later.trace ≠ [] := by
    rw [grows]
    exact observe_append_ne_nil _ some suffix
  obtain ⟨_, second, _, _, after, _⟩ :=
    (progress_of_reaches (run.trans continued)).handed_value still
  have joined : handed later.trace = handed config.trace ++ handed suffix := by
    rw [grows]
    exact observe_append _ _ _
  rw [after, before, List.singleton_append, List.cons.injEq] at joined
  rw [after, before, joined.1]

theorem Progress.hands_by_end (progress : Progress trace state)
    (calmly : ∀ panicked ∈ destructions trace, panicked = false)
    (ended : .ready ∈ pollAnswers trace ∨ state.point = .dropping ∨ state.point = .dropped) :
    handed trace ≠ [] := by
  cases progress with
  | running _ point _ _ unready =>
      rcases ended with answered | dropping | dropped
      · cases unready _ answered
      · rw [dropping] at point; cases point
      · rw [dropped] at point; cases point
  | finishing _ _ _ point _ _ unready | handing _ _ _ point _ _ unready =>
      rcases ended with answered | dropping | dropped
      · cases unready _ answered
      · rw [dropping] at point; cases point
      · rw [dropped] at point; cases point
  | done value before after _ _ split => simp [split]
  | lost _ _ _ destroyed =>
      have impossible := calmly true (by simp [destroyed])
      cases impossible

/-- Whatever the inner future answers, whoever cancels and whenever the task is
dropped, it hands exactly one value over, and that value stays. -/
theorem task_hands_over_one_outcome (run : machine.Reaches calm (.initial State.new) config) :
    Outcome config := by
  have progress := progress_of_reaches run
  have decided : handed config.trace = [] ∨ ∃ value, handed config.trace = [value] ∧
      (completions config.trace = [value] ∨
        completions config.trace = [] ∧ value = .error .cancelled) := by
    by_cases none : handed config.trace = []
    · exact .inl none
    · obtain ⟨_, value, before, after, only, split, _, _, ended, due⟩ :=
        progress.handed_value none
      have same : completions config.trace = completions before := by
        rw [split]
        simp [ended]
      rw [same]
      exact .inr ⟨value, only, due.imp_right fun cancelled => ⟨cancelled.1, cancelled.2.1⟩⟩
  refine
    { handsAtMostOnce := ?_
      handsByEnd := ?_
      okIff := ?_
      panicIff := ?_
      cancelledOtherwise := ?_
      cancelledBecause := ?_
      staysDecided := ?_
      laterPolls := ?_ }
  · rcases decided with none | ⟨value, only, _⟩ <;> simp [*]
  · intro ended
    have some := progress.hands_by_end (destructions_calm run) ended
    rcases decided with none | ⟨value, only, _⟩
    · exact absurd none some
    · rw [only]
      rfl
  · intro value member output
    rw [← ok_mem_completions]
    rcases decided with none | ⟨only, handedOnly, completed | ⟨none, rfl⟩⟩
    · rw [none] at member; cases member
    · rw [handedOnly, List.mem_singleton] at member
      rw [completed, member, List.mem_singleton, eq_comm]
    · rw [handedOnly, List.mem_singleton] at member
      simp [none, member]
  · intro value member payload
    rw [← panic_mem_completions]
    rcases decided with none | ⟨only, handedOnly, completed | ⟨none, rfl⟩⟩
    · rw [none] at member; cases member
    · rw [handedOnly, List.mem_singleton] at member
      rw [completed, member, List.mem_singleton, eq_comm]
    · rw [handedOnly, List.mem_singleton] at member
      simp [none, member]
  · intro value member
    rw [← completions_nil_iff]
    rcases decided with none | ⟨only, handedOnly, completed | ⟨none, rfl⟩⟩
    · rw [none] at member; cases member
    · rw [handedOnly, List.mem_singleton] at member
      constructor
      · intro cancelled
        have impossible : .error .cancelled ∈ completions config.trace := by
          simp [completed, ← member, cancelled]
        exact absurd impossible cancelled_not_mem_completions
      · intro empty
        rw [completed] at empty
        cases empty
    · rw [handedOnly, List.mem_singleton] at member
      simp [none, member]
  · intro before after split
    have some : handed config.trace ≠ [] := by simp [split]
    obtain ⟨_, value, first, rest, only, splitFirst, unhanded, silent, ended, due⟩ :=
      progress.handed_value some
    have unique := split_unique Event.handed? (split.symm.trans splitFirst) (by simp) unhanded
      silent
    obtain ⟨rfl, same, rfl⟩ := unique
    cases same
    rcases due with completed | ⟨_, _, because⟩
    · have impossible : .error .cancelled ∈ completions before := by simp [completed]
      exact absurd impossible cancelled_not_mem_completions
    · exact because
  · intro some later continued
    have gone := (progress.handed_value some).1
    exact ⟨handed_final run some continued, innerStarts_final run gone continued⟩
  · intro some idle waker
    have gone := (progress.handed_value some).1
    simp [machine, poll, idle, gone]

/-- A cancel arrives while the inner future is polled; a second one and a drop come late. -/
def cancelledInPoll : List (Action Nat Nat Nat) :=
  [.poll 1, .check, .pollInner, .cancel, .cancelLoad 0, .cancelExchange 0, .innerReturn .pending,
    .newBox 8, .updateLoad, .rejectBox, .dropFuture false, .callWake, .returnWake, .cancel,
    .cancelLoad 1, .poll 2, .drop, .dropFields, .dropCancellation]

theorem task_hands_over_one_outcome_cancelled :
    ∃ config, machine.exec calm (.initial State.new) cancelledInPoll = some config ∧
      handed config.trace = [.error .cancelled] ∧ Outcome config := by
  obtain ⟨config, executed, value⟩ :
      ∃ config, machine.exec calm (.initial State.new) cancelledInPoll = some config ∧
        handed config.trace = [.error .cancelled] := ⟨_, rfl, rfl⟩
  exact ⟨config, executed, value,
    task_hands_over_one_outcome (reaches_of_exec cancelledInPoll executed)⟩

end Spawns.TaskFuture
