/-
How far one task has come: running, finishing, handing its value over, done, or
lost to a destructor that panicked.

The invariant holds for every run, whatever the inner future, its destructor and
the cancel calls do.
-/

import Spawns.Core.TaskStep

namespace Spawns.TaskFuture

open EventMachine BoxHeap

variable {W T P : Type} {trace events : List (Event W T P)} {state next : State W T P}

/-! ### Observables of a trace -/

@[simp] def Event.handed? : Event W T P → Option (TaskResult T P)
  | .handed value => some value
  | _ => none

@[simp] def Event.innerAnswer? : Event W T P → Option (InnerAnswer T P)
  | .innerReturned answer => some answer
  | _ => none

@[simp] def InnerAnswer.result? : InnerAnswer T P → Option (TaskResult T P)
  | .pending => none
  | .ready value => some (.ok value)
  | .panicked payload => some (.error (.panic payload))

@[simp] def Event.completion? : Event W T P → Option (TaskResult T P)
  | .innerReturned answer => InnerAnswer.result? answer
  | _ => none

@[simp] def Event.pollAnswer? : Event W T P → Option PollAnswer
  | .pollReturned answer => some answer
  | _ => none

@[simp] def Event.destruction? : Event W T P → Option Bool
  | .futureDropped panicked => some panicked
  | _ => none

@[simp] def Event.cancellation? : Event W T P → Option Nat
  | .cancelled call => some call
  | _ => none

@[simp] def Event.innerStart? : Event W T P → Option Unit
  | .innerStarted => some ()
  | _ => none

abbrev handed (trace : List (Event W T P)) : List (TaskResult T P) := observe Event.handed? trace

abbrev innerAnswers (trace : List (Event W T P)) : List (InnerAnswer T P) :=
  observe Event.innerAnswer? trace

abbrev completions (trace : List (Event W T P)) : List (TaskResult T P) :=
  observe Event.completion? trace

abbrev pollAnswers (trace : List (Event W T P)) : List PollAnswer :=
  observe Event.pollAnswer? trace

/-- One entry for each run of the inner future's destructor: whether it panicked. -/
abbrev destructions (trace : List (Event W T P)) : List Bool := observe Event.destruction? trace

abbrev cancellations (trace : List (Event W T P)) : List Nat := observe Event.cancellation? trace

abbrev innerStarts (trace : List (Event W T P)) : List Unit := observe Event.innerStart? trace

theorem observe_freeEvents {δ : Type} {keep : Event W T P → Option δ}
    (releases : ∀ token, keep (.released token) = none)
    (dangles : ∀ pointer, keep (.invalidAccess pointer) = none)
    (heap : Heap W) (box : Option Pointer) : observe keep (freeEvents heap box) = [] := by
  cases box with
  | none => rfl
  | some pointer =>
      simp only [freeEvents]
      split <;> simp [releases, dangles]

/-! ### The invariant -/

def Point.Running : Point W T P → Prop
  | .finishing _ _ => False
  | .handing _ _ => False
  | .notifying _ => False
  | .dropping => False
  | .dropped => False
  | _ => True

def Point.Over : Point W T P → Prop
  | .idle => True
  | .notifying _ => True
  | .dropping => True
  | .dropped => True
  | _ => False

/-- Why `finish` runs with this value. -/
def Due (trace : List (Event W T P)) (value : TaskResult T P) : Prop :=
  completions trace = [value] ∨
    completions trace = [] ∧ value = .error .cancelled ∧
      (cancellations trace ≠ [] ∨ .dropBegan true ∈ trace)

inductive Progress (trace : List (Event W T P)) (state : State W T P) : Prop where
  | running (future : state.hasFuture = true) (point : state.point.Running)
      (unhanded : handed trace = []) (pending : completions trace = [])
      (unready : ∀ answer ∈ pollAnswers trace, answer = .pending)
      (alive : destructions trace = [])
      (rejected : ∀ box, state.point = .rejecting box → cancellations trace ≠ [])
  | finishing (caller : Caller) (value : TaskResult T P) (future : state.hasFuture = true)
      (point : state.point = .finishing caller value) (due : Due trace value)
      (unhanded : handed trace = []) (unready : ∀ answer ∈ pollAnswers trace, answer = .pending)
      (alive : destructions trace = [])
  | handing (caller : Caller) (value : TaskResult T P) (future : state.hasFuture = false)
      (point : state.point = .handing caller value) (due : Due trace value)
      (unhanded : handed trace = []) (unready : ∀ answer ∈ pollAnswers trace, answer = .pending)
      (destroyed : destructions trace = [false])
  | done (value : TaskResult T P) (before after : List (Event W T P))
      (future : state.hasFuture = false) (point : state.point.Over)
      (split : trace = before ++ .handed value :: after) (due : Due before value)
      (once : handed before = [] ∧ handed after = [])
      (ended : completions after = []) (destroyed : destructions trace = [false])
  | lost (future : state.hasFuture = false)
      (point : state.point = .idle ∨ state.point = .dropping ∨ state.point = .dropped)
      (unhanded : handed trace = []) (destroyed : destructions trace = [true])

def SlotFacts (trace : List (Event W T P)) (state : State W T P) : Prop :=
  state.slot = .cancelled → cancellations trace ≠ []

theorem Due.append {value : TaskResult T P} (due : Due trace value)
    (silent : completions events = []) : Due (trace ++ events) value := by
  have same : completions (trace ++ events) = completions trace := by
    simp only [observe_append, silent, List.append_nil]
  rcases due with completed | ⟨none, cancelled, because⟩
  · exact .inl (same.trans completed)
  · refine .inr ⟨same.trans none, cancelled, ?_⟩
    rcases because with cancels | drops
    · exact .inl (observe_append_ne_nil _ cancels events)
    · exact .inr (List.mem_append_left _ drops)

/-! ### Steps that keep the progress -/

structure Quiet (events : List (Event W T P)) : Prop where
  unhanded : handed events = []
  pending : completions events = []
  unanswered : pollAnswers events = []
  undestroyed : destructions events = []

theorem quiet_freeEvents (heap : Heap W) (box : Option Pointer) :
    Quiet (freeEvents heap box : List (Event W T P)) where
  unhanded := observe_freeEvents (fun _ => rfl) (fun _ => rfl) heap box
  pending := observe_freeEvents (fun _ => rfl) (fun _ => rfl) heap box
  unanswered := observe_freeEvents (fun _ => rfl) (fun _ => rfl) heap box
  undestroyed := observe_freeEvents (fun _ => rfl) (fun _ => rfl) heap box

theorem Progress.frame (progress : Progress trace state) (quiet : Quiet events)
    (samePoint : next.point = state.point) (sameFuture : next.hasFuture = state.hasFuture) :
    Progress (trace ++ events) next := by
  have unhanded (none : handed trace = []) : handed (trace ++ events) = [] := by
    simp only [observe_append, none, quiet.unhanded, List.append_nil]
  have sameAnswers : pollAnswers (trace ++ events) = pollAnswers trace := by
    simp only [observe_append, quiet.unanswered, List.append_nil]
  have sameDestructions : destructions (trace ++ events) = destructions trace := by
    simp only [observe_append, quiet.undestroyed, List.append_nil]
  cases progress with
  | running future point none pending unready alive rejected =>
      refine .running (sameFuture.trans future) (samePoint ▸ point) (unhanded none) ?_
        (sameAnswers ▸ unready) (sameDestructions.trans alive) ?_
      · simp only [observe_append, pending, quiet.pending, List.append_nil]
      · intro box rejecting
        exact observe_append_ne_nil _ (rejected box (samePoint ▸ rejecting)) events
  | finishing caller value future point due none unready alive =>
      exact .finishing caller value (sameFuture.trans future) (samePoint.trans point)
        (due.append quiet.pending) (unhanded none) (sameAnswers ▸ unready)
        (sameDestructions.trans alive)
  | handing caller value future point due none unready destroyed =>
      exact .handing caller value (sameFuture.trans future) (samePoint.trans point)
        (due.append quiet.pending) (unhanded none) (sameAnswers ▸ unready)
        (sameDestructions.trans destroyed)
  | done value before after future point split due once ended destroyed =>
      refine .done value before (after ++ events) (sameFuture.trans future) (samePoint ▸ point)
        ?_ due ⟨once.1, ?_⟩ ?_ (sameDestructions.trans destroyed)
      · rw [split, List.append_assoc, List.cons_append]
      · simp only [observe_append, once.2, quiet.unhanded, List.append_nil]
      · simp only [observe_append, ended, quiet.pending, List.append_nil]
  | lost future point none destroyed =>
      exact .lost (sameFuture.trans future) (samePoint ▸ point) (unhanded none)
        (sameDestructions.trans destroyed)

theorem Progress.run (progress : Progress trace state) (at_ : state.point.Running)
    (future : state.hasFuture = true) (point : next.point.Running)
    (sameFuture : next.hasFuture = state.hasFuture) (unhanded : handed events = [])
    (pending : completions events = []) (answers : ∀ answer ∈ pollAnswers events, answer = .pending)
    (alive : destructions events = [])
    (rejected : ∀ box, next.point = .rejecting box → cancellations trace ≠ []) :
    Progress (trace ++ events) next := by
  cases progress with
  | running _ _ none nothing unready kept _ =>
      refine .running (sameFuture.trans future) point ?_ ?_ ?_ ?_ ?_
      · simp only [observe_append, none, unhanded, List.append_nil]
      · simp only [observe_append, nothing, pending, List.append_nil]
      · intro answer member
        simp only [observe_append, List.mem_append] at member
        exact member.elim (unready answer) (answers answer)
      · simp only [observe_append, kept, alive, List.append_nil]
      · intro box rejecting
        exact observe_append_ne_nil _ (rejected box rejecting) events
  | finishing _ _ _ here => rw [here] at at_; cases at_
  | handing _ _ _ here => rw [here] at at_; cases at_
  | done _ _ _ gone => rw [future] at gone; cases gone
  | lost gone => rw [future] at gone; cases gone

private theorem Progress.finish {caller : Caller} {value : TaskResult T P}
    (progress : Progress trace state) (at_ : state.point.Running)
    (future : state.hasFuture = true) (point : next.point = .finishing caller value)
    (sameFuture : next.hasFuture = state.hasFuture) (unhanded : handed events = [])
    (unanswered : pollAnswers events = []) (alive : destructions events = [])
    (due : completions trace = [] → Due (trace ++ events) value) :
    Progress (trace ++ events) next := by
  cases progress with
  | running _ _ none nothing unready kept _ =>
      refine .finishing caller value (sameFuture.trans future) point (due nothing) ?_ ?_ ?_
      · simp only [observe_append, none, unhanded, List.append_nil]
      · simpa only [observe_append, unanswered, List.append_nil] using unready
      · simp only [observe_append, kept, alive, List.append_nil]
  | finishing _ _ _ here => rw [here] at at_; cases at_
  | handing _ _ _ here => rw [here] at at_; cases at_
  | done _ _ _ gone => rw [future] at gone; cases gone
  | lost gone => rw [future] at gone; cases gone

/-- After the task is over, calls on it only move between their ends. -/
theorem Progress.end (progress : Progress trace state) (gone : state.hasFuture = false)
    (sameFuture : next.hasFuture = state.hasFuture)
    (point : next.point = .idle ∨ next.point = .dropping ∨ next.point = .dropped)
    (here : ∀ caller value, state.point ≠ .handing caller value) (unhanded : handed events = [])
    (pending : completions events = []) (undestroyed : destructions events = []) :
    Progress (trace ++ events) next := by
  have atEnd : next.point.Over := by
    rcases point with point | point | point <;> rw [point] <;> trivial
  cases progress with
  | running future => rw [gone] at future; cases future
  | finishing _ _ future => rw [gone] at future; cases future
  | handing caller value _ point => exact absurd point (here caller value)
  | done value before after _ _ split due once ended destroyed =>
      refine .done value before (after ++ events) (sameFuture.trans gone) atEnd ?_ due
        ⟨once.1, ?_⟩ ?_ ?_
      · rw [split, List.append_assoc, List.cons_append]
      · simp only [observe_append, once.2, unhanded, List.append_nil]
      · simp only [observe_append, ended, pending, List.append_nil]
      · simp only [observe_append, destroyed, undestroyed, List.append_nil]
  | lost _ _ none destroyed =>
      refine .lost (sameFuture.trans gone) point ?_ ?_
      · simp only [observe_append, none, unhanded, List.append_nil]
      · simp only [observe_append, destroyed, undestroyed, List.append_nil]

/-- A destructor that panics takes the value with it. -/
private theorem Progress.lose {caller : Caller} {value : TaskResult T P}
    (progress : Progress trace state) (at_ : state.point = .finishing caller value)
    (gone : next.hasFuture = false) (point : next.point = .idle ∨ next.point = .dropping)
    (unhanded : handed events = []) (panicked : destructions events = [true]) :
    Progress (trace ++ events) next := by
  cases progress with
  | running _ here => rw [at_] at here; cases here
  | finishing _ _ _ _ _ none _ alive =>
      refine .lost gone (point.imp_right .inl) ?_ ?_
      · simp only [observe_append, none, unhanded, List.append_nil]
      · simp only [observe_append, alive, panicked, List.nil_append]
  | handing _ _ _ here => rw [at_] at here; cases here
  | done _ _ _ _ here => rw [at_] at here; cases here
  | lost _ here => rw [at_] at here; simp at here

theorem Progress.future_of_running (progress : Progress trace state)
    (running : state.point.Running) (busy : ¬ state.point.Over) : state.hasFuture = true := by
  cases progress with
  | running future => exact future
  | finishing _ _ future => exact future
  | handing _ _ _ here => rw [here] at running; cases running
  | done _ _ _ _ here => exact absurd here busy
  | lost _ here =>
      have atEnd : state.point.Over := by
        rcases here with here | here | here <;> rw [here] <;> trivial
      exact absurd atEnd busy

theorem Progress.gone_of_over (progress : Progress trace state) (atEnd : state.point.Over)
    (busy : state.point ≠ .idle) : state.hasFuture = false := by
  cases progress with
  | running _ here =>
      cases point : state.point with
      | idle => exact absurd point busy
      | checking | polling | inner | boxing | loading | exchanging | storing | rejecting
      | finishing | handing => rw [point] at atEnd; cases atEnd
      | notifying | dropping | dropped => rw [point] at here; cases here
  | finishing _ _ _ here => rw [here] at atEnd; cases atEnd
  | handing _ _ gone => exact gone
  | done _ _ _ gone => exact gone
  | lost gone => exact gone

private theorem Progress.cancelled_of_rejecting {box : Pointer} (progress : Progress trace state)
    (point : state.point = .rejecting box) : cancellations trace ≠ [] := by
  cases progress with
  | running _ _ _ _ _ _ rejected => exact rejected box point
  | finishing _ _ _ here | handing _ _ _ here => rw [point] at here; cases here
  | done _ _ _ _ here => rw [point] at here; cases here
  | lost _ here => rw [point] at here; simp at here

theorem step_slotFacts {action : Action W T P} (facts : SlotFacts trace state)
    (transition : Transition state action next events) : SlotFacts (trace ++ events) next := by
  have kept (same : next.slot = state.slot) : SlotFacts (trace ++ events) next :=
    fun cancelled => observe_append_ne_nil _ (facts (same ▸ cancelled)) events
  cases transition with
  | updateStores => intro cancelled; cases cancelled
  | cancelTakes | cancelClaims => intro _cancelled; simp
  | pollsFinished | pollStarts | checkFinds | checkPasses | innerStarts | innerPends | innerEnds
  | boxReused | boxDangles | boxMade | updateFinds | updateLoads | updateRejected | updateRetries
  | updateReturns | boxRejected | futureDrops | futurePanicsInPoll | futurePanicsInDrop
  | wakeCalled | pollEnds | dropEnds | dropFinishes | dropSkips | fieldsDropped | cancelStarts
  | cancelFinds | cancelLoads | cancelLoses | cancelRetries | cancelWakes | cancelDangles
  | cancelFrees | cancellationDrops => exact kept rfl

theorem step_progress {action : Action W T P} (progress : Progress trace state)
    (facts : SlotFacts trace state) (transition : Transition state action next events) :
    Progress (trace ++ events) next := by
  -- A poll past its first test runs on a task that still has its future.
  have advance (running : state.point.Running) (busy : ¬ state.point.Over)
      (point : next.point.Running) (sameFuture : next.hasFuture = state.hasFuture)
      (unhanded : handed events = []) (pending : completions events = [])
      (answers : ∀ answer ∈ pollAnswers events, answer = .pending)
      (alive : destructions events = [])
      (rejected : ∀ box, next.point = .rejecting box → cancellations trace ≠ []) :=
    progress.run running (progress.future_of_running running busy) point sameFuture unhanded
      pending answers alive rejected
  cases transition with
  | pollsFinished waker point done =>
      exact progress.end done rfl (.inl point) (by simp [point]) rfl rfl rfl
  | pollStarts waker point unfinished =>
      exact progress.run (by rw [point]; trivial) unfinished trivial rfl rfl rfl (by simp) rfl
        (by simp)
  | checkFinds waker point cancelled =>
      refine progress.finish (by rw [point]; trivial) (progress.future_of_running
        (by rw [point]; trivial) (by rw [point]; exact not_false)) rfl rfl rfl rfl rfl ?_
      intro none
      exact .inr ⟨by simp [none], rfl, .inl (by simpa using facts cancelled)⟩
  | checkPasses waker point | innerStarts waker point | innerPends waker point =>
      exact advance (by rw [point]; trivial) (by rw [point]; exact not_false) trivial rfl rfl rfl
        (by simp) rfl (by simp)
  | innerEnds waker point answer value ends =>
      refine progress.finish (by rw [point]; trivial) (progress.future_of_running
        (by rw [point]; trivial) (by rw [point]; exact not_false)) rfl rfl rfl rfl rfl ?_
      intro none
      left
      rcases ends with ⟨output, rfl, rfl⟩ | ⟨payload, rfl, rfl⟩ <;> simp [none]
  | boxReused waker box point | boxMade waker address point | updateLoads waker box point
  | updateStores waker box current point | updateRetries waker box current point =>
      exact advance (by rw [point]; trivial) (by rw [point]; exact not_false) trivial rfl rfl rfl
        (by simp) rfl (by simp)
  | updateFinds waker box point cancelled =>
      exact advance (by rw [point]; trivial) (by rw [point]; exact not_false) trivial rfl rfl rfl
        (by simp) rfl fun _ _ => facts cancelled
  | updateRejected waker box current point changed cancelled =>
      exact advance (by rw [point]; trivial) (by rw [point]; exact not_false) trivial rfl rfl rfl
        (by simp) rfl fun _ _ => facts cancelled
  | updateReturns returned point =>
      have quiet : Quiet (freeEvents state.heap state.waker : List (Event W T P)) :=
        quiet_freeEvents _ _
      exact advance (by rw [point]; trivial) (by rw [point]; exact not_false) trivial rfl
        (by simp [quiet.unhanded]) (by simp [quiet.pending]) (by simp [quiet.unanswered])
        (by simp [quiet.undestroyed]) (by simp)
  | boxRejected box point =>
      have quiet : Quiet (freeEvents state.heap (some box) : List (Event W T P)) :=
        quiet_freeEvents _ _
      refine progress.finish (by rw [point]; trivial) (progress.future_of_running
        (by rw [point]; trivial) (by rw [point]; exact not_false)) rfl rfl quiet.unhanded
        quiet.unanswered quiet.undestroyed ?_
      intro none
      have cancelled := progress.cancelled_of_rejecting point
      exact .inr ⟨by simp [none, quiet.pending], rfl,
        .inl (observe_append_ne_nil _ cancelled _)⟩
  | futureDrops caller value point =>
      cases progress with
      | running _ here => rw [point] at here; cases here
      | finishing _ _ _ here due unhanded unready alive =>
          rw [point] at here
          cases here
          exact .handing caller value rfl rfl (due.append rfl) (by simp [unhanded])
            (by simpa using unready) (by simp [alive])
      | handing _ _ _ here => rw [point] at here; cases here
      | done _ _ _ _ here => rw [point] at here; cases here
      | lost _ here => rw [point] at here; simp at here
  | futurePanicsInPoll value point => exact progress.lose point rfl (.inl rfl) rfl rfl
  | futurePanicsInDrop value point => exact progress.lose point rfl (.inr rfl) rfl rfl
  | wakeCalled caller value point =>
      cases progress with
      | running _ here => rw [point] at here; cases here
      | finishing _ _ _ here => rw [point] at here; cases here
      | handing _ _ gone here due unhanded _ destroyed =>
          rw [point] at here
          cases here
          exact .done value trace [] gone trivial rfl due ⟨unhanded, rfl⟩ rfl
            (by simp [destroyed])
      | done _ _ _ _ here => rw [point] at here; cases here
      | lost _ here => rw [point] at here; simp at here
  | pollEnds point =>
      have gone := progress.gone_of_over (by rw [point]; trivial) (by simp [point])
      exact progress.end gone rfl (.inl rfl) (by simp [point]) rfl rfl rfl
  | dropEnds point =>
      have gone := progress.gone_of_over (by rw [point]; trivial) (by simp [point])
      exact progress.end gone rfl (.inr (.inl rfl)) (by simp [point]) rfl rfl rfl
  | dropFinishes point unfinished =>
      refine progress.finish (by rw [point]; trivial) unfinished rfl rfl rfl rfl rfl ?_
      intro none
      exact .inr ⟨by simp [none], rfl, .inr (by simp)⟩
  | dropSkips point done =>
      exact progress.end done rfl (.inr (.inl rfl)) (by simp [point]) rfl rfl rfl
  | fieldsDropped point =>
      have quiet : Quiet (freeEvents state.heap state.waker : List (Event W T P)) :=
        quiet_freeEvents _ _
      have gone := progress.gone_of_over (by rw [point]; trivial) (by simp [point])
      exact progress.end gone rfl (.inr (.inr rfl)) (by simp [point]) quiet.unhanded quiet.pending
        quiet.undestroyed
  | boxDangles | cancelStarts | cancelFinds | cancelLoads | cancelTakes | cancelClaims
  | cancelLoses | cancelRetries | cancelWakes | cancelDangles =>
      exact progress.frame ⟨rfl, rfl, rfl, rfl⟩ rfl rfl
  | cancelFrees | cancellationDrops => exact progress.frame (quiet_freeEvents _ _) rfl rfl

variable {guard : Guard (State W T P) (Action W T P) (Event W T P)}
  {config : Config (State W T P) (Event W T P)}

theorem slotFacts_of_reaches (run : machine.Reaches guard (.initial State.new) config) :
    SlotFacts config.trace config.state := by
  apply run.invariant (fun config => SlotFacts config.trace config.state)
  · intro cancelled
    cases cancelled
  · intro before action next events _reached facts _allowed stepped
    exact step_slotFacts facts (transition_of_step stepped)

theorem progress_of_reaches (run : machine.Reaches guard (.initial State.new) config) :
    Progress config.trace config.state := by
  apply run.invariant (fun config => Progress config.trace config.state)
  · exact .running rfl trivial rfl rfl (by simp [Config.initial]) rfl (by simp [Config.initial,
      State.new])
  · intro before action next events reached progress _allowed stepped
    exact step_progress progress (slotFacts_of_reaches reached) (transition_of_step stepped)

end Spawns.TaskFuture
