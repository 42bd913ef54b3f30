/-
What each action of a joint does to its phase.

Every action has one inversion lemma, and one lemma that moves its phase.
The last theorem carries the invariant through whole runs.
-/

import Spawns.Core.JointPhase

namespace Spawns.Joint

open EventMachine

variable {W T P : Type} {visibility : Visibility} {trace events : List (Event W T P)}
  {state next : State W T P}

/-! ### Inversion of the actions -/

theorem wakeLoad_cases {value : TaskResult T P} {raw : Nat}
    (stepped : wakeLoad visibility state value raw = some (next, events)) :
    state.wake = .notCalled ∧ raw ∈ state.stage.values ∧
      ((raw = Stage.running.toUsize ∧
          next = { state with wake := .replacing value } ∧ events = [.wakeCalled value]) ∨
        (raw ≠ Stage.running.toUsize ∧ next = { state with wake := .returned } ∧
          events = [.wakeCalled value, .discarded value]) ∨
        (Stage.ofUsize raw = none ∧ next = { state with wake := .panicked } ∧
          events = [.wakeCalled value, .discarded value])) := by
  unfold wakeLoad at stepped
  split at stepped
  · rename_i wake
    split at stepped
    · rename_i readable
      refine ⟨wake, readable.mem_values, ?_⟩
      match raw with
      | 0 => simp_all [Stage.ofUsize, Stage.toUsize]
      | 1 => simp_all [Stage.ofUsize, Stage.toUsize]
      | 2 => simp_all [Stage.ofUsize, Stage.toUsize]
      | _ + 3 => simp_all [Stage.ofUsize, Stage.toUsize]
    · cases stepped
  · cases stepped

theorem wakeReplace_cases (stepped : wakeReplace state = some (next, events)) :
    ∃ value, state.wake = .replacing value ∧
      next = { state with result := .finished value, wake := .storing state.result } ∧
      events = [.published state.result] := by
  unfold wakeReplace at stepped
  split at stepped
  · rename_i value wake
    cases stepped
    exact ⟨value, wake, rfl, rfl⟩
  · cases stepped

theorem wakeStore_cases (stepped : wakeStore state = some (next, events)) :
    ∃ previous, state.wake = .storing previous ∧
      next = { state with
        stage := state.stage.store Stage.finished.toUsize
        wake := .matching previous } ∧ events = [] := by
  unfold wakeStore at stepped
  split at stepped
  · rename_i previous wake
    cases stepped
    exact ⟨previous, wake, rfl, rfl⟩
  · cases stepped

theorem wakeMatch_registrable {previous : JoinResult W T P}
    (wake : state.wake = .matching previous) (took : previous.Registrable)
    (stepped : wakeMatch state = some (next, events)) :
    ∃ point, next = { state with wake := point } ∧
      events = previous.owedWakers.map .woken ∧
      (point = .returned ∨ point = .notifying) := by
  unfold wakeMatch at stepped
  rw [wake] at stepped
  cases previous with
  | empty => cases stepped; exact ⟨_, rfl, rfl, .inl rfl⟩
  | joining waker => cases stepped; exact ⟨_, rfl, rfl, .inr rfl⟩
  | joined => cases took
  | finished value => cases took
  | detached => cases took

theorem wakeMatch_detached (wake : state.wake = .matching .detached)
    (stepped : wakeMatch state = some (next, events)) :
    next = { state with result := .detached, wake := .returned } ∧
      events = discardedOf state.result := by
  unfold wakeMatch at stepped
  rw [wake] at stepped
  cases stepped
  exact ⟨rfl, rfl⟩

theorem wakeMatch_cases (stepped : wakeMatch state = some (next, events)) :
    ∃ previous, state.wake = .matching previous := by
  unfold wakeMatch at stepped
  split at stepped
  all_goals first
    | exact ⟨_, ‹_›⟩
    | cases stepped

theorem wakeReturn_cases (stepped : wakeReturn state = some (next, events)) :
    state.wake = .notifying ∧ next = { state with wake := .returned } ∧ events = [] := by
  unfold wakeReturn at stepped
  split at stepped
  · rename_i wake
    cases stepped
    exact ⟨wake, rfl, rfl⟩
  · cases stepped

theorem pollLoad_cases {waker : W} {raw : Nat}
    (stepped : pollLoad visibility state waker raw = some (next, events)) :
    state.handle = .idle ∧ raw ∈ state.stage.values ∧
      ((raw = Stage.finished.toUsize ∧
          next = { state with handle := .taking waker } ∧ events = []) ∨
        (raw ≠ Stage.finished.toUsize ∧
          next = { state with handle := .registering waker raw } ∧ events = []) ∨
        (Stage.ofUsize raw = none ∧ next = state ∧
          events = [.pollReturned ⟨waker, raw, .panicked (.invalidStage raw)⟩])) := by
  unfold pollLoad at stepped
  split at stepped
  · rename_i handle
    split at stepped
    · rename_i readable
      refine ⟨handle, readable.mem_values, ?_⟩
      match raw with
      | 0 => simp_all [Stage.ofUsize, Stage.toUsize]
      | 1 => simp_all [Stage.ofUsize, Stage.toUsize]
      | 2 => simp_all [Stage.ofUsize, Stage.toUsize]
      | _ + 3 => simp_all [Stage.ofUsize, Stage.toUsize]
    · cases stepped
  · cases stepped

theorem pollReplace_cases (stepped : pollReplace state = some (next, events)) :
    (∃ waker, state.handle = .taking waker ∧
      next = { state with result := .joined, handle := .idle } ∧
      events = [.pollReturned
        ⟨waker, Stage.finished.toUsize, takingOutcome state.id state.result⟩]) ∨
    (∃ waker loaded value, state.handle = .registering waker loaded ∧
      state.result = .finished value ∧
      next = { state with
        result := .joining waker
        handle := .settling waker loaded value } ∧ events = []) ∨
    (∃ waker loaded, state.handle = .registering waker loaded ∧
      (∀ value, state.result ≠ .finished value) ∧
      next = { state with result := .joining waker, handle := .idle } ∧
      events = [.pollReturned
        ⟨waker, loaded, registeringOutcome state.id state.result⟩]) := by
  unfold pollReplace at stepped
  split at stepped
  · rename_i waker handle
    cases stepped
    exact .inl ⟨waker, handle, rfl, rfl⟩
  · rename_i waker loaded handle
    split at stepped
    · rename_i value result
      cases stepped
      exact .inr (.inl ⟨waker, loaded, value, handle, result, rfl, rfl⟩)
    · rename_i unfinished
      cases stepped
      exact .inr (.inr ⟨waker, loaded, handle, unfinished, rfl, rfl⟩)
  · cases stepped

theorem pollSettle_cases (stepped : pollSettle state = some (next, events)) :
    ∃ waker loaded value, state.handle = .settling waker loaded value ∧
      next = { state with result := .joined, handle := .idle } ∧
      events = discardedOf state.result ++
        [.pollReturned ⟨waker, loaded, .ready (joinOutput state.id value)⟩] := by
  unfold pollSettle at stepped
  split at stepped
  · rename_i waker loaded value handle
    cases stepped
    exact ⟨waker, loaded, value, handle, rfl, rfl⟩
  · cases stepped

theorem dropStore_cases (stepped : dropStore state = some (next, events)) :
    state.handle = .idle ∧
      next = { state with
        stage := state.stage.store Stage.detached.toUsize
        handle := .detaching } ∧ events = [.detachBegan] := by
  unfold dropStore at stepped
  split at stepped
  · rename_i handle
    cases stepped
    exact ⟨handle, rfl, rfl⟩
  · cases stepped

theorem dropReplace_cases (stepped : dropReplace state = some (next, events)) :
    state.handle = .detaching ∧
      next = { state with result := .detached, handle := .dropped } ∧
      events = discardedOf state.result := by
  unfold dropReplace at stepped
  split at stepped
  · rename_i handle
    cases stepped
    exact ⟨handle, rfl, rfl⟩
  · cases stepped

/-! ### Moves of `Joint::wake` -/

private theorem wakeLoad_phase {value : TaskResult T P} {raw : Nat}
    (phase : Phase trace state) (stages : StageFacts trace state)
    (stepped : wakeLoad visibility state value raw = some (next, events)) :
    Phase (trace ++ events) next := by
  obtain ⟨wake, member, running | refused | invalid⟩ := wakeLoad_cases stepped
  · obtain ⟨_, rfl, rfl⟩ := running
    cases phase with
    | fresh waiting unpublished quiet kept pending handle result =>
        have uncalled : calls trace = [] := by simp_all
        exact .fresh (.inr ⟨value, rfl, by simp [uncalled]⟩) (by simp [unpublished])
          (by simp [quiet]) (by simp [kept]) (by simp [pending]) handle
          (by rw [registered_append rfl, result])
    | abandoned waiting unpublished quiet kept pending handle result =>
        have uncalled : calls trace = [] := by simp_all
        exact .abandoned (.inr ⟨value, rfl, by simp [uncalled]⟩) (by simp [unpublished])
          (by simp [quiet]) (by simp [kept]) (by simp [pending]) handle result
    | refused => simp_all
    | available _ after | settling _ _ _ after | taken _ _ after | revoked _ _ after =>
        rw [wake] at after; cases after
    | late => simp_all
  · obtain ⟨notRunning, rfl, rfl⟩ := refused
    cases phase with
    | fresh waiting unpublished quiet kept pending handle result =>
        have uncalled : calls trace = [] := by simp_all
        have leaving : state.handle = .detaching := by
          rcases stages raw member with same | ⟨_, impossible⟩ | ⟨_, leaving⟩
          · exact absurd same notRunning
          · exact absurd unpublished impossible
          · cases point : state.handle <;> simp_all [HandlePoint.Leaving, HandlePoint.Open]
        exact .refused value rfl (by simp [uncalled]) (by simp [unpublished])
          (by simp [quiet]) (by simp [kept]) (by simp [pending])
          (.inl ⟨leaving, result ▸ registered_registrable trace⟩)
    | abandoned waiting unpublished quiet kept pending handle result =>
        have uncalled : calls trace = [] := by simp_all
        exact .refused value rfl (by simp [uncalled]) (by simp [unpublished])
          (by simp [quiet]) (by simp [kept]) (by simp [pending]) (.inr ⟨handle, result⟩)
    | refused => simp_all
    | available _ after | settling _ _ _ after | taken _ _ after | revoked _ _ after =>
        rw [wake] at after; cases after
    | late => simp_all
  · obtain ⟨stage, valid⟩ := stages.valid member
    rw [invalid.1] at valid
    cases valid

private theorem wakeReplace_phase (phase : Phase trace state)
    (stepped : wakeReplace state = some (next, events)) :
    Phase (trace ++ events) next := by
  obtain ⟨value, wake, rfl, rfl⟩ := wakeReplace_cases stepped
  cases phase with
  | fresh waiting unpublished quiet kept pending handle result =>
      have called : calls trace = [value] := by simp_all
      refine .available value ?_ (by simp [called]) ?_ (by simp [kept]) (by simp [pending])
        handle.1 rfl
      · rw [registered_append rfl, ← result]
        exact .storing (by simp [quiet])
      · simp [unpublished, registered_append, result]
  | abandoned waiting unpublished quiet kept pending handle result =>
      have called : calls trace = [value] := by simp_all
      exact .late value (.inl (by simp [result])) (by simp [called])
        (by simp [unpublished, result]) (by simp [quiet]) (by simp [kept]) (by simp [pending])
        handle rfl
  | refused => simp_all
  | available _ after | settling _ _ _ after | taken _ _ after | revoked _ _ after =>
      rw [wake] at after; cases after
  | late => simp_all

/-- After publication only the wake point, the stage and wake-ups change. -/
private theorem Phase.advance {previous : JoinResult W T P} {point : WakePoint W T P}
    {cell : AtomicCell Nat} (phase : Phase trace state) (wakers : List W)
    (publishes : published trace = [previous]) (took : previous.Registrable)
    (after : WakePoint.After (trace ++ wakers.map .woken) previous point) :
    Phase (trace ++ wakers.map .woken) { state with stage := cell, wake := point } := by
  have quietCalls : calls (wakers.map .woken : List (Event W T P)) = [] :=
    observe_map_none _ _ fun _ => rfl
  have quietPublished : published (wakers.map .woken : List (Event W T P)) = [] :=
    observe_map_none _ _ fun _ => rfl
  have quietPolls : polls (wakers.map .woken : List (Event W T P)) = [] :=
    observe_map_none _ _ fun _ => rfl
  have quietDiscarded : discarded (wakers.map .woken : List (Event W T P)) = [] :=
    observe_map_none _ _ fun _ => rfl
  have quietDeliveries : deliveries (wakers.map .woken : List (Event W T P)) = [] :=
    observe_map_none _ _ fun _ => rfl
  have stillPending (pending : AllPending trace) : AllPending (trace ++ wakers.map .woken) := by
    intro poll member
    simp only [observe_append, quietPolls, List.append_nil] at member
    exact pending poll member
  cases phase with
  | fresh _ unpublished => rw [unpublished] at publishes; cases publishes
  | abandoned _ unpublished => rw [unpublished] at publishes; cases publishes
  | refused _ _ _ unpublished => rw [unpublished] at publishes; cases publishes
  | available value _ called stored kept pending handle result =>
      have same : registered trace = previous := by simpa [publishes] using stored.symm
      refine .available value ?_ (by simp [called, quietCalls]) ?_
        (by simp [kept, quietDiscarded]) (stillPending pending) handle result
      · rw [registered_append quietPolls, same]
        exact after
      · simp [publishes, quietPublished, registered_append quietPolls, same]
  | settling value waker loaded _ called stored kept pending handle result =>
      have same : registered trace = previous := by simpa [publishes] using stored.symm
      refine .settling value waker loaded ?_ (by simp [called, quietCalls]) ?_
        (by simp [kept, quietDiscarded]) (stillPending pending) handle result
      · rw [registered_append quietPolls, same]
        exact after
      · simp [publishes, quietPublished, registered_append quietPolls, same]
  | taken value before _ _ called stored kept delivered handle result =>
      have same : before = previous := by simpa [publishes] using stored.symm
      exact .taken value previous after took (by simp [called, quietCalls])
        (by simp [publishes, quietPublished]) (by simp [kept, quietDiscarded])
        (by simp [delivered, quietDeliveries]) handle result
  | revoked value before _ _ called stored settled handle result =>
      refine .revoked value previous after (.inl took) (by simp [called, quietCalls])
        (by simp [publishes, quietPublished]) ?_ handle result
      rcases settled with ⟨delivered, kept⟩ | ⟨pending, lost⟩
      · exact .inl ⟨by simp [delivered, quietDeliveries], by simp [kept, quietDiscarded]⟩
      · exact .inr ⟨stillPending pending, by simp [lost, quietDiscarded]⟩
  | late _ _ _ stored =>
      rw [stored, List.cons.injEq] at publishes
      rw [← publishes.1] at took
      cases took

theorem Phase.took {previous : JoinResult W T P} (phase : Phase trace state)
    (wake : state.wake = .storing previous ∨ state.wake = .matching previous) :
    (published trace = [previous] ∧ previous.Registrable ∧ woken trace = []) ∨
      previous = .detached ∧ ∃ value, calls trace = [value] ∧
        published trace = [.detached] ∧ woken trace = [] ∧ discarded trace = [] ∧
        AllPending trace ∧ state.handle = .dropped ∧ state.result = .finished value := by
  cases phase with
  | fresh waiting | abandoned waiting => rcases wake with wake | wake <;> simp_all
  | refused _ returned => rcases wake with wake | wake <;> simp_all
  | available _ after _ stored | settling _ _ _ after _ stored =>
      left
      rcases wake with wake | wake
      all_goals
        rw [wake] at after
        cases after with
        | _ quiet => exact ⟨stored, registered_registrable trace, quiet⟩
  | taken _ before after took _ stored =>
      left
      rcases wake with wake | wake
      all_goals
        rw [wake] at after
        cases after with
        | _ quiet => exact ⟨stored, took, quiet⟩
  | revoked _ before after took _ stored =>
      left
      rcases wake with wake | wake
      all_goals
        rw [wake] at after
        cases after with
        | _ quiet => exact ⟨stored, took.resolve_right (by simp [wake]), quiet⟩
  | late value after called stored quiet kept pending handle result =>
      right
      rcases wake with wake | wake
      all_goals
        have same : previous = .detached := by simp_all
        exact ⟨same, value, called, stored, quiet, kept, pending, handle, result⟩

private theorem wakeStore_phase (phase : Phase trace state)
    (stepped : wakeStore state = some (next, events)) :
    Phase (trace ++ events) next := by
  obtain ⟨previous, wake, rfl, rfl⟩ := wakeStore_cases stepped
  rcases phase.took (.inl wake) with ⟨publishes, took, quiet⟩ | late
  · exact phase.advance [] publishes took (.matching (by simpa using quiet))
  · obtain ⟨rfl, value, called, publishes, quiet, kept, pending, handle, result⟩ := late
    rw [List.append_nil]
    exact .late value (.inr rfl) called publishes quiet kept pending handle result

private theorem wakeMatch_phase (phase : Phase trace state)
    (stepped : wakeMatch state = some (next, events)) :
    Phase (trace ++ events) next := by
  obtain ⟨previous, wake⟩ := wakeMatch_cases stepped
  rcases phase.took (.inr wake) with ⟨publishes, took, quiet⟩ | late
  · obtain ⟨point, rfl, rfl, reached⟩ := wakeMatch_registrable wake took stepped
    apply phase.advance _ publishes took
    have owed : woken (trace ++ previous.owedWakers.map .woken) = previous.owedWakers := by
      simp only [observe_append, quiet, List.nil_append]
      exact observe_map_some _ _ fun _ => rfl
    rcases reached with rfl | rfl
    · exact .returned owed
    · exact .notifying owed
  · obtain ⟨rfl, value, called, publishes, quiet, kept, pending, handle, result⟩ := late
    obtain ⟨rfl, rfl⟩ := wakeMatch_detached wake stepped
    rw [result]
    exact .revoked value .detached (.returned (by simp [discardedOf, quiet, JoinResult.owedWakers]))
      (.inr ⟨rfl, rfl⟩) (by simp [discardedOf, called]) (by simp [discardedOf, publishes])
      (.inr ⟨by simp [discardedOf, pending], by simp [discardedOf, kept]⟩) handle rfl

private theorem wakeReturn_phase (phase : Phase trace state)
    (stepped : wakeReturn state = some (next, events)) :
    Phase (trace ++ events) next := by
  obtain ⟨wake, rfl, rfl⟩ := wakeReturn_cases stepped
  have before := phase
  cases phase with
  | fresh waiting | abandoned waiting => simp_all
  | refused _ returned => simp_all
  | available value after _ stored | settling value _ _ after _ stored =>
      rw [wake] at after
      cases after with
      | notifying owed =>
          exact before.advance [] stored (registered_registrable trace)
            (.returned (by simpa using owed))
  | taken value previous after took _ stored =>
      rw [wake] at after
      cases after with
      | notifying owed =>
          exact before.advance [] stored took (.returned (by simpa using owed))
  | revoked value previous after took _ stored =>
      rw [wake] at after
      cases after with
      | notifying owed =>
          exact before.advance [] stored (took.resolve_right (by simp [wake]))
            (.returned (by simpa using owed))
  | late _ after => simp_all

/-! ### Moves of the handle -/

private theorem pollLoad_phase {waker : W} {raw : Nat}
    (phase : Phase trace state) (stages : StageFacts trace state)
    (stepped : pollLoad visibility state waker raw = some (next, events)) :
    Phase (trace ++ events) next := by
  obtain ⟨handle, member, taking | registering | invalid⟩ := pollLoad_cases stepped
  · obtain ⟨finished, rfl, rfl⟩ := taking
    rw [List.append_nil]
    cases phase with
    | fresh _ unpublished =>
        rcases stages raw member with same | ⟨_, impossible⟩ | ⟨same, _⟩
        · rw [finished] at same; cases same
        · exact absurd unpublished impossible
        · rw [finished] at same; cases same
    | abandoned | refused | settling | revoked | late => simp_all
    | available value after called publishes kept pending _ result =>
        exact .available value after called publishes kept pending trivial result
    | taken value previous after took called publishes kept delivered _ result =>
        exact .taken value previous after took called publishes kept delivered trivial result
  · obtain ⟨_, rfl, rfl⟩ := registering
    rw [List.append_nil]
    cases phase with
    | fresh waiting unpublished quiet kept pending _ result =>
        exact .fresh waiting unpublished quiet kept pending ⟨trivial, not_false⟩ result
    | abandoned | refused | settling | revoked | late => simp_all
    | available value after called publishes kept pending _ result =>
        exact .available value after called publishes kept pending trivial result
    | taken value previous after took called publishes kept delivered _ result =>
        exact .taken value previous after took called publishes kept delivered trivial result
  · obtain ⟨stage, valid⟩ := stages.valid member
    rw [invalid.1] at valid
    cases valid

theorem registeringOutcome_registrable (id : RawId) {result : JoinResult W T P}
    (registrable : result.Registrable) : registeringOutcome id result = .pending := by
  cases result with
  | empty => rfl
  | joining waker => rfl
  | joined => cases registrable
  | finished value => cases registrable
  | detached => cases registrable

private theorem pollReplace_phase (phase : Phase trace state)
    (stepped : pollReplace state = some (next, events)) :
    Phase (trace ++ events) next := by
  rcases pollReplace_cases stepped with
    ⟨waker, handle, rfl, rfl⟩ | ⟨waker, loaded, found, handle, finished, rfl, rfl⟩ |
    ⟨waker, loaded, handle, unfinished, rfl, rfl⟩
  · cases phase with
    | fresh _ _ _ _ _ point => simp_all [HandlePoint.Taking]
    | abandoned | refused | settling | revoked | late => simp_all
    | available value after called publishes kept pending _ result =>
        refine .taken value (registered trace) (after.append rfl)
          (registered_registrable trace) (by simp [called]) (by simp [publishes])
          (by simp [kept]) ?_ trivial (.inl rfl)
        simp [pending.deliveries_nil, result, takingOutcome]
    | taken value previous after took called publishes kept delivered _ result =>
        refine .taken value previous (after.append rfl) took (by simp [called])
          (by simp [publishes]) (by simp [kept]) ?_ trivial (.inl rfl)
        rcases result with result | ⟨_, result⟩ <;> simp [delivered, result, takingOutcome]
  · rw [List.append_nil]
    cases phase with
    | fresh _ _ _ _ _ _ result =>
        have registrable := registered_registrable trace
        rw [← result, finished] at registrable
        cases registrable
    | abandoned | refused | settling | revoked | late => simp_all
    | available value after called publishes kept pending _ result =>
        have same : found = value := by simp_all
        subst same
        exact .settling found waker loaded after called publishes kept pending rfl rfl
    | taken _ _ _ _ _ _ _ _ _ result => rcases result with result | ⟨_, result⟩ <;> simp_all
  · cases phase with
    | fresh waiting unpublished quiet kept pending _ result =>
        have outcome : registeringOutcome state.id state.result = .pending :=
          registeringOutcome_registrable _ (result ▸ registered_registrable trace)
        exact .fresh (by simpa using waiting) (by simp [unpublished]) (by simp [quiet])
          (by simp [kept]) (by simp [pending, outcome]) ⟨trivial, not_false⟩
          (by rw [registered_pollReturned])
    | abandoned | refused | settling | revoked | late => simp_all
    | available value _ _ _ _ _ _ result => exact absurd result (unfinished value)
    | taken value previous after took called publishes kept delivered _ result =>
        refine .taken value previous (after.append rfl) took (by simp [called])
          (by simp [publishes]) (by simp [kept]) ?_ trivial (.inr ⟨waker, rfl⟩)
        rcases result with result | ⟨_, result⟩ <;> simp [delivered, result, registeringOutcome]

private theorem pollSettle_phase (phase : Phase trace state)
    (stepped : pollSettle state = some (next, events)) :
    Phase (trace ++ events) next := by
  obtain ⟨waker, loaded, found, handle, rfl, rfl⟩ := pollSettle_cases stepped
  cases phase with
  | fresh _ _ _ _ _ point => simp_all [HandlePoint.Open]
  | available _ _ _ _ _ _ point => simp_all [HandlePoint.Open]
  | taken _ _ _ _ _ _ _ _ point => simp_all [HandlePoint.Open]
  | abandoned | refused | revoked | late => simp_all
  | settling value _ _ after called publishes kept pending point result =>
      have same : found = value := by simp_all
      subst same
      refine .taken found (registered trace) ?_ (registered_registrable trace) ?_ ?_ ?_ ?_
        trivial (.inl rfl)
      · exact after.append (by simp [result, discardedOf])
      · simp [called, result, discardedOf]
      · simp [publishes, result, discardedOf]
      · simp [kept, result, discardedOf]
      · simp [pending.deliveries_nil, result, discardedOf]

private theorem dropStore_phase (phase : Phase trace state)
    (stepped : dropStore state = some (next, events)) :
    Phase (trace ++ events) next := by
  obtain ⟨handle, rfl, rfl⟩ := dropStore_cases stepped
  cases phase with
  | fresh waiting unpublished quiet kept pending _ result =>
      exact .fresh (by simpa using waiting) (by simp [unpublished]) (by simp [quiet])
        (by simp [kept]) (by simp [pending]) ⟨trivial, not_false⟩
        (by rw [registered_append rfl, result])
  | abandoned | refused | settling | revoked | late => simp_all
  | available value after called publishes kept pending _ result =>
      exact .available value (by rw [registered_append rfl]; exact after.append rfl)
        (by simp [called]) (by simp [publishes, registered_append]) (by simp [kept])
        (by simp [pending]) trivial result
  | taken value previous after took called publishes kept delivered _ result =>
      exact .taken value previous (after.append rfl) took (by simp [called])
        (by simp [publishes]) (by simp [kept]) (by simp [delivered]) trivial result

private theorem discardedOf_registrable {result : JoinResult W T P}
    (registrable : result.Registrable) :
    discardedOf result = [] := by
  cases result with
  | finished value => cases registrable
  | _ => rfl

private theorem dropReplace_phase (phase : Phase trace state)
    (stepped : dropReplace state = some (next, events)) :
    Phase (trace ++ events) next := by
  obtain ⟨handle, rfl, rfl⟩ := dropReplace_cases stepped
  cases phase with
  | fresh waiting unpublished quiet kept pending _ result =>
      rw [result, discardedOf_registrable (registered_registrable trace), List.append_nil]
      exact .abandoned waiting unpublished quiet kept pending rfl rfl
  | refused value wake called unpublished quiet lost pending point =>
      have registrable : state.result.Registrable := by simp_all
      rw [discardedOf_registrable registrable, List.append_nil]
      exact .refused value wake called unpublished quiet lost pending (.inr ⟨rfl, rfl⟩)
  | abandoned | settling | revoked | late => simp_all
  | available value after called publishes kept pending _ result =>
      rw [result]
      exact .revoked value (registered trace) (after.append rfl)
        (.inl (registered_registrable trace)) (by simp [discardedOf, called])
        (by simp [discardedOf, publishes])
        (.inr ⟨by simp [discardedOf, pending], by simp [discardedOf, kept]⟩) rfl rfl
  | taken value previous after took called publishes kept delivered _ result =>
      have nothing : discardedOf state.result = [] := by
        rcases result with result | ⟨_, result⟩ <;> rw [result] <;> rfl
      rw [nothing, List.append_nil]
      exact .revoked value previous after (.inl took) called publishes (.inl ⟨delivered, kept⟩)
        rfl rfl

/-! ### The invariant of every run -/

private theorem step_phase {action : Action W T P}
    (phase : Phase trace state) (stages : StageFacts trace state)
    (stepped : (machine visibility).step state action = some (next, events)) :
    Phase (trace ++ events) next := by
  cases action with
  | wakeLoad value raw => exact wakeLoad_phase phase stages stepped
  | wakeReplace => exact wakeReplace_phase phase stepped
  | wakeStore => exact wakeStore_phase phase stepped
  | wakeMatch => exact wakeMatch_phase phase stepped
  | wakeReturn => exact wakeReturn_phase phase stepped
  | pollLoad waker raw => exact pollLoad_phase phase stages stepped
  | pollReplace => exact pollReplace_phase phase stepped
  | pollSettle => exact pollSettle_phase phase stepped
  | dropStore => exact dropStore_phase phase stepped
  | dropReplace => exact dropReplace_phase phase stepped

/-! ### The stage -/

theorem wakeMatch_frame (stepped : wakeMatch state = some (next, events)) :
    next.id = state.id ∧ next.stage = state.stage ∧ next.handle = state.handle := by
  unfold wakeMatch at stepped
  split at stepped
  all_goals cases stepped
  all_goals exact ⟨rfl, rfl, rfl⟩

theorem observe_discardedOf {δ : Type} {keep : Event W T P → Option δ}
    (hidden : ∀ value, keep (.discarded value) = none) (result : JoinResult W T P) :
    observe keep (discardedOf result) = [] := by
  cases result with
  | finished value => simp [discardedOf, hidden]
  | empty | joining | joined | detached => rfl

theorem observe_wakeMatch {δ : Type} {keep : Event W T P → Option δ}
    (unwoken : ∀ waker, keep (.woken waker) = none)
    (hidden : ∀ value, keep (.discarded value) = none)
    (stepped : wakeMatch state = some (next, events)) : observe keep events = [] := by
  unfold wakeMatch at stepped
  split at stepped
  all_goals cases stepped
  · rfl
  · simp [unwoken]
  · simp [hidden]
  · rfl
  · exact observe_discardedOf hidden _

theorem wakeMatch_polls (stepped : wakeMatch state = some (next, events)) : polls events = [] :=
  observe_wakeMatch (fun _ => rfl) (fun _ => rfl) stepped

private theorem step_stage {action : Action W T P}
    (stepped : (machine visibility).step state action = some (next, events)) :
    next.stage = state.stage ∨
      (∃ previous, state.wake = .storing previous) ∧
        next.stage = state.stage.store Stage.finished.toUsize ∨
      next.handle = .detaching ∧ next.stage = state.stage.store Stage.detached.toUsize := by
  cases action with
  | wakeLoad value raw =>
      obtain ⟨_, _, ⟨_, rfl, _⟩ | ⟨_, rfl, _⟩ | ⟨_, rfl, _⟩⟩ := wakeLoad_cases stepped
      all_goals exact .inl rfl
  | wakeReplace => obtain ⟨_, _, rfl, _⟩ := wakeReplace_cases stepped; exact .inl rfl
  | wakeStore =>
      obtain ⟨previous, wake, rfl, _⟩ := wakeStore_cases stepped
      exact .inr (.inl ⟨⟨previous, wake⟩, rfl⟩)
  | wakeMatch => exact .inl (wakeMatch_frame stepped).2.1
  | wakeReturn => obtain ⟨_, rfl, _⟩ := wakeReturn_cases stepped; exact .inl rfl
  | pollLoad waker raw =>
      obtain ⟨_, _, ⟨_, rfl, _⟩ | ⟨_, rfl, _⟩ | ⟨_, rfl, _⟩⟩ := pollLoad_cases stepped
      all_goals exact .inl rfl
  | pollReplace =>
      rcases pollReplace_cases stepped with ⟨_, _, rfl, _⟩ | ⟨_, _, _, _, _, rfl, _⟩ |
        ⟨_, _, _, _, rfl, _⟩ <;> exact .inl rfl
  | pollSettle => obtain ⟨_, _, _, _, rfl, _⟩ := pollSettle_cases stepped; exact .inl rfl
  | dropStore => obtain ⟨_, rfl, _⟩ := dropStore_cases stepped; exact .inr (.inr ⟨rfl, rfl⟩)
  | dropReplace => obtain ⟨_, rfl, _⟩ := dropReplace_cases stepped; exact .inl rfl

private theorem step_leaving {action : Action W T P} (leaving : state.handle.Leaving)
    (stepped : (machine visibility).step state action = some (next, events)) :
    next.handle.Leaving := by
  cases action with
  | wakeLoad value raw =>
      obtain ⟨_, _, ⟨_, rfl, _⟩ | ⟨_, rfl, _⟩ | ⟨_, rfl, _⟩⟩ := wakeLoad_cases stepped
      all_goals exact leaving
  | wakeReplace => obtain ⟨_, _, rfl, _⟩ := wakeReplace_cases stepped; exact leaving
  | wakeStore => obtain ⟨_, _, rfl, _⟩ := wakeStore_cases stepped; exact leaving
  | wakeMatch => rw [(wakeMatch_frame stepped).2.2]; exact leaving
  | wakeReturn => obtain ⟨_, rfl, _⟩ := wakeReturn_cases stepped; exact leaving
  | pollLoad waker raw =>
      rw [(pollLoad_cases stepped).1] at leaving
      cases leaving
  | pollReplace =>
      rcases pollReplace_cases stepped with ⟨_, handle, _⟩ | ⟨_, _, _, handle, _⟩ |
        ⟨_, _, handle, _⟩ <;> rw [handle] at leaving <;> cases leaving
  | pollSettle =>
      obtain ⟨_, _, _, handle, _⟩ := pollSettle_cases stepped
      rw [handle] at leaving
      cases leaving
  | dropStore => obtain ⟨_, rfl, _⟩ := dropStore_cases stepped; trivial
  | dropReplace => obtain ⟨_, rfl, _⟩ := dropReplace_cases stepped; trivial

private theorem step_stageFacts {action : Action W T P}
    (phase : Phase trace state) (stages : StageFacts trace state)
    (stepped : (machine visibility).step state action = some (next, events)) :
    StageFacts (trace ++ events) next := by
  have kept : ∀ raw ∈ state.stage.values, raw = Stage.running.toUsize ∨
      raw = Stage.finished.toUsize ∧ published (trace ++ events) ≠ [] ∨
      raw = Stage.detached.toUsize ∧ next.handle.Leaving := by
    intro raw member
    rcases stages raw member with running | ⟨finished, publishes⟩ | ⟨detached, leaving⟩
    · exact .inl running
    · exact .inr (.inl ⟨finished, observe_append_ne_nil _ publishes events⟩)
    · exact .inr (.inr ⟨detached, step_leaving leaving stepped⟩)
  intro raw member
  rcases step_stage stepped with same | ⟨⟨previous, wake⟩, stored⟩ | ⟨handle, stored⟩
  · exact kept raw (same ▸ member)
  · rw [stored, AtomicCell.store_values, List.mem_cons] at member
    rcases member with finished | old
    · have publishes : published trace ≠ [] := by
        rcases phase.took (.inl wake) with ⟨publishes, _⟩ | ⟨_, _, _, publishes, _⟩
        all_goals simp [publishes]
      exact .inr (.inl ⟨finished, observe_append_ne_nil _ publishes events⟩)
    · exact kept raw old
  · rw [stored, AtomicCell.store_values, List.mem_cons] at member
    rcases member with detached | old
    · exact .inr (.inr ⟨detached, by rw [handle]; trivial⟩)
    · exact kept raw old

variable {guard : Guard (State W T P) (Action W T P) (Event W T P)} {id : RawId}
  {config : Config (State W T P) (Event W T P)}

theorem coherent_of_reaches
    (run : (machine visibility).Reaches guard (.initial (State.new id)) config) :
    Coherent config := by
  apply run.invariant Coherent (coherent_new id)
  intro before action next events _reached coherent _allowed stepped
  exact ⟨step_phase coherent.phase coherent.stages stepped,
    step_stageFacts coherent.phase coherent.stages stepped⟩

end Spawns.Joint
