/-
Drops of scopes that panic, and what they leave in the thread's cell.

The exchange comes before the check, so a rejected drop puts the spawner in that
its scope took out long ago. Nothing changes only where that one is current.
-/

import Spawns.Core.SpawnScope

namespace Spawns.SpawnScope

open EventMachine

open Machine (reaches_of_exec)

variable {S : Type} {start : Option S} {state next : State S} {trace events : List (Event S)}
  {config : Config (State S) (Event S)}

/-- The current spawner where a rejected drop changes nothing, as one event leaves it. -/
def Event.settle (current : Option S) : Event S → Option S
  | .entered spawner => some spawner
  | .scopeDropped scope .dropped => scope.previous
  | _ => current

def settled (start : Option S) (trace : List (Event S)) : Option S :=
  trace.foldl Event.settle start

private theorem settled_append (trace events : List (Event S)) :
    settled start (trace ++ events) = events.foldl Event.settle (settled start trace) :=
  List.foldl_append

variable [DecidableEq S]

/-- The spawner of the scope is not the current one, or there is no current one. -/
def Stray (state : State S) (scope : SpawnScope S) : Prop :=
  state.cell.value ≠ some scope.spawner

private theorem Stray.panics {scope : SpawnScope S} (stray : Stray state scope)
    (free : state.cell.flag = 0) :
    (scope.drop state.cell).1 = .notCurrent ∨ (scope.drop state.cell).1 = .noSpawner := by
  cases current : state.cell.value with
  | none =>
      right
      simp only [SpawnScope.drop, exchange, RefCell.withBorrowMut_free free, current]
  | some spawner =>
      left
      have other : scope.spawner ≠ spawner := by
        rintro rfl
        exact stray current
      simp only [SpawnScope.drop, exchange, RefCell.withBorrowMut_free free, current, if_neg other]

/-- Stray scopes are dropped only where the spawner they saved is the current one. -/
def restoring : Guard (State S) (Action S) (Event S) := fun config action =>
  match action with
  | .enter _ => True
  | .drop index => ∀ scope ∈ config.state.live[index]?,
      Stray config.state scope → scope.previous = config.state.cell.value

instance (state : State S) (scope : SpawnScope S) : Decidable (Stray state scope) :=
  inferInstanceAs (Decidable (state.cell.value ≠ some scope.spawner))

instance (config : Config (State S) (Event S)) (action : Action S) :
    Decidable (restoring config action) :=
  match action with
  | .enter _ => inferInstanceAs (Decidable True)
  | .drop index => inferInstanceAs (Decidable (∀ scope ∈ config.state.live[index]?,
      Stray config.state scope → scope.previous = config.state.cell.value))

private theorem step_settled {action : Action S} (free : state.cell.flag = 0)
    (stepped : machine.step state action = some (next, events))
    (agreed : state.cell.value = settled start trace)
    (restores : ∀ index scope, action = .drop index → state.live[index]? = some scope →
      Stray state scope → scope.previous = state.cell.value) :
    next.cell.value = settled start (trace ++ events) := by
  rw [settled_append, ← agreed]
  rcases step_cases free stepped with ⟨spawner, _, rfl, rfl⟩ |
    ⟨index, scope, outcome, rfl, found, rfl, rfl, succeeds⟩
  · rfl
  · by_cases current : state.cell.value = some scope.spawner
    · rw [succeeds.mpr current]
      rfl
    · have panicked : outcome ≠ .dropped := fun dropped => current (succeeds.mp dropped)
      have unchanged : Event.settle state.cell.value (.scopeDropped scope outcome) =
          state.cell.value := by
        cases outcome with
        | dropped => exact absurd rfl panicked
        | noSpawner | notCurrent | alreadyBorrowed => rfl
      change scope.previous = Event.settle state.cell.value (.scopeDropped scope outcome)
      rw [unchanged]
      exact restores index scope rfl found current

theorem settled_of_reaches (run : machine.Reaches restoring (.initial (.new start)) config) :
    config.state.cell.value = settled start config.trace := by
  apply run.invariant (fun config => config.state.cell.value = settled start config.trace) rfl
  intro before action next events reached agreed allowed stepped
  apply step_settled (free_of_reaches reached) stepped agreed
  rintro index scope rfl found stray
  exact allowed scope found stray

/-- A rejected exit leaves the thread's spawner intact exactly where the spawner
that its scope saved is the current one. While no other scope is rejected, the
spawner is the one that the accepted enters and exits have left. -/
theorem rejected_exit_intact_iff (start : Option S) :
    (∀ config, machine.Reaches .any (.initial (.new start)) config →
      ∀ scope ∈ config.state.live, Stray config.state scope →
        ((scope.drop config.state.cell).1 = .notCurrent ∨
          (scope.drop config.state.cell).1 = .noSpawner) ∧
        ((scope.drop config.state.cell).2.value = config.state.cell.value ↔
          scope.previous = config.state.cell.value)) ∧
    (∀ config, machine.Reaches restoring (.initial (.new start)) config →
      config.state.cell.value = settled start config.trace) := by
  constructor
  · intro config run scope _live stray
    have free := free_of_reaches run
    refine ⟨stray.panics free, ?_⟩
    rw [(scope.drop_free free).1]
    rfl
  · intro config run
    exact settled_of_reaches run

def enteredInside : List (Action Nat) := [.enter 1, .enter 2, .enter 1]

theorem rejected_exit_intact_iff_between :
    ∃ config later, machine.exec .any (.initial (.new none)) enteredInside = some config ∧
      (((SpawnScope.mk 2 (some 1)).drop config.state.cell).2.value = config.state.cell.value ↔
        some 1 = config.state.cell.value) ∧
      machine.exec restoring (.initial (.new none)) (enteredInside ++ [.drop 1]) = some later ∧
      outcomes later.trace = [.notCurrent] ∧
      later.state.cell.value = settled none later.trace := by
  obtain ⟨config, executed, scopeLive, current⟩ :
      ∃ config, machine.exec .any (.initial (.new none)) enteredInside = some config ∧
        SpawnScope.mk 2 (some 1) ∈ config.state.live ∧ config.state.cell.value = some 1 :=
    ⟨_, rfl, by decide, rfl⟩
  obtain ⟨later, rejected, outcome⟩ :
      ∃ later, machine.exec restoring (.initial (.new none)) (enteredInside ++ [.drop 1]) =
        some later ∧ outcomes later.trace = [.notCurrent] := ⟨_, rfl, rfl⟩
  have stray : Stray config.state (SpawnScope.mk 2 (some 1)) := by
    rw [Stray, current]
    decide
  have run : machine.Reaches .any (.initial (.new none)) config :=
    reaches_of_exec enteredInside executed
  have restored : machine.Reaches restoring (.initial (.new none)) later :=
    reaches_of_exec _ rejected
  exact ⟨config, later, executed,
    ((rejected_exit_intact_iff none).1 config run _ scopeLive stray).2, rejected, outcome,
    (rejected_exit_intact_iff none).2 later restored⟩

/-- The outer of two scopes is dropped first: the inner one loses its spawner. -/
theorem outer_exit_clears_spawner :
    ¬ ∀ config : Config (State Nat) (Event Nat),
      machine.Reaches .any (.initial (.new none)) config →
      ∀ scope ∈ config.state.live, Stray config.state scope →
        (scope.drop config.state.cell).2.value = config.state.cell.value := by
  intro claim
  obtain ⟨config, executed, scopeLive, current⟩ :
      ∃ config, machine.exec .any (.initial (.new none)) [.enter 1, .enter 2] = some config ∧
        SpawnScope.mk 1 none ∈ config.state.live ∧ config.state.cell = ⟨some 2, 0⟩ :=
    ⟨_, rfl, by decide, rfl⟩
  have stray : Stray config.state (SpawnScope.mk 1 none) := by
    rw [Stray, current]
    decide
  have same := claim config (reaches_of_exec _ executed) _ scopeLive stray
  rw [current] at same
  cases same

end Spawns.SpawnScope
