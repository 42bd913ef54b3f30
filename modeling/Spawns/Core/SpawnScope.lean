/-
The thread's spawner and the scopes that exchange it.

Scopes are entered and dropped on one thread in any order, with no spawn call in
progress. A spawner is the pointer that `ptr::eq` compares. Every scope took one
spawner out and put another in, so the spawner now in the cell is what is left
of these exchanges when those of the dropped scopes cancel out.
-/

import Spawns.Foundation.Cells
import Spawns.Foundation.EventMachine
import Mathlib.Data.List.Perm.Basic

namespace Spawns

open EventMachine

open Machine (reaches_of_exec)

structure SpawnScope (S : Type) where
  spawner : S
  previous : Option S
  deriving DecidableEq, Repr

/-- How the drop of a scope ends; all but the first are panics. -/
inductive ScopeDrop where
  | dropped
  | noSpawner
  | notCurrent
  | alreadyBorrowed
  deriving DecidableEq, Repr

variable {S : Type}

/-- `SPAWNER.with_borrow_mut(|previous| mem::replace(previous, spawner))` -/
def exchange (cell : RefCell (Option S)) (spawner : Option S) :
    Option (Option S × RefCell (Option S)) :=
  cell.withBorrowMut fun previous => (previous, spawner)

/-- `enter`; `none` where the exchange panics. -/
def enter (cell : RefCell (Option S)) (spawner : S) :
    Option (SpawnScope S × RefCell (Option S)) :=
  match exchange cell (some spawner) with
  | some (previous, cell) => some (⟨spawner, previous⟩, cell)
  | none => none

/-- `Drop`: `exchange(self.previous.take()).expect("no spawner")`, then the assertion. -/
def SpawnScope.drop [DecidableEq S] (scope : SpawnScope S) (cell : RefCell (Option S)) :
    ScopeDrop × RefCell (Option S) :=
  match exchange cell scope.previous with
  | some (some current, cell) =>
      if scope.spawner = current then (.dropped, cell) else (.notCurrent, cell)
  | some (none, cell) => (.noSpawner, cell)
  | none => (.alreadyBorrowed, cell)

theorem enter_free {cell : RefCell (Option S)} (free : cell.flag = 0) (spawner : S) :
    enter cell spawner = some (⟨spawner, cell.value⟩, .new (some spawner)) := by
  simp only [enter, exchange, RefCell.withBorrowMut_free free]

theorem enter_busy {cell : RefCell (Option S)} (busy : cell.flag ≠ 0) (spawner : S) :
    enter cell spawner = none := by
  simp only [enter, exchange, RefCell.withBorrowMut_busy busy]

theorem SpawnScope.drop_free [DecidableEq S] {cell : RefCell (Option S)} (free : cell.flag = 0)
    (scope : SpawnScope S) :
    (scope.drop cell).2 = .new scope.previous ∧
      ((scope.drop cell).1 = .dropped ↔ cell.value = some scope.spawner) := by
  simp only [SpawnScope.drop, exchange, RefCell.withBorrowMut_free free]
  cases cell.value with
  | none => simp
  | some current =>
      by_cases same : scope.spawner = current
      · simp [same]
      · simp [same, Ne.symm same]

/-- The scopes open on a stack, newest first, above a thread whose spawner was `start`. -/
def Chained (start : Option S) : List (SpawnScope S) → Option S → Prop
  | [], current => current = start
  | scope :: rest, current => current = some scope.spawner ∧ Chained start rest scope.previous

/-! ### Scopes in any order -/

namespace SpawnScope

structure State (S : Type) where
  cell : RefCell (Option S)
  live : List (SpawnScope S)

inductive Event (S : Type) where
  | entered (spawner : S)
  | refused (spawner : S)
  | scopeDropped (scope : SpawnScope S) (outcome : ScopeDrop)

inductive Action (S : Type) where
  | enter (spawner : S)
  | drop (index : Nat)

def State.new (start : Option S) : State S := ⟨.new start, []⟩

@[simp] def Event.outcome? : Event S → Option ScopeDrop
  | .scopeDropped _ outcome => some outcome
  | _ => none

abbrev outcomes (trace : List (Event S)) : List ScopeDrop := observe Event.outcome? trace

def NoPanic (trace : List (Event S)) : Prop := ∀ outcome ∈ outcomes trace, outcome = .dropped

private theorem noPanic_append {trace events : List (Event S)} :
    NoPanic (trace ++ events) ↔ NoPanic trace ∧ NoPanic events := by
  simp only [NoPanic, observe_append, List.forall_mem_append]

variable {start : Option S} {state next : State S} {events : List (Event S)}
  {guard : Guard (State S) (Action S) (Event S)} {config : Config (State S) (Event S)}

/-- Everything put into the cell is still there, or was taken out by a live scope. -/
def Balanced (start : Option S) (state : State S) : Prop :=
  (state.cell.value :: state.live.map SpawnScope.previous).Perm
    (start :: state.live.map fun scope => some scope.spawner)

structure Tidy (start : Option S) (state : State S) : Prop where
  accounted : state.cell.value = start ∨
    ∃ scope ∈ state.live, state.cell.value = some scope.spawner
  restored : state.live = [] → state.cell.value = start

private theorem Balanced.tidy (balanced : Balanced start state) : Tidy start state := by
  constructor
  · have member := balanced.mem_iff.mp (List.mem_cons_self)
    rcases List.mem_cons.mp member with same | inside
    · exact .inl same
    · obtain ⟨scope, live, put⟩ := List.mem_map.mp inside
      exact .inr ⟨scope, live, put.symm⟩
  · intro none
    rw [Balanced, none] at balanced
    exact List.singleton_perm_singleton.mp balanced

variable [DecidableEq S]

/-- Panics are caught, so the thread goes on after them. -/
def machine : Machine (State S) (Action S) (Event S) where
  step state
    | .enter spawner =>
        match Spawns.enter state.cell spawner with
        | some (scope, cell) => some (⟨cell, scope :: state.live⟩, [.entered spawner])
        | none => some (state, [.refused spawner])
    | .drop index =>
        match state.live[index]? with
        | some scope =>
            some (⟨(scope.drop state.cell).2, state.live.eraseIdx index⟩,
              [.scopeDropped scope (scope.drop state.cell).1])
        | none => none

theorem step_cases {action : Action S} (free : state.cell.flag = 0)
    (stepped : machine.step state action = some (next, events)) :
    (∃ spawner, action = .enter spawner ∧ events = [.entered spawner] ∧
      next = ⟨.new (some spawner), ⟨spawner, state.cell.value⟩ :: state.live⟩) ∨
    (∃ index scope outcome, action = .drop index ∧ state.live[index]? = some scope ∧
      next = ⟨.new scope.previous, state.live.eraseIdx index⟩ ∧
      events = [.scopeDropped scope outcome] ∧
      (outcome = .dropped ↔ state.cell.value = some scope.spawner)) := by
  cases action with
  | enter spawner =>
      simp only [machine, enter_free free] at stepped
      cases stepped
      exact .inl ⟨spawner, rfl, rfl, rfl⟩
  | drop index =>
      simp only [machine] at stepped
      split at stepped
      · rename_i scope found
        cases stepped
        obtain ⟨cell, succeeds⟩ := scope.drop_free free
        exact .inr ⟨index, scope, _, rfl, found, by rw [cell], rfl, succeeds⟩
      · cases stepped

theorem free_of_reaches (run : machine.Reaches guard (.initial (.new start)) config) :
    config.state.cell.flag = 0 := by
  apply run.invariant (fun config => config.state.cell.flag = 0) rfl
  intro before action next events _reached free _allowed stepped
  rcases step_cases free stepped with ⟨_, _, _, rfl⟩ | ⟨_, _, _, _, _, rfl, _⟩ <;> rfl

private theorem map_eraseIdx_perm {α β : Type} (shown : α → β) {items : List α} {index : Nat}
    {item : α}
    (found : items[index]? = some item) :
    (items.map shown).Perm (shown item :: (items.eraseIdx index).map shown) := by
  obtain ⟨inside, rfl⟩ := List.getElem?_eq_some_iff.mp found
  exact ((List.getElem_cons_eraseIdx_perm inside).map shown).symm

private theorem step_balanced {action : Action S} (balanced : Balanced start state)
    (free : state.cell.flag = 0) (stepped : machine.step state action = some (next, events))
    (quiet : NoPanic events) : Balanced start next := by
  rcases step_cases free stepped with ⟨spawner, _, _, rfl⟩ |
    ⟨index, scope, outcome, _, found, rfl, rfl, succeeds⟩
  · exact (balanced.cons (some spawner)).trans (List.Perm.swap _ _ _)
  · have current : state.cell.value = some scope.spawner := succeeds.mp (quiet outcome (by simp))
    have taken := map_eraseIdx_perm SpawnScope.previous found
    have put := map_eraseIdx_perm (fun scope => some scope.spawner) found
    -- The scope put in what is in the cell, so both sides lose it.
    have paired := ((taken.cons state.cell.value).symm.trans balanced).trans (put.cons start)
    rw [current] at paired
    exact (paired.trans (List.Perm.swap _ _ _)).cons_inv

theorem balanced_of_reaches (run : machine.Reaches guard (.initial (.new start)) config)
    (quiet : NoPanic config.trace) : Balanced start config.state := by
  refine run.invariant (fun config => NoPanic config.trace → Balanced start config.state)
    (fun _ => List.Perm.refl _) ?_ quiet
  intro before action next events reached balanced _allowed stepped quiet
  obtain ⟨quietBefore, quietNow⟩ := noPanic_append.mp quiet
  exact step_balanced (balanced quietBefore) (free_of_reaches reached) stepped quietNow

/-! ### Properly nested scopes -/

def nested : Guard (State S) (Action S) (Event S) := fun _ action =>
  match action with
  | .enter _ => True
  | .drop index => index = 0

private theorem step_nested {action : Action S}
    (chained : Chained start state.live state.cell.value)
    (free : state.cell.flag = 0) (stepped : machine.step state action = some (next, events))
    (allowed : nested config action) :
    Chained start next.live next.cell.value ∧ NoPanic events := by
  rcases step_cases free stepped with ⟨spawner, _, rfl, rfl⟩ |
    ⟨index, scope, outcome, rfl, found, rfl, rfl, succeeds⟩
  · exact ⟨⟨rfl, chained⟩, by simp [NoPanic]⟩
  · have newest : index = 0 := allowed
    subst newest
    cases live : state.live with
    | nil =>
        rw [live] at found
        cases found
    | cons head rest =>
        rw [live] at found chained
        cases found
        refine ⟨chained.2, ?_⟩
        intro outcome member
        simp only [observe_cons, observe_nil, Event.outcome?, Option.toList_some, List.append_nil,
          List.mem_singleton] at member
        rw [member]
        exact succeeds.mpr chained.1

theorem nested_of_reaches (run : machine.Reaches nested (.initial (.new start)) config) :
    Chained start config.state.live config.state.cell.value ∧ NoPanic config.trace := by
  refine run.invariant (fun config => Chained start config.state.live config.state.cell.value ∧
    NoPanic config.trace) ?_ ?_
  · exact ⟨rfl, by simp [NoPanic, Config.initial]⟩
  · intro before action next events reached facts allowed stepped
    obtain ⟨chained, quiet⟩ := step_nested facts.1 (free_of_reaches reached) stepped allowed
    exact ⟨chained, noPanic_append.mpr ⟨facts.2, quiet⟩⟩

/-! ### No stray spawner -/

/-- Until a drop panics the spawner is accounted for, and nested drops never panic. -/
theorem no_stray_spawner (start : Option S) :
    (∀ config, machine.Reaches .any (.initial (.new start)) config →
      NoPanic config.trace → Tidy start config.state) ∧
    (∀ config, machine.Reaches nested (.initial (.new start)) config → NoPanic config.trace) :=
  ⟨fun _ run quiet => (balanced_of_reaches run quiet).tidy, fun _ run => (nested_of_reaches run).2⟩

/-- One spawner is entered three times and its scopes are not dropped in order. -/
def enteredAgain : List (Action Nat) :=
  [.enter 1, .enter 2, .enter 1, .drop 2, .enter 1, .drop 1, .drop 1, .drop 0]

theorem no_stray_spawner_again :
    ∃ config, machine.exec .any (.initial (.new (some 0))) enteredAgain = some config ∧
      outcomes config.trace = [.dropped, .dropped, .dropped, .dropped] ∧
      Tidy (some 0) config.state := by
  obtain ⟨config, executed, drops⟩ :
      ∃ config, machine.exec .any (.initial (.new (some 0))) enteredAgain = some config ∧
        outcomes config.trace = [.dropped, .dropped, .dropped, .dropped] := ⟨_, rfl, rfl⟩
  have run : machine.Reaches .any (.initial (.new (some 0))) config :=
    reaches_of_exec enteredAgain executed
  have quiet : NoPanic config.trace := by
    rw [NoPanic, drops]
    simp
  exact ⟨config, executed, drops, (no_stray_spawner (some 0)).1 config run quiet⟩

end SpawnScope

end Spawns
