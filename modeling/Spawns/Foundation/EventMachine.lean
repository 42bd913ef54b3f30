/-
Deterministic partial-step machines whose steps emit events.

A configuration pairs a state with the trace of the events emitted so far.
A run is a path of configurations; a guard restricts which actions its
environment may choose. The rules below lift one-step facts to whole runs.

This file names no program. It has no fairness and no infinite runs.
-/

import Mathlib.Algebra.Order.BigOperators.Group.List
import Mathlib.Algebra.Order.Ring.Nat
import Mathlib.Logic.Relation
import Mathlib.Data.List.Basic
import Mathlib.Data.List.TakeWhile

namespace EventMachine

universe u v w

/-- `step` is `none` where the action is not enabled. -/
structure Machine (σ : Type u) (α : Type v) (ε : Type w) where
  step : σ → α → Option (σ × List ε)

structure Config (σ : Type u) (ε : Type w) where
  trace : List ε
  state : σ

def Config.initial {σ : Type u} {ε : Type w} (state : σ) : Config σ ε := ⟨[], state⟩

/-- Actions an environment may choose at a configuration. -/
abbrev Guard (σ : Type u) (α : Type v) (ε : Type w) := Config σ ε → α → Prop

def Guard.any {σ : Type u} {α : Type v} {ε : Type w} : Guard σ α ε := fun _ _ => True

instance {σ : Type u} {α : Type v} {ε : Type w} (config : Config σ ε) (action : α) :
    Decidable ((Guard.any : Guard σ α ε) config action) :=
  inferInstanceAs (Decidable True)

variable {σ : Type u} {α : Type v} {ε : Type w}

namespace Machine

variable (machine : Machine σ α ε) (guard : Guard σ α ε)

inductive Step : Config σ ε → Config σ ε → Prop where
  | mk {config : Config σ ε} {action : α} {next : σ} {events : List ε}
      (allowed : guard config action)
      (stepped : machine.step config.state action = some (next, events)) :
      Step config ⟨config.trace ++ events, next⟩

abbrev Reaches : Config σ ε → Config σ ε → Prop :=
  Relation.ReflTransGen (machine.Step guard)

/-- Run a finite schedule, stopping at an action that is refused or not enabled. -/
def exec [∀ config action, Decidable (guard config action)] :
    Config σ ε → List α → Option (Config σ ε)
  | config, [] => some config
  | config, action :: rest =>
      if guard config action then
        match machine.step config.state action with
        | some (next, events) => exec ⟨config.trace ++ events, next⟩ rest
        | none => none
      else none

variable {machine guard}

/-- A schedule that executes is a run. -/
theorem reaches_of_exec [∀ config action, Decidable (guard config action)]
    {start final : Config σ ε} (schedule : List α)
    (executed : machine.exec guard start schedule = some final) :
    machine.Reaches guard start final := by
  induction schedule generalizing start with
  | nil =>
      rw [exec, Option.some.injEq] at executed
      rw [executed]
  | cons action rest ih =>
      rw [exec] at executed
      split at executed
      · rename_i allowed
        split at executed
        · rename_i next events stepped
          exact Relation.ReflTransGen.head (.mk allowed stepped) (ih executed)
        · cases executed
      · cases executed

/-- Invariant rule: the step premise may use that its configuration is reached. -/
theorem Reaches.invariant {start final : Config σ ε} (holds : Config σ ε → Prop)
    (run : machine.Reaches guard start final) (base : holds start)
    (keep : ∀ config action next events, machine.Reaches guard start config →
      holds config → guard config action →
      machine.step config.state action = some (next, events) →
      holds ⟨config.trace ++ events, next⟩) : holds final := by
  induction run with
  | refl => exact base
  | tail before last ih =>
      cases last with
      | mk allowed stepped => exact keep _ _ _ _ before ih allowed stepped

theorem Reaches.weaken {weaker : Guard σ α ε} {start final : Config σ ε}
    (run : machine.Reaches guard start final)
    (weakens : ∀ config action, guard config action → weaker config action) :
    machine.Reaches weaker start final := by
  refine Relation.ReflTransGen.mono ?_ _ _ run
  intro before after step
  cases step with
  | mk allowed stepped => exact .mk (weakens _ _ allowed) stepped

theorem Reaches.exists_suffix {start final : Config σ ε}
    (run : machine.Reaches guard start final) :
    ∃ later, final.trace = start.trace ++ later := by
  refine run.invariant (fun config => ∃ later, config.trace = start.trace ++ later)
    ⟨[], (List.append_nil _).symm⟩ ?_
  intro config action next events _before grown _allowed _stepped
  obtain ⟨later, grows⟩ := grown
  exact ⟨later ++ events, by rw [grows, List.append_assoc]⟩

/-- Descent rule: a goal is reached when, short of it, some step lowers the rank. -/
theorem exists_reaches_of_descent {start : Config σ ε} (goal : Config σ ε → Prop)
    (rank : Config σ ε → Nat)
    (descends : ∀ config, machine.Reaches guard start config → ¬ goal config →
      ∃ next, machine.Step guard config next ∧ rank next < rank config) :
    ∃ final, machine.Reaches guard start final ∧ goal final := by
  have descend (bound : Nat) : ∀ config, machine.Reaches guard start config →
      rank config = bound → ∃ final, machine.Reaches guard start final ∧ goal final := by
    induction bound using Nat.strongRecOn with
    | ind bound ih =>
        intro config reached ranked
        by_cases arrived : goal config
        · exact ⟨config, reached, arrived⟩
        · obtain ⟨next, step, lower⟩ := descends config reached arrived
          exact ih (rank next) (by omega) next (reached.tail step) rfl
  exact descend (rank start) start .refl rfl

end Machine

/-! ### What a trace shows -/

section Observe

variable {δ : Type u}

/-- The part of a trace that one observer keeps, in order. -/
def observe (keep : ε → Option δ) (trace : List ε) : List δ := trace.filterMap keep

variable (keep : ε → Option δ)

@[simp] theorem observe_nil : observe keep [] = [] := rfl

@[simp] theorem observe_cons (event : ε) (trace : List ε) :
    observe keep (event :: trace) = (keep event).toList ++ observe keep trace := by
  cases kept : keep event <;> simp [observe, kept]

@[simp] theorem observe_append (first second : List ε) :
    observe keep (first ++ second) = observe keep first ++ observe keep second :=
  List.filterMap_append

theorem observe_append_ne_nil {first : List ε} (seen : observe keep first ≠ [])
    (second : List ε) : observe keep (first ++ second) ≠ [] := by
  rw [observe_append]
  exact List.append_ne_nil_of_left_ne_nil seen _

theorem observe_map_none {ι : Type u} {emit : ι → ε} (items : List ι)
    (hidden : ∀ item, keep (emit item) = none) : observe keep (items.map emit) = [] := by
  induction items with
  | nil => rfl
  | cons head rest ih => rw [List.map_cons, observe_cons, hidden, ih]; rfl

theorem observe_map_some {emit : δ → ε} (items : List δ)
    (shown : ∀ item, keep (emit item) = some item) : observe keep (items.map emit) = items := by
  induction items with
  | nil => rfl
  | cons head rest ih => rw [List.map_cons, observe_cons, shown, ih]; rfl

theorem mem_observe {kept : δ} {trace : List ε} :
    kept ∈ observe keep trace ↔ ∃ event ∈ trace, keep event = some kept :=
  List.mem_filterMap

theorem mem_observe_append {kept : δ} {first : List ε} (seen : kept ∈ observe keep first)
    (second : List ε) : kept ∈ observe keep (first ++ second) := by
  rw [observe_append]
  exact List.mem_append_left _ seen

theorem observe_ne_nil_of_mem {event : ε} {trace : List ε} (member : event ∈ trace)
    (shown : keep event ≠ none) : observe keep trace ≠ [] := by
  intro hidden
  exact shown (List.filterMap_eq_nil_iff.mp hidden event member)

theorem exists_split_of_observe {trace : List ε} {before after : List δ} {kept : δ}
    (split : observe keep trace = before ++ kept :: after) :
    ∃ first event second, trace = first ++ event :: second ∧ keep event = some kept ∧
      observe keep first = before ∧ observe keep second = after := by
  obtain ⟨first, rest, rfl, sameFirst, sameRest⟩ := List.filterMap_eq_append_iff.mp split
  obtain ⟨hidden, event, second, rfl, silent, shown, sameSecond⟩ :=
    List.filterMap_eq_cons_iff.mp sameRest
  have none : observe keep hidden = [] := List.filterMap_eq_nil_iff.mpr silent
  refine ⟨first ++ hidden, event, second, by simp, shown, ?_, sameSecond⟩
  rw [observe_append, none, List.append_nil]
  exact sameFirst

/-- A trace splits at the only event its observer keeps in one way. -/
theorem split_unique {first second before after : List ε} {event only : ε}
    (split : first ++ event :: second = before ++ only :: after) (shown : keep event ≠ none)
    (quietBefore : observe keep before = []) (quietAfter : observe keep after = []) :
    first = before ∧ event = only ∧ second = after := by
  rcases List.append_eq_append_iff.mp split with ⟨part, rfl, rest⟩ | ⟨part, rfl, rest⟩
  · cases part with
    | nil =>
        rw [List.nil_append, List.cons.injEq] at rest
        exact ⟨(List.append_nil _).symm, rest⟩
    | cons head tail =>
        rw [List.cons_append, List.cons.injEq] at rest
        have member : event ∈ first ++ head :: tail := by simp [rest.1]
        exact absurd quietBefore (observe_ne_nil_of_mem keep member shown)
  · cases part with
    | nil =>
        rw [List.nil_append, List.cons.injEq] at rest
        exact ⟨List.append_nil _, rest.1.symm, rest.2.symm⟩
    | cons head tail =>
        rw [List.cons_append, List.cons.injEq] at rest
        have member : event ∈ after := by simp [rest.2]
        exact absurd quietAfter (observe_ne_nil_of_mem keep member shown)

end Observe

/-! ### What holds where an event is emitted -/

section AtEach

/-- Every event of the trace meets a condition on what came before it. -/
def AtEach (holds : List ε → ε → Prop) (trace : List ε) : Prop :=
  ∀ before event after, trace = before ++ event :: after → holds before event

variable {holds : List ε → ε → Prop}

theorem atEach_nil : AtEach holds [] := by
  intro before event after split
  cases before <;> cases split

theorem AtEach.append {first second : List ε} (old : AtEach holds first)
    (new : ∀ before event after, second = before ++ event :: after →
      holds (first ++ before) event) : AtEach holds (first ++ second) := by
  intro before event after split
  rcases List.append_eq_append_iff.mp split with ⟨part, rfl, rest⟩ | ⟨part, first_eq, rest⟩
  · exact new part event after rest
  · cases part with
    | nil =>
        rw [List.nil_append] at rest
        rw [List.append_nil] at first_eq
        simpa only [List.append_nil, first_eq] using new [] event after rest.symm
    | cons head tail =>
        rw [List.cons_append, List.cons.injEq] at rest
        rw [rest.1]
        exact old before head tail first_eq

end AtEach

/-! ### What follows the first match -/

section AfterFirst

variable {δ : Type u} (found : δ → Bool)

def afterFirst (entries : List δ) : List δ :=
  (entries.dropWhile fun entry => !found entry).tail

variable {found}

private theorem dropWhile_unmatched {entries : List δ}
    (none : ∀ entry ∈ entries, found entry = false) :
    entries.dropWhile (fun entry => !found entry) = [] := by
  apply List.dropWhile_eq_nil_iff.mpr
  intro entry member
  rw [none entry member]
  rfl

theorem afterFirst_eq_nil {entries : List δ} (none : ∀ entry ∈ entries, found entry = false) :
    afterFirst found entries = [] := by
  rw [afterFirst, dropWhile_unmatched none, List.tail_nil]

theorem afterFirst_append {first : List δ} (some : ∃ entry ∈ first, found entry = true)
    (second : List δ) :
    afterFirst found (first ++ second) = afterFirst found first ++ second := by
  have kept : first.dropWhile (fun entry => !found entry) ≠ [] := by
    intro dropped
    obtain ⟨entry, member, matched⟩ := some
    have missed := List.dropWhile_eq_nil_iff.mp dropped entry member
    rw [matched] at missed
    cases missed
  rw [afterFirst, List.dropWhile_append, if_neg (by rwa [List.isEmpty_iff]),
    List.tail_append_of_ne_nil kept, afterFirst]

theorem afterFirst_append_singleton {first : List δ}
    (none : ∀ entry ∈ first, found entry = false) (entry : δ) :
    afterFirst found (first ++ [entry]) = [] := by
  rw [afterFirst, List.dropWhile_append, dropWhile_unmatched none]
  by_cases matched : found entry = true
  · simp [matched]
  · simp [matched]

end AfterFirst

/-! ### Simulation -/

section Simulation

variable {τ : Type u} {β : Type v} {δ : Type w}
  {machine : Machine σ α ε} {guard : Guard σ α ε}
  {abstract : Machine τ β δ} {abstractGuard : Guard τ β δ}

/-- Forward simulation: each concrete step is answered by an abstract run. -/
theorem Machine.Reaches.simulate {start final : Config σ ε} {abstractStart : Config τ δ}
    (related : Config σ ε → Config τ δ → Prop)
    (run : machine.Reaches guard start final) (base : related start abstractStart)
    (answer : ∀ config action next events abstractConfig,
      machine.Reaches guard start config → related config abstractConfig →
      guard config action → machine.step config.state action = some (next, events) →
      ∃ abstractNext, abstract.Reaches abstractGuard abstractConfig abstractNext ∧
        related ⟨config.trace ++ events, next⟩ abstractNext) :
    ∃ abstractFinal, abstract.Reaches abstractGuard abstractStart abstractFinal ∧
      related final abstractFinal := by
  induction run with
  | refl => exact ⟨abstractStart, .refl, base⟩
  | tail before last ih =>
      obtain ⟨middle, reached, relatedMiddle⟩ := ih
      cases last with
      | mk allowed stepped =>
          obtain ⟨answered, further, relatedNext⟩ :=
            answer _ _ _ _ middle before relatedMiddle allowed stepped
          exact ⟨answered, reached.trans further, relatedNext⟩

end Simulation

/-! ### Ranks that go down, and how long schedules can be under them -/

section Descent

/-- One part goes down and no other goes up. -/
theorem sum_set_lt {ι : Type} {parts : List ι} {index : Nat} {stands moved : ι}
    {before after : ι → Nat} (found : parts[index]? = some stands)
    (less : after moved < before stands) (others : ∀ other, after other ≤ before other) :
    ((parts.set index moved).map after).sum < (parts.map before).sum := by
  induction parts generalizing index with
  | nil => cases found
  | cons head rest ih =>
      cases index with
      | zero =>
          rw [List.getElem?_cons_zero, Option.some.injEq] at found
          have tail := List.sum_le_sum fun other (_ : other ∈ rest) => others other
          rw [List.set_cons_zero, List.map_cons, List.map_cons, List.sum_cons, List.sum_cons, found]
          omega
      | succ index =>
          rw [List.getElem?_cons_succ] at found
          have tail := ih found
          have here := others head
          rw [List.set_cons_succ, List.map_cons, List.map_cons, List.sum_cons, List.sum_cons]
          omega

variable {σ α ε : Type} {machine : Machine σ α ε} {guard : Guard σ α ε}
  [∀ config action, Decidable (guard config action)]

/-- Descent rule: where every step lowers the rank, no schedule is longer than the rank. -/
theorem Machine.length_le_of_descent {start final : Config σ ε} (rank : Config σ ε → Nat)
    (descends : ∀ config next, machine.Reaches guard start config →
      machine.Step guard config next → rank next < rank config)
    {schedule : List α} (executed : machine.exec guard start schedule = some final) :
    schedule.length + rank final ≤ rank start := by
  induction schedule generalizing start with
  | nil =>
      rw [exec, Option.some.injEq] at executed
      rw [executed, List.length_nil, Nat.zero_add]
  | cons action rest ih =>
      rw [exec] at executed
      split at executed
      · rename_i allowed
        split at executed
        · rename_i next events stepped
          have step : machine.Step guard start ⟨start.trace ++ events, next⟩ :=
            .mk allowed stepped
          have shorter := ih (fun config later reached => descends config later
            (Relation.ReflTransGen.head step reached)) executed
          have lower := descends start _ .refl step
          rw [List.length_cons]
          omega
        · cases executed
      · cases executed

end Descent

end EventMachine
