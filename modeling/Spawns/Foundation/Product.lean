/-
Two machines run side by side, with some steps taken together.

A coupling says when a party may move alone and which actions are one step of
both. A run of the product projects to a run of each party, and a run of the
second party alone lifts to the product.
-/

import Spawns.Foundation.EventMachine

namespace EventMachine

variable {σ τ α β γ ε δ : Type}

inductive ProductAction (α β γ : Type) where
  | left (action : α)
  | right (action : β)
  | both (shared : γ)

/-- `together` picks the actions of both parties from their states. -/
structure Coupling (σ τ α β γ : Type) where
  leftAlone : σ × τ → α → Bool
  rightAlone : σ × τ → β → Bool
  together : σ × τ → γ → Option (α × β)

variable (machine : Machine σ α ε) (partner : Machine τ β δ) (coupling : Coupling σ τ α β γ)

def Machine.product : Machine (σ × τ) (ProductAction α β γ) (ε ⊕ δ) where
  step state
    | .left action =>
        if coupling.leftAlone state action then
          match machine.step state.1 action with
          | some (next, events) => some ((next, state.2), events.map .inl)
          | none => none
        else none
    | .right action =>
        if coupling.rightAlone state action then
          match partner.step state.2 action with
          | some (next, events) => some ((state.1, next), events.map .inr)
          | none => none
        else none
    | .both shared =>
        match coupling.together state shared with
        | some (first, second) =>
            match machine.step state.1 first, partner.step state.2 second with
            | some (next, events), some (other, answers) =>
                some ((next, other), events.map .inl ++ answers.map .inr)
            | _, _ => none
        | none => none

abbrev lefts (trace : List (ε ⊕ δ)) : List ε := observe Sum.getLeft? trace

abbrev rights (trace : List (ε ⊕ δ)) : List δ := observe Sum.getRight? trace

@[simp] theorem lefts_map_inl (events : List ε) :
    lefts (events.map .inl : List (ε ⊕ δ)) = events := observe_map_some _ _ fun _ => rfl

@[simp] theorem lefts_map_inr (events : List δ) :
    lefts (events.map .inr : List (ε ⊕ δ)) = [] := observe_map_none _ _ fun _ => rfl

@[simp] theorem rights_map_inl (events : List ε) :
    rights (events.map .inl : List (ε ⊕ δ)) = [] := observe_map_none _ _ fun _ => rfl

@[simp] theorem rights_map_inr (events : List δ) :
    rights (events.map .inr : List (ε ⊕ δ)) = events := observe_map_some _ _ fun _ => rfl

theorem lefts_append (trace events : List (ε ⊕ δ)) :
    lefts (trace ++ events) = lefts trace ++ lefts events := observe_append _ _ _

theorem rights_append (trace events : List (ε ⊕ δ)) :
    rights (trace ++ events) = rights trace ++ rights events := observe_append _ _ _

theorem lefts_both (events : List ε) (answers : List δ) :
    lefts (events.map .inl ++ answers.map .inr) = events := by
  simp only [observe_append, lefts_map_inl, lefts_map_inr, List.append_nil]

theorem rights_both (events : List ε) (answers : List δ) :
    rights (events.map .inl ++ answers.map .inr) = answers := by
  simp only [observe_append, rights_map_inl, rights_map_inr, List.nil_append]

theorem mem_lefts {trace : List (ε ⊕ δ)} {event : ε} :
    event ∈ lefts trace ↔ .inl event ∈ trace := by
  rw [lefts, mem_observe]
  simp only [Sum.getLeft?_eq_some_iff, exists_eq_right]

theorem mem_rights {trace : List (ε ⊕ δ)} {event : δ} :
    event ∈ rights trace ↔ .inr event ∈ trace := by
  rw [rights, mem_observe]
  simp only [Sum.getRight?_eq_some_iff, exists_eq_right]

variable {machine : Machine σ α ε} {partner : Machine τ β δ} {coupling : Coupling σ τ α β γ}

inductive ProductStep (machine : Machine σ α ε) (partner : Machine τ β δ)
    (coupling : Coupling σ τ α β γ) (state : σ × τ) :
    ProductAction α β γ → σ × τ → List (ε ⊕ δ) → Prop where
  | left (action : α) (next : σ) (events : List ε)
      (alone : coupling.leftAlone state action = true)
      (stepped : machine.step state.1 action = some (next, events)) :
      ProductStep machine partner coupling state (.left action) (next, state.2) (events.map .inl)
  | right (action : β) (next : τ) (events : List δ)
      (alone : coupling.rightAlone state action = true)
      (stepped : partner.step state.2 action = some (next, events)) :
      ProductStep machine partner coupling state (.right action) (state.1, next) (events.map .inr)
  | both (shared : γ) (first : α) (second : β) (next : σ) (other : τ) (events : List ε)
      (answers : List δ) (chosen : coupling.together state shared = some (first, second))
      (stepped : machine.step state.1 first = some (next, events))
      (answered : partner.step state.2 second = some (other, answers)) :
      ProductStep machine partner coupling state (.both shared) (next, other)
        (events.map .inl ++ answers.map .inr)

theorem productStep_of_step {state next : σ × τ} {action : ProductAction α β γ}
    {events : List (ε ⊕ δ)}
    (stepped : (Machine.product machine partner coupling).step state action = some (next, events)) :
    ProductStep machine partner coupling state action next events := by
  cases action with
  | left action =>
      simp only [Machine.product] at stepped
      split at stepped
      · rename_i alone
        split at stepped
        · rename_i moved events moves
          cases stepped
          exact .left action moved events alone moves
        · cases stepped
      · cases stepped
  | right action =>
      simp only [Machine.product] at stepped
      split at stepped
      · rename_i alone
        split at stepped
        · rename_i moved events moves
          cases stepped
          exact .right action moved events alone moves
        · cases stepped
      · cases stepped
  | both shared =>
      simp only [Machine.product] at stepped
      split at stepped
      · rename_i first second chosen
        split at stepped
        · rename_i moved events other answers moves answered
          cases stepped
          exact .both shared first second moved other events answers chosen moves answered
        · cases stepped
      · cases stepped

theorem Machine.product_left {state : σ × τ} {action : α} {next : σ} {events : List ε}
    (alone : coupling.leftAlone state action = true)
    (stepped : machine.step state.1 action = some (next, events)) :
    (Machine.product machine partner coupling).step state (.left action) =
      some ((next, state.2), events.map .inl) := by
  simp only [Machine.product, alone, stepped, if_true]

theorem Machine.product_right {state : σ × τ} {action : β} {next : τ} {events : List δ}
    (alone : coupling.rightAlone state action = true)
    (stepped : partner.step state.2 action = some (next, events)) :
    (Machine.product machine partner coupling).step state (.right action) =
      some ((state.1, next), events.map .inr) := by
  simp only [Machine.product, alone, stepped, if_true]

theorem Machine.product_both {state : σ × τ} {shared : γ} {first : α} {second : β} {next : σ}
    {other : τ} {events : List ε} {answers : List δ}
    (chosen : coupling.together state shared = some (first, second))
    (stepped : machine.step state.1 first = some (next, events))
    (answered : partner.step state.2 second = some (other, answers)) :
    (Machine.product machine partner coupling).step state (.both shared) =
      some ((next, other), events.map .inl ++ answers.map .inr) := by
  simp only [Machine.product, chosen, stepped, answered]

variable {guard : Guard (σ × τ) (ProductAction α β γ) (ε ⊕ δ)}
  {start final : Config (σ × τ) (ε ⊕ δ)}

def Config.left (config : Config (σ × τ) (ε ⊕ δ)) : Config σ ε :=
  ⟨lefts config.trace, config.state.1⟩

def Config.right (config : Config (σ × τ) (ε ⊕ δ)) : Config τ δ :=
  ⟨rights config.trace, config.state.2⟩

theorem Config.left_append (trace events : List (ε ⊕ δ)) (state : σ × τ) :
    Config.left ⟨trace ++ events, state⟩ = ⟨lefts trace ++ lefts events, state.1⟩ := by
  simp only [Config.left, observe_append]

theorem Config.right_append (trace events : List (ε ⊕ δ)) (state : σ × τ) :
    Config.right ⟨trace ++ events, state⟩ = ⟨rights trace ++ rights events, state.2⟩ := by
  simp only [Config.right, observe_append]

theorem Machine.Reaches.left
    (run : (Machine.product machine partner coupling).Reaches guard start final) :
    machine.Reaches .any start.left final.left := by
  apply run.invariant (fun config => machine.Reaches .any start.left config.left) .refl
  intro config action next events _before reached _allowed stepped
  cases productStep_of_step stepped with
  | left action moved shown _ moves =>
      rw [Config.left_append, lefts_map_inl]
      exact reached.tail (.mk trivial moves)
  | right action moved shown =>
      rw [Config.left_append, lefts_map_inr, List.append_nil]
      exact reached
  | both shared first second moved other shown answers _ moves =>
      rw [Config.left_append, lefts_both]
      exact reached.tail (.mk trivial moves)

theorem Machine.Reaches.right
    (run : (Machine.product machine partner coupling).Reaches guard start final) :
    partner.Reaches .any start.right final.right := by
  apply run.invariant (fun config => partner.Reaches .any start.right config.right) .refl
  intro config action next events _before reached _allowed stepped
  cases productStep_of_step stepped with
  | left action moved shown =>
      rw [Config.right_append, rights_map_inl, List.append_nil]
      exact reached
  | right action moved shown _ moves =>
      rw [Config.right_append, rights_map_inr]
      exact reached.tail (.mk trivial moves)
  | both shared first second moved other shown answers _ _ answered =>
      rw [Config.right_append, rights_both]
      exact reached.tail (.mk trivial answered)

def Guard.onlyRight (rightGuard : Guard τ β δ) :
    Guard (σ × τ) (ProductAction α β γ) (ε ⊕ δ) := fun config action =>
  match action with
  | .right action => rightGuard config.right action
  | _ => False

/-- A run of the second party alone is a run of the product. -/
theorem Machine.Reaches.lift_right {rightGuard : Guard τ β δ} {last : Config τ δ}
    (run : partner.Reaches rightGuard start.right last)
    (alone : ∀ config state action, rightGuard config action →
      coupling.rightAlone state action = true) :
    ∃ final,
      (Machine.product machine partner coupling).Reaches (.onlyRight rightGuard) start final ∧
        final.left = start.left ∧ final.right = last := by
  refine run.invariant (fun last => ∃ final,
    (Machine.product machine partner coupling).Reaches (.onlyRight rightGuard) start final ∧
      final.left = start.left ∧ final.right = last) ⟨start, .refl, rfl, rfl⟩ ?_
  rintro _ action next events _before ⟨final, reached, sameLeft, rfl⟩ allowed stepped
  have moves : (Machine.product machine partner coupling).step final.state (.right action) =
      some ((final.state.1, next), events.map .inr) :=
    Machine.product_right (alone final.right final.state action allowed) stepped
  have permitted : Guard.onlyRight rightGuard final (.right action : ProductAction α β γ) :=
    allowed
  refine ⟨_, reached.tail (.mk permitted moves), ?_, ?_⟩
  · rw [Config.left_append, lefts_map_inr, List.append_nil]
    exact sameLeft
  · rw [Config.right_append, rights_map_inr]
    rfl

end EventMachine
