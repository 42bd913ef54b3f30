/-
A growing family of machines that run side by side.

A member is made from a seed and then takes its own steps, in any order with
those of the others. A run of the family projects to a run of each member.
-/

import Spawns.Foundation.EventMachine

namespace EventMachine

variable {σ α ε ι : Type}

inductive FamilyAction (ι α : Type) where
  | create (seed : ι)
  | member (index : Nat) (action : α)

inductive FamilyEvent (ι ε : Type) where
  | created (seed : ι)
  | member (index : Nat) (event : ε)

variable (machine : Machine σ α ε) (start : ι → σ)

def Machine.family : Machine (List σ) (FamilyAction ι α) (FamilyEvent ι ε) where
  step members
    | .create seed => some (members ++ [start seed], [.created seed])
    | .member index action =>
        match members[index]? with
        | some state =>
            match machine.step state action with
            | some (next, events) => some (members.set index next, events.map (.member index))
            | none => none
        | none => none

def FamilyEvent.seed? : FamilyEvent ι ε → Option ι
  | .created seed => some seed
  | .member _ _ => none

def FamilyEvent.of? (index : Nat) : FamilyEvent ι ε → Option ε
  | .created _ => none
  | .member other event => if other = index then some event else none

abbrev seeds (trace : List (FamilyEvent ι ε)) : List ι := observe FamilyEvent.seed? trace

abbrev memberTrace (index : Nat) (trace : List (FamilyEvent ι ε)) : List ε :=
  observe (FamilyEvent.of? index) trace

theorem seeds_member (index : Nat) (events : List ε) :
    seeds (events.map (.member index) : List (FamilyEvent ι ε)) = [] :=
  observe_map_none _ _ fun _ => rfl

theorem memberTrace_self (index : Nat) (events : List ε) :
    memberTrace index (events.map (.member index) : List (FamilyEvent ι ε)) = events :=
  observe_map_some _ _ fun _ => if_pos rfl

theorem memberTrace_other {index other : Nat} (apart : other ≠ index) (events : List ε) :
    memberTrace index (events.map (.member other) : List (FamilyEvent ι ε)) = [] :=
  observe_map_none _ _ fun _ => if_neg apart

theorem FamilyEvent.of?_eq_some {index : Nat} {event : FamilyEvent ι ε} {shown : ε} :
    event.of? index = some shown ↔ event = .member index shown := by
  cases event with
  | created => simp [of?]
  | member other own =>
      by_cases same : other = index
      · simp [of?, same]
      · simp [of?, same]

theorem mem_memberTrace {index : Nat} {trace : List (FamilyEvent ι ε)} {event : ε} :
    event ∈ memberTrace index trace ↔ .member index event ∈ trace := by
  rw [memberTrace, mem_observe]
  constructor
  · rintro ⟨whole, member, shows⟩
    rw [FamilyEvent.of?_eq_some] at shows
    rw [← shows]
    exact member
  · intro member
    exact ⟨_, member, FamilyEvent.of?_eq_some.mpr rfl⟩

variable {machine start}

inductive FamilyStep (machine : Machine σ α ε) (start : ι → σ) (members : List σ) :
    FamilyAction ι α → List σ → List (FamilyEvent ι ε) → Prop where
  | creates (seed : ι) :
      FamilyStep machine start members (.create seed) (members ++ [start seed]) [.created seed]
  | moves (index : Nat) (action : α) (state next : σ) (events : List ε)
      (found : members[index]? = some state)
      (stepped : machine.step state action = some (next, events)) :
      FamilyStep machine start members (.member index action) (members.set index next)
        (events.map (.member index))

theorem familyStep_of_step {members next : List σ} {action : FamilyAction ι α}
    {events : List (FamilyEvent ι ε)}
    (stepped : (machine.family start).step members action = some (next, events)) :
    FamilyStep machine start members action next events := by
  cases action with
  | create seed =>
      cases stepped
      exact .creates seed
  | member index action =>
      simp only [Machine.family] at stepped
      split at stepped
      · rename_i state found
        split at stepped
        · rename_i moved shown moves
          cases stepped
          exact .moves index action state moved shown found moves
        · cases stepped
      · cases stepped

/-- What one step of the family is for the member at one index. -/
inductive MemberStep (machine : Machine σ α ε) (start : ι → σ) (members : List σ) (index : Nat)
    (next : List σ) (events : List (FamilyEvent ι ε)) : FamilyAction ι α → Prop where
  | rests (action : FamilyAction ι α) (same : next[index]? = members[index]?)
      (silent : memberTrace index events = []) :
      MemberStep machine start members index next events action
  | born (seed : ι) (fresh : members[index]? = none) (found : next[index]? = some (start seed))
      (silent : memberTrace index events = []) :
      MemberStep machine start members index next events (.create seed)
  | moves (action : α) (before after : σ) (found : members[index]? = some before)
      (moved : next[index]? = some after)
      (stepped : machine.step before action = some (after, memberTrace index events)) :
      MemberStep machine start members index next events (.member index action)

theorem FamilyStep.at {members next : List σ} {action : FamilyAction ι α}
    {events : List (FamilyEvent ι ε)}
    (step : FamilyStep machine start members action next events) (index : Nat) :
    MemberStep machine start members index next events action := by
  cases step with
  | creates seed =>
      rcases Nat.lt_trichotomy index members.length with below | last | above
      · exact .rests _ (List.getElem?_append_left below) rfl
      · rw [last]
        exact .born seed (List.getElem?_eq_none (Nat.le_refl _)) List.getElem?_concat_length rfl
      · refine .rests _ ?_ rfl
        rw [List.getElem?_eq_none (by rw [List.length_append, List.length_singleton]; omega),
          List.getElem?_eq_none (by omega)]
  | moves moved own before after shown found stepped =>
      by_cases same : moved = index
      · subst same
        have inRange := (List.getElem?_eq_some_iff.mp found).1
        refine .moves own before after found (List.getElem?_set_self inRange) ?_
        rw [memberTrace_self]
        exact stepped
      · exact .rests _ (List.getElem?_set_ne same) (memberTrace_other same shown)

theorem family_member_cases {members next : List σ} {index : Nat} {action : α}
    {events : List (FamilyEvent ι ε)}
    (stepped : (machine.family start).step members (.member index action) =
      some (next, events)) :
    ∃ before after, members[index]? = some before ∧ next[index]? = some after ∧
      machine.step before action = some (after, memberTrace index events) := by
  cases familyStep_of_step stepped with
  | moves _ _ before after shown found moves =>
      have inRange := (List.getElem?_eq_some_iff.mp found).1
      refine ⟨before, after, found, List.getElem?_set_self inRange, ?_⟩
      rw [memberTrace_self]
      exact moves

theorem Machine.family_member {members : List σ} {index : Nat} {action : α} {state next : σ}
    {events : List ε} (found : members[index]? = some state)
    (stepped : machine.step state action = some (next, events)) :
    (machine.family start).step members (.member index action) =
      some (members.set index next, events.map (.member index)) := by
  simp only [Machine.family, found, stepped]

/-! ### Runs of the members -/

/-- Every member has come from its own seed by steps of its own. -/
structure Grown (machine : Machine σ α ε) (start : ι → σ) (guard : Guard σ α ε)
    (config : Config (List σ) (FamilyEvent ι ε)) : Prop where
  seeded : (seeds config.trace).length = config.state.length
  unborn : ∀ index, config.state.length ≤ index → memberTrace index config.trace = []
  member : ∀ index state, config.state[index]? = some state →
    ∃ seed, (seeds config.trace)[index]? = some seed ∧
      machine.Reaches guard (.initial (start seed)) ⟨memberTrace index config.trace, state⟩

variable {guard : Guard (List σ) (FamilyAction ι α) (FamilyEvent ι ε)}
  {memberGuard : Guard σ α ε} {config : Config (List σ) (FamilyEvent ι ε)}

theorem step_grown {action : FamilyAction ι α} {next : List σ} {events : List (FamilyEvent ι ε)}
    (grown : Grown machine start memberGuard config)
    (allowed : ∀ index own state, action = .member index own →
      config.state[index]? = some state →
      memberGuard ⟨memberTrace index config.trace, state⟩ own)
    (step : FamilyStep machine start config.state action next events) :
    Grown machine start memberGuard ⟨config.trace ++ events, next⟩ := by
  obtain ⟨seeded, unborn, member⟩ := grown
  cases step with
  | creates seed =>
      have silent (index : Nat) : memberTrace index (config.trace ++ [.created seed]) =
          memberTrace index config.trace := by
        rw [memberTrace, observe_append]
        exact List.append_nil _
      have seedsNow : seeds (config.trace ++ [.created seed]) = seeds config.trace ++ [seed] :=
        observe_append _ _ _
      constructor
      · rw [seedsNow, List.length_append, List.length_append, seeded]
        rfl
      · intro index past
        rw [List.length_append] at past
        rw [silent]
        exact unborn index (by omega)
      · intro index state found
        rw [silent, seedsNow]
        by_cases old : index < config.state.length
        · rw [List.getElem?_append_left old] at found
          rw [List.getElem?_append_left (by omega)]
          exact member index state found
        · have last : index = config.state.length := by
            have inRange := (List.getElem?_eq_some_iff.mp found).1
            rw [List.length_append, List.length_singleton] at inRange
            omega
          rw [last, List.getElem?_concat_length, Option.some.injEq] at found
          refine ⟨seed, ?_, ?_⟩
          · rw [last, ← seeded, List.getElem?_concat_length]
          · rw [unborn index (by omega), ← found]
            exact .refl
  | moves moved own before after shown found stepped =>
      have inRange := (List.getElem?_eq_some_iff.mp found).1
      have seedsNow : seeds (config.trace ++ shown.map (.member moved)) = seeds config.trace := by
        rw [seeds, observe_append, ← seeds, ← seeds, seeds_member, List.append_nil]
      have others {index : Nat} (apart : moved ≠ index) :
          memberTrace index (config.trace ++ shown.map (.member moved)) =
            memberTrace index config.trace := by
        rw [memberTrace, observe_append, ← memberTrace, ← memberTrace, memberTrace_other apart,
          List.append_nil]
      constructor
      · rw [seedsNow, List.length_set, seeded]
      · intro index past
        rw [List.length_set] at past
        rw [others (by omega)]
        exact unborn index past
      · intro index state foundNow
        rw [seedsNow]
        by_cases same : moved = index
        · subst same
          rw [List.getElem?_set_self inRange, Option.some.injEq] at foundNow
          obtain ⟨seed, sown, reached⟩ := member moved before found
          refine ⟨seed, sown, ?_⟩
          rw [memberTrace, observe_append, ← memberTrace, ← memberTrace, memberTrace_self,
            ← foundNow]
          exact reached.tail (.mk (allowed moved own before rfl found) stepped)
        · rw [List.getElem?_set_ne same] at foundNow
          rw [others same]
          exact member index state foundNow

theorem grown_of_reaches
    (run : (machine.family start).Reaches guard (.initial []) config)
    (allowed : ∀ config index own state, guard config (.member index own) →
      config.state[index]? = some state →
      memberGuard ⟨memberTrace index config.trace, state⟩ own) :
    Grown machine start memberGuard config := by
  apply run.invariant (fun config => Grown machine start memberGuard config)
  · exact ⟨rfl, fun _ _ => rfl, nofun⟩
  · intro before action next events _reached grown permitted stepped
    apply step_grown grown _ (familyStep_of_step stepped)
    rintro index own state rfl found
    exact allowed before index own state permitted found

theorem Machine.Reaches.member_unborn {index : Nat}
    (run : (machine.family start).Reaches guard (.initial []) config)
    (unborn : config.state[index]? = none) : memberTrace index config.trace = [] := by
  have grown : Grown machine start .any config :=
    grown_of_reaches run fun _ _ _ _ _ _ => trivial
  exact grown.unborn index (List.getElem?_eq_none_iff.mp unborn)

/-- A run of the family is a run of each of its members. -/
theorem Machine.Reaches.member {index : Nat} {state : σ}
    (run : (machine.family start).Reaches guard (.initial []) config)
    (found : config.state[index]? = some state) :
    ∃ seed, (seeds config.trace)[index]? = some seed ∧
      machine.Reaches .any (.initial (start seed)) ⟨memberTrace index config.trace, state⟩ := by
  have grown : Grown machine start .any config :=
    grown_of_reaches run fun _ _ _ _ _ _ => trivial
  exact grown.member index state found

/-- From a member's birth on, a run of the family goes on as a run of that member. -/
theorem Machine.Reaches.member_onward {index : Nat} {state : σ}
    {before after : Config (List σ) (FamilyEvent ι ε)}
    (run : (machine.family start).Reaches guard before after)
    (found : before.state[index]? = some state) :
    ∃ next, after.state[index]? = some next ∧
      machine.Reaches .any ⟨memberTrace index before.trace, state⟩
        ⟨memberTrace index after.trace, next⟩ := by
  refine run.invariant (fun after => ∃ next, after.state[index]? = some next ∧
    machine.Reaches .any ⟨memberTrace index before.trace, state⟩
      ⟨memberTrace index after.trace, next⟩) ⟨state, found, .refl⟩ ?_
  rintro config action next events _reached ⟨middle, foundNow, reached⟩ _allowed stepped
  have grows : memberTrace index (config.trace ++ events) =
      memberTrace index config.trace ++ memberTrace index events := observe_append _ _ _
  cases (familyStep_of_step stepped).at index with
  | rests _ same silent =>
      refine ⟨middle, same.trans foundNow, ?_⟩
      rw [grows, silent, List.append_nil]
      exact reached
  | born _ fresh =>
      rw [foundNow] at fresh
      cases fresh
  | moves own _ moved foundThen foundNext moves =>
      rw [foundNow, Option.some.injEq] at foundThen
      subst foundThen
      refine ⟨moved, foundNext, ?_⟩
      rw [grows]
      exact reached.tail (.mk trivial moves)

end EventMachine
