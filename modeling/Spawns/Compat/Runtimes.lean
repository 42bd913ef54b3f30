/-
What `spawns-compat` adds to `COMPATS`, and which runtime its tasks go to.

The runtimes are libraries. Of `tokio` a thread sees the handle of the runtime it
is in, if any; `smol` and `async-global-executor` take tasks from everywhere.
-/

import Spawns.Core.Routing

namespace Spawns.Runtimes

open EventMachine

open FindSpawn (localAnswer? unwrapFound selection)

open Routing (ThreadEvent machine steady)

open Machine (reaches_of_exec)

inductive Detector where
  | tokioLocal
  deriving DecidableEq, Repr

inductive SpawnFn where
  | tokioSpawn
  | smolGlobal
  | asyncGlobal
  deriving DecidableEq, Repr

/-- Where a task ends up; `H` is `tokio::runtime::Handle`. -/
inductive Runtime (H : Type) where
  | tokio (handle : H)
  | smol
  | asyncGlobalExecutor
  deriving DecidableEq, Repr

structure Features where
  tokio : Bool
  smol : Bool
  asyncGlobalExecutor : Bool
  deriving DecidableEq, Repr

def tokio : Compat Detector SpawnFn := .localFn .tokioLocal

def smol : Compat Detector SpawnFn := .namedGlobal "smol" .smolGlobal

def asyncGlobalExecutor : Compat Detector SpawnFn :=
  .namedGlobal "async-global-executor" .asyncGlobal

/-- The items of the crate with these features; the linker puts them in some order. -/
def compats (features : Features) : List (Compat Detector SpawnFn) :=
  (if features.tokio then [tokio] else []) ++
    ((if features.smol then [smol] else []) ++
      (if features.asyncGlobalExecutor then [asyncGlobalExecutor] else []))

variable {H Θ S : Type}

/-- `Handle::try_current().ok().map(|_| tokio_spawn as fn(Task))` -/
def tokioLocal (current : Option H) : Option SpawnFn := current.map fun _ => .tokioSpawn

def callDetector (current : Option H) : Detector → Option SpawnFn
  | .tokioLocal => tokioLocal current

/-- `tokio_spawn`; without a runtime `Handle::current()` panics. -/
def tokioSpawn (current : Option H) : Option (Runtime H) := current.map .tokio

/-- Who gets the task that the function is called with, `none` where it panics. -/
def callSpawn (current : Option H) : SpawnFn → Option (Runtime H)
  | .tokioSpawn => tokioSpawn current
  | .smolGlobal => some .smol
  | .asyncGlobal => some .asyncGlobalExecutor

/-- What is to be expected outside of scopes: `tokio` on a thread that is in one of
its runtimes, else the only global. Of two globals it is the chosen one, and without
a choice the last one, unless a feature refuses that. -/
def choice (features : Features) (panicMultiple : Bool) (choose : Option String)
    (last : SpawnFn) (current : Option H) : Except Failure SpawnFn :=
  if features.tokio && current.isSome then .ok .tokioSpawn
  else
    match features.smol, features.asyncGlobalExecutor with
    | false, false => .error .notFound
    | true, false => .ok .smolGlobal
    | false, true => .ok .asyncGlobal
    | true, true =>
        if choose = some "smol" then .ok .smolGlobal
        else if choose = some "async-global-executor" then .ok .asyncGlobal
        else if panicMultiple then .error .multipleGlobals
        else .ok last

/-! ### The items in any order -/

private theorem perm_short {α : Type} {left right : List α} (perm : left.Perm right)
    (short : right.length ≤ 1) : left = right := by
  match right with
  | [] => exact perm.eq_nil
  | [single] => exact List.perm_singleton.mp perm
  | _ :: _ :: _ => simp at short

variable {features : Features} {items : List (Compat Detector SpawnFn)} {panicMultiple : Bool}

private theorem answers_linked (linked : items.Perm (compats features)) (current : Option H) :
    items.filterMap (localAnswer? (callDetector current)) =
      if features.tokio then (tokioLocal current).toList else [] := by
  have same : (compats features).filterMap (localAnswer? (callDetector current)) =
      if features.tokio then (tokioLocal current).toList else [] := by
    obtain ⟨tokioOn, smolOn, asyncOn⟩ := features
    cases tokioOn <;> cases smolOn <;> cases asyncOn <;> cases current <;> rfl
  rw [← same]
  apply perm_short (linked.filterMap _)
  rw [same]
  split
  · cases tokioLocal current <;> simp
  · exact Nat.zero_le 1

private theorem named_linked (linked : items.Perm (compats features)) :
    (named items).Perm ((if features.smol then [.smolGlobal] else []) ++
      (if features.asyncGlobalExecutor then [.asyncGlobal] else [])) := by
  have same : named (compats features) = (if features.smol then [.smolGlobal] else []) ++
      (if features.asyncGlobalExecutor then [.asyncGlobal] else []) := by
    obtain ⟨tokioOn, smolOn, asyncOn⟩ := features
    cases tokioOn <;> cases smolOn <;> cases asyncOn <;> rfl
  rw [← same]
  exact linked.filterMap _

private theorem unnamed_linked (linked : items.Perm (compats features)) : unnamed items = [] := by
  have none : unnamed (compats features) = [] := by
    obtain ⟨tokioOn, smolOn, asyncOn⟩ := features
    cases tokioOn <;> cases smolOn <;> cases asyncOn <;> rfl
  have perm : (unnamed items).Perm (unnamed (compats features)) := linked.filterMap _
  rw [none] at perm
  exact perm.eq_nil

private theorem chosen_linked (linked : items.Perm (compats features)) (choose : Option String) :
    chosen choose items =
      if features.smol = true ∧ choose = some "smol" then [.smolGlobal]
      else if features.asyncGlobalExecutor = true ∧ choose = some "async-global-executor" then
        [.asyncGlobal]
      else [] := by
  have same : chosen choose (compats features) =
      if features.smol = true ∧ choose = some "smol" then [.smolGlobal]
      else if features.asyncGlobalExecutor = true ∧ choose = some "async-global-executor" then
        [.asyncGlobal]
      else [] := by
    obtain ⟨tokioOn, smolOn, asyncOn⟩ := features
    by_cases first : choose = some "smol"
    · rw [first]
      cases tokioOn <;> cases smolOn <;> cases asyncOn <;> rfl
    · by_cases second : choose = some "async-global-executor"
      · rw [second]
        cases tokioOn <;> cases smolOn <;> cases asyncOn <;> rfl
      · cases tokioOn <;> cases smolOn <;> cases asyncOn <;>
          simp [chosen, compats, tokio, smol, asyncGlobalExecutor, Compat.chosen?, first, second]
  rw [← same]
  apply perm_short (linked.filterMap _)
  change (chosen choose (compats features)).length ≤ 1
  rw [same]
  split
  · exact Nat.le_refl 1
  · split
    · exact Nat.le_refl 1
    · exact Nat.zero_le 1

def lastGlobal (items : List (Compat Detector SpawnFn)) : SpawnFn :=
  (named items).getLast?.getD .smolGlobal

private theorem selection_linked (linked : items.Perm (compats features)) (current : Option H)
    (envVar : EnvVar) :
    selection panicMultiple items (callDetector current) envVar =
      unwrapFound (choice features panicMultiple envVar.toOption (lastGlobal items) current) := by
  have globals := named_linked linked
  rw [selection, answers_linked linked, chosen_linked linked, globalCount, unnamed_linked linked,
    choice, lastGlobal]
  generalize named items = named at globals ⊢
  generalize envVar.toOption = choose
  obtain ⟨tokioOn, smolOn, asyncOn⟩ := features
  by_cases inside : tokioOn = true ∧ current.isSome = true
  · obtain ⟨rfl, isIn⟩ := inside
    obtain ⟨handle, rfl⟩ := Option.isSome_iff_exists.mp isIn
    rfl
  · have silent : (if tokioOn = true then (tokioLocal current).toList else []) = [] := by
      cases tokioOn with
      | false => rfl
      | true =>
          cases current with
          | none => rfl
          | some handle => exact absurd ⟨rfl, rfl⟩ inside
    have outside : ¬ (tokioOn && current.isSome) = true := by
      rw [Bool.and_eq_true]
      exact inside
    simp only [silent, outside]
    cases smolOn with
    | false =>
        cases asyncOn with
        | false =>
            obtain rfl : named = [] := globals.eq_nil
            simp [unwrapFound]
        | true =>
            obtain rfl : named = [.asyncGlobal] := List.perm_singleton.mp globals
            by_cases second : choose = some "async-global-executor" <;> simp [unwrapFound, second]
    | true =>
        cases asyncOn with
        | false =>
            obtain rfl : named = [.smolGlobal] := List.perm_singleton.mp globals
            by_cases first : choose = some "smol" <;> simp [unwrapFound, first]
        | true =>
            have two : named.length = 2 := globals.length_eq
            obtain ⟨last, isLast⟩ : ∃ last, named.getLast? = some last :=
              Option.isSome_iff_exists.mp (by rw [List.getLast?_isSome]; rintro rfl; cases two)
            by_cases first : choose = some "smol"
            · simp [unwrapFound, first]
            · by_cases second : choose = some "async-global-executor"
              · simp [unwrapFound, second]
              · cases panicMultiple <;> simp [unwrapFound, first, second, two, isLast]

/-! ### Whole runs -/

/-- The task goes to the innermost scope or else where it should, and whoever takes
it there is there; or it is refused for the right reason. -/
def Delivered (features : Features) (panicMultiple : Bool) (choose : Option String)
    (last : SpawnFn) : ThreadEvent Θ S SpawnFn (Option H) → Prop
  | .handedOver _ (some spawner) _ target _ => target = some (.scoped spawner)
  | .handedOver _ none current target _ => ∃ spawn runtime, target = some (.compat spawn) ∧
      choice features panicMultiple choose last current = .ok spawn ∧
      callSpawn current spawn = some runtime
  | .refused _ current failure =>
      choice features panicMultiple choose last current = .error failure

private theorem unwrapFound_inj {F : Type} {left right : Except Failure F}
    (same : unwrapFound left = unwrapFound right) : left = right := by
  cases left with
  | ok first =>
      cases right with
      | ok second => cases same; rfl
      | error failure => cases failure <;> cases same
  | error first =>
      cases right with
      | ok second => cases first <;> cases same
      | error second => cases first <;> cases second <;> first | rfl | cases same

/-- The crate never sends a task to `tokio` from outside of it. -/
private theorem callSpawn_choice {choose : Option String} {last spawn : SpawnFn}
    {current : Option H}
    (elsewhere : last ≠ .tokioSpawn)
    (chosen : choice features panicMultiple choose last current = .ok spawn) :
    ∃ runtime, callSpawn current spawn = some runtime := by
  cases spawn with
  | smolGlobal | asyncGlobal => exact ⟨_, rfl⟩
  | tokioSpawn =>
      cases current with
      | some handle => exact ⟨_, rfl⟩
      | none =>
          rw [choice, Option.isSome_none, Bool.and_false, if_neg Bool.false_ne_true] at chosen
          split at chosen
          · cases chosen
          · cases chosen
          · cases chosen
          · split at chosen
            · cases chosen
            · split at chosen
              · cases chosen
              · split at chosen
                · cases chosen
                · exact absurd (Except.ok.inj chosen) elsewhere

private theorem lastGlobal_linked (linked : items.Perm (compats features)) :
    lastGlobal items ≠ .tokioSpawn := by
  intro same
  have global : SpawnFn.tokioSpawn ∈ named items := by
    cases last : (named items).getLast? with
    | none =>
        rw [lastGlobal, last] at same
        cases same
    | some spawn =>
        rw [lastGlobal, last, Option.getD_some] at same
        rw [← same]
        exact List.mem_of_getLast? last
  have member := (named_linked linked).mem_iff.mp global
  obtain ⟨tokioOn, smolOn, asyncOn⟩ := features
  cases smolOn <;> cases asyncOn <;> simp at member

variable [DecidableEq Θ] [DecidableEq S] {envVar : EnvVar} {runtimes : Θ → Option H}
  {config : Config (Routing.State Θ S Detector SpawnFn (Option H))
    (Routing.Event Θ S SpawnFn (Option H))}

/-- With any features of the crate linked in any order, whatever the threads do: a
task spawned outside of scopes goes to the `tokio` runtime of its thread, and
elsewhere to one and the same global; none is sent to `tokio` from outside of it. -/
theorem tasks_reach_their_runtime (linked : items.Perm (compats features))
    (run : (machine panicMultiple items callDetector).Reaches steady
      (.initial (.new envVar runtimes)) config) :
    ∃ chosen : EnvVar,
      (config.state.2.found.get = none ∨
        chosen ∈ FindGlobal.varsRead (rights config.trace)) ∧
      ∀ event ∈ lefts config.trace,
        Delivered features panicMultiple chosen.toOption (lastGlobal items) event := by
  obtain ⟨chosen, read, explains⟩ := Routing.explains_of_reaches run
  refine ⟨chosen, read, ?_⟩
  intro event member
  have routed := (Routing.routes_of_reaches run).routed chosen explains event member
  cases event with
  | handedOver thread context current target task =>
      cases context with
      | some spawner => exact routed
      | none =>
          obtain ⟨spawn, sent, selected⟩ := routed
          rw [selection_linked linked] at selected
          have same : choice features panicMultiple chosen.toOption (lastGlobal items) current =
            .ok spawn := unwrapFound_inj selected
          obtain ⟨runtime, called⟩ := callSpawn_choice (lastGlobal_linked linked) same
          exact ⟨spawn, runtime, sent, same, called⟩
  | refused thread current failure =>
      have selected : selection panicMultiple items (callDetector current) chosen =
        unwrapFound (.error failure) := routed
      rw [selection_linked linked] at selected
      exact unwrapFound_inj selected

def linkedItems : List (Compat Detector SpawnFn) := [asyncGlobalExecutor, tokio, smol]

/-- A thread spawns in a runtime of `tokio` and out of it, while another one asks
for the global. -/
def leavesRuntime : List (Routing.Action Bool Nat SpawnFn (Option Nat)) :=
  [.left (.setRuntime true (some 1)), .left (.run true (.spawn (.error .notFound))),
    .left (.run true (.detected none (.error .notFound))),
    .left (.run false (.spawn (.error .notFound))), .right (.call false), .right (.get false),
    .left (.run true .spawned), .left (.setRuntime true none), .right (.readVar false),
    .right (.setVar (.ok "smol")), .right (.pick false), .both (.detected false),
    .left (.run true (.spawn (.error .notFound))), .right (.call true), .both (.detected true)]

theorem tasks_reach_their_runtime_leaving :
    ∃ config : Config (Routing.State Bool Nat Detector SpawnFn (Option Nat))
        (Routing.Event Bool Nat SpawnFn (Option Nat)),
      (machine false linkedItems callDetector).exec steady
          (.initial (.new (.ok "async-global-executor") fun _ => none)) leavesRuntime =
            some config ∧
      (lefts config.trace).filterMap ThreadEvent.sent? =
        [(true, some (.compat .tokioSpawn)), (false, some (.compat .asyncGlobal)),
          (true, some (.compat .asyncGlobal))] ∧
      ∃ chosen : EnvVar,
        (config.state.2.found.get = none ∨
          chosen ∈ FindGlobal.varsRead (rights config.trace)) ∧
        ∀ event ∈ lefts config.trace,
          Delivered ⟨true, true, true⟩ false chosen.toOption (lastGlobal linkedItems) event := by
  have ran : ((machine false linkedItems callDetector).exec steady
      (.initial (.new (.ok "async-global-executor") fun _ => none) :
        Config (Routing.State Bool Nat Detector SpawnFn (Option Nat))
          (Routing.Event Bool Nat SpawnFn (Option Nat))) leavesRuntime).map
        (fun config => (lefts config.trace).filterMap ThreadEvent.sent?) =
      some [(true, some (.compat .tokioSpawn)), (false, some (.compat .asyncGlobal)),
        (true, some (.compat .asyncGlobal))] := by
    decide +kernel
  obtain ⟨config, executed, reads⟩ := Option.map_eq_some_iff.mp ran
  exact ⟨config, executed, reads,
    tasks_reach_their_runtime (by decide) (reaches_of_exec leavesRuntime executed)⟩

end Spawns.Runtimes
