/-
`find_global` called by any number of threads.

Reading `FOUND`, reading `SPAWNS_GLOBAL_SPAWNER`, `pick_global` and
`get_or_init` are one step each. The environment may change the variable between
any two of them.
-/

import Mathlib.Logic.Function.Basic
import Spawns.Foundation.Cells
import Spawns.Foundation.EventMachine
import Spawns.Core.Compat

namespace Spawns

open EventMachine

open Machine (reaches_of_exec)

inductive VarError where
  | notPresent
  | notUnicode (value : List UInt8)
  deriving DecidableEq, Repr

/-- What `std::env::var("SPAWNS_GLOBAL_SPAWNER")` returns. -/
abbrev EnvVar := Except VarError String

variable {L F Θ : Type}

/-- `find_global`, run without interference; `toOption` is `.ok()`. -/
def findGlobal (panicMultiple : Bool) (compats : List (Compat L F))
    (found : OnceLock (Except Failure F)) (envVar : EnvVar) :
    Except Failure F × OnceLock (Except Failure F) :=
  match found.get with
  | some result => (result, found)
  | none => found.getOrInit (pickGlobal panicMultiple compats envVar.toOption)

namespace FindGlobal

inductive Point (F : Type) where
  | idle
  | getting
  | reading
  | picking (choose : Option String)
  | storing (result : Except Failure F)

structure State (Θ F : Type) where
  found : OnceLock (Except Failure F)
  envVar : EnvVar
  points : Θ → Point F

inductive Event (Θ F : Type) where
  | varRead (thread : Θ) (envVar : EnvVar)
  | returned (thread : Θ) (result : Except Failure F)

inductive Action (Θ : Type) where
  | call (thread : Θ)
  | get (thread : Θ)
  | readVar (thread : Θ)
  | pick (thread : Θ)
  | getOrInit (thread : Θ)
  | setVar (envVar : EnvVar)

def Action.thread? : Action Θ → Option Θ
  | .call thread => some thread
  | .get thread => some thread
  | .readVar thread => some thread
  | .pick thread => some thread
  | .getOrInit thread => some thread
  | .setVar _ => none

def State.new (envVar : EnvVar) : State Θ F := ⟨.new, envVar, fun _ => .idle⟩

@[simp] def Event.result? : Event Θ F → Option (Except Failure F)
  | .returned _ result => some result
  | _ => none

@[simp] def Event.envVar? : Event Θ F → Option EnvVar
  | .varRead _ envVar => some envVar
  | _ => none

abbrev results (trace : List (Event Θ F)) : List (Except Failure F) :=
  observe Event.result? trace

abbrev varsRead (trace : List (Event Θ F)) : List EnvVar := observe Event.envVar? trace

section Steps

variable [DecidableEq Θ]

def State.move (state : State Θ F) (thread : Θ) (point : Point F) : State Θ F :=
  { state with points := Function.update state.points thread point }

def call (state : State Θ F) (thread : Θ) : Option (State Θ F × List (Event Θ F)) :=
  match state.points thread with
  | .idle => some (state.move thread .getting, [])
  | _ => none

/-- `if let Some(found) = FOUND.get() { return *found; }` -/
def get (state : State Θ F) (thread : Θ) : Option (State Θ F × List (Event Θ F)) :=
  match state.points thread with
  | .getting =>
      match state.found.get with
      | some result => some (state.move thread .idle, [.returned thread result])
      | none => some (state.move thread .reading, [])
  | _ => none

/-- `let choose = std::env::var("SPAWNS_GLOBAL_SPAWNER").ok()` -/
def readVar (state : State Θ F) (thread : Θ) : Option (State Θ F × List (Event Θ F)) :=
  match state.points thread with
  | .reading =>
      some (state.move thread (.picking state.envVar.toOption), [.varRead thread state.envVar])
  | _ => none

/-- `let result = pick_global(choose.as_deref())` -/
def pick (panicMultiple : Bool) (compats : List (Compat L F)) (state : State Θ F)
    (thread : Θ) : Option (State Θ F × List (Event Θ F)) :=
  match state.points thread with
  | .picking choose =>
      some (state.move thread (.storing (pickGlobal panicMultiple compats choose)), [])
  | _ => none

/-- `*FOUND.get_or_init(|| result)` -/
def getOrInit (state : State Θ F) (thread : Θ) : Option (State Θ F × List (Event Θ F)) :=
  match state.points thread with
  | .storing result =>
      some ({ state.move thread .idle with found := (state.found.getOrInit result).2 },
        [.returned thread (state.found.getOrInit result).1])
  | _ => none

def machine (panicMultiple : Bool) (compats : List (Compat L F)) :
    Machine (State Θ F) (Action Θ) (Event Θ F) where
  step state
    | .call thread => call state thread
    | .get thread => get state thread
    | .readVar thread => readVar state thread
    | .pick thread => pick panicMultiple compats state thread
    | .getOrInit thread => getOrInit state thread
    | .setVar envVar => some ({ state with envVar := envVar }, [])

@[simp] theorem State.move_found (state : State Θ F) (thread : Θ) (point : Point F) :
    (state.move thread point).found = state.found := rfl

@[simp] theorem State.move_envVar (state : State Θ F) (thread : Θ) (point : Point F) :
    (state.move thread point).envVar = state.envVar := rfl

private theorem State.points_move (state : State Θ F) (thread : Θ) (point : Point F) :
    (state.move thread point).points = Function.update state.points thread point := rfl

private theorem State.move_points {state : State Θ F} {thread other : Θ} {point : Point F}
    {stands : Point F} (here : (state.move thread point).points other = stands) :
    point = stands ∨ state.points other = stands := by
  by_cases same : other = thread
  · subst same
    left
    rwa [State.points_move, Function.update_self] at here
  · right
    rwa [State.points_move, Function.update_of_ne same] at here

inductive Transition (panicMultiple : Bool) (compats : List (Compat L F)) (state : State Θ F) :
    Action Θ → State Θ F → List (Event Θ F) → Prop where
  | calls (thread : Θ) (point : state.points thread = .idle) :
      Transition panicMultiple compats state (.call thread) (state.move thread .getting) []
  | finds (thread : Θ) (result : Except Failure F) (point : state.points thread = .getting)
      (held : state.found.get = some result) :
      Transition panicMultiple compats state (.get thread) (state.move thread .idle)
        [.returned thread result]
  | misses (thread : Θ) (point : state.points thread = .getting)
      (empty : state.found.get = none) :
      Transition panicMultiple compats state (.get thread) (state.move thread .reading) []
  | reads (thread : Θ) (point : state.points thread = .reading) :
      Transition panicMultiple compats state (.readVar thread)
        (state.move thread (.picking state.envVar.toOption)) [.varRead thread state.envVar]
  | picks (thread : Θ) (choose : Option String) (point : state.points thread = .picking choose) :
      Transition panicMultiple compats state (.pick thread)
        (state.move thread (.storing (pickGlobal panicMultiple compats choose))) []
  | stores (thread : Θ) (result : Except Failure F)
      (point : state.points thread = .storing result) :
      Transition panicMultiple compats state (.getOrInit thread)
        { state.move thread .idle with found := (state.found.getOrInit result).2 }
        [.returned thread (state.found.getOrInit result).1]
  | varChanges (envVar : EnvVar) :
      Transition panicMultiple compats state (.setVar envVar) { state with envVar := envVar } []

variable {panicMultiple : Bool} {compats : List (Compat L F)} {state next : State Θ F}
  {action : Action Θ} {trace events : List (Event Θ F)}

theorem transition_of_step
    (stepped : (machine panicMultiple compats).step state action = some (next, events)) :
    Transition panicMultiple compats state action next events := by
  cases action with
  | call thread =>
      change call state thread = some (next, events) at stepped
      unfold call at stepped
      split at stepped <;> cases stepped
      exact .calls thread ‹_›
  | get thread =>
      change get state thread = some (next, events) at stepped
      unfold get at stepped
      split at stepped
      · rename_i point
        split at stepped <;> rename_i held <;> cases stepped
        · exact .finds thread _ point held
        · exact .misses thread point held
      · cases stepped
  | readVar thread =>
      change readVar state thread = some (next, events) at stepped
      unfold readVar at stepped
      split at stepped <;> cases stepped
      exact .reads thread ‹_›
  | pick thread =>
      change pick panicMultiple compats state thread = some (next, events) at stepped
      unfold pick at stepped
      split at stepped <;> cases stepped
      exact .picks thread _ ‹_›
  | getOrInit thread =>
      change getOrInit state thread = some (next, events) at stepped
      unfold getOrInit at stepped
      split at stepped <;> cases stepped
      exact .stores thread _ ‹_›
  | setVar envVar =>
      cases stepped
      exact .varChanges envVar

/-! ### One result for all threads -/

/-- The result is that of `pick_global` for a value of the variable that a call has read. -/
def Picked (panicMultiple : Bool) (compats : List (Compat L F)) (trace : List (Event Θ F))
    (result : Except Failure F) : Prop :=
  ∃ envVar ∈ varsRead trace, result = pickGlobal panicMultiple compats envVar.toOption

omit [DecidableEq Θ] in
private theorem Picked.append {result : Except Failure F}
    (picked : Picked panicMultiple compats trace result) (events : List (Event Θ F)) :
    Picked panicMultiple compats (trace ++ events) result := by
  obtain ⟨envVar, read, same⟩ := picked
  exact ⟨envVar, mem_observe_append _ read events, same⟩

/-- Every result on its way to `FOUND` was picked, and every one returned is in it. -/
structure Settled (panicMultiple : Bool) (compats : List (Compat L F)) (trace : List (Event Θ F))
    (state : State Θ F) : Prop where
  held : ∀ result, state.found.get = some result → Picked panicMultiple compats trace result
  returned : ∀ result ∈ results trace, state.found.get = some result
  picking : ∀ thread choose, state.points thread = .picking choose →
    ∃ envVar ∈ varsRead trace, choose = envVar.toOption
  storing : ∀ thread result, state.points thread = .storing result →
    Picked panicMultiple compats trace result

private theorem Settled.move {thread : Θ} {point : Point F}
    (settled : Settled panicMultiple compats trace state)
    (returned : ∀ result ∈ results events, state.found.get = some result)
    (picking : ∀ choose, point = .picking choose →
      ∃ envVar ∈ varsRead (trace ++ events), choose = envVar.toOption)
    (storing : ∀ result, point = .storing result →
      Picked panicMultiple compats (trace ++ events) result) :
    Settled panicMultiple compats (trace ++ events) (state.move thread point) where
  held result held := (settled.held result held).append events
  returned result member := by
    rw [results, observe_append, List.mem_append] at member
    rcases member with before | now
    · exact settled.returned result before
    · exact returned result now
  picking other choose here := by
    rcases State.move_points here with moved | stays
    · exact picking choose moved
    · obtain ⟨envVar, read, same⟩ := settled.picking other choose stays
      exact ⟨envVar, mem_observe_append _ read events, same⟩
  storing other result here := by
    rcases State.move_points here with moved | stays
    · exact storing result moved
    · exact (settled.storing other result stays).append events

omit [DecidableEq Θ] in
private theorem Settled.stores {thread : Θ} {result : Except Failure F}
    (settled : Settled panicMultiple compats trace state)
    (point : state.points thread = .storing result) :
    Picked panicMultiple compats trace (state.found.getOrInit result).1 := by
  cases held : state.found.get with
  | some kept =>
      rw [OnceLock.getOrInit_of_get held]
      exact settled.held kept held
  | none =>
      rw [OnceLock.getOrInit_of_empty held]
      exact settled.storing thread result point

private theorem step_settled (settled : Settled panicMultiple compats trace state)
    (transition : Transition panicMultiple compats state action next events) :
    Settled panicMultiple compats (trace ++ events) next := by
  cases transition with
  | calls thread point => exact settled.move nofun nofun nofun
  | finds thread result point held =>
      apply settled.move
      · intro returned member
        rw [List.mem_singleton.mp member]
        exact held
      · nofun
      · nofun
  | misses thread point empty => exact settled.move nofun nofun nofun
  | reads thread point =>
      apply settled.move
      · nofun
      · rintro choose ⟨⟩
        exact ⟨state.envVar, by simp, rfl⟩
      · nofun
  | picks thread choose point =>
      apply settled.move
      · nofun
      · nofun
      · rintro result ⟨⟩
        obtain ⟨envVar, read, same⟩ := settled.picking thread choose point
        exact ⟨envVar, mem_observe_append _ read [], by rw [same]⟩
  | stores thread result point =>
      have holds := state.found.get_getOrInit result
      -- What an earlier call has returned is what `FOUND` still holds.
      have kept (earlier : Except Failure F) (held : state.found.get = some earlier) :
          (state.found.getOrInit result).2.get = some earlier := by
        rw [OnceLock.getOrInit_of_get held, held]
      have moved : Settled panicMultiple compats (trace ++ []) (state.move thread .idle) :=
        settled.move nofun nofun nofun
      rw [List.append_nil] at moved
      constructor
      · intro stored held
        rw [holds, Option.some.injEq] at held
        rw [← held]
        exact (settled.stores point).append _
      · intro returned member
        rw [results, observe_append, List.mem_append] at member
        rcases member with before | now
        · exact kept returned (settled.returned returned before)
        · rw [List.mem_singleton.mp now]
          exact holds
      · intro other choose here
        obtain ⟨envVar, read, same⟩ := moved.picking other choose here
        exact ⟨envVar, mem_observe_append _ read _, same⟩
      · intro other stored here
        exact (moved.storing other stored here).append _
  | varChanges envVar =>
      rw [List.append_nil]
      exact ⟨settled.held, settled.returned, settled.picking, settled.storing⟩

variable {guard : Guard (State Θ F) (Action Θ) (Event Θ F)}
  {config : Config (State Θ F) (Event Θ F)} {envVar : EnvVar}

theorem settled_of_reaches
    (run : (machine panicMultiple compats).Reaches guard (.initial (.new envVar)) config) :
    Settled panicMultiple compats config.trace config.state := by
  apply run.invariant (fun config => Settled panicMultiple compats config.trace config.state)
  · exact ⟨nofun, nofun, nofun, nofun⟩
  · intro before action next events _reached settled _allowed stepped
    exact step_settled settled (transition_of_step stepped)

/-- All calls that return give one result, which `pick_global` gave for a value
of the variable that some call has read. -/
theorem threads_share_one_global
    (run : (machine panicMultiple compats).Reaches guard (.initial (.new envVar)) config) :
    (∀ first ∈ results config.trace, ∀ second ∈ results config.trace, first = second) ∧
      ∀ result ∈ results config.trace, Picked panicMultiple compats config.trace result := by
  have settled := settled_of_reaches run
  constructor
  · intro first firstIn second secondIn
    have held := settled.returned first firstIn
    rw [settled.returned second secondIn, Option.some.injEq] at held
    exact held.symm
  · intro result member
    exact settled.held result (settled.returned result member)

/-- Two threads pick different globals before either is stored; a third comes late. -/
def raced : List (Action Nat) :=
  [.call 0, .get 0, .call 1, .get 1, .readVar 0, .setVar (.ok "smol"), .readVar 1, .pick 1,
    .pick 0, .getOrInit 1, .setVar (.error .notPresent), .getOrInit 0, .call 2, .get 2]

def twoGlobals : List (Compat Nat Nat) := [.namedGlobal "smol" 1, .namedGlobal "tokio" 2]

theorem threads_share_one_global_raced :
    ∃ config, (machine false twoGlobals).exec .any
        (.initial (State.new (.ok "tokio") : State Nat Nat)) raced = some config ∧
      results config.trace = [.ok 1, .ok 1, .ok 1] ∧
      ((∀ first ∈ results config.trace, ∀ second ∈ results config.trace, first = second) ∧
        ∀ result ∈ results config.trace, Picked false twoGlobals config.trace result) := by
  obtain ⟨config, executed, shared⟩ :
      ∃ config, (machine false twoGlobals).exec .any
          (.initial (State.new (.ok "tokio") : State Nat Nat)) raced = some config ∧
        results config.trace = [.ok 1, .ok 1, .ok 1] := ⟨_, rfl, rfl⟩
  exact ⟨config, executed, shared, threads_share_one_global (reaches_of_exec raced executed)⟩

/-! ### A call without interference -/

def only (thread : Θ) : Guard (State Θ F) (Action Θ) (Event Θ F) :=
  fun _ action => action.thread? = some thread

private theorem State.move_move (state : State Θ F) (thread : Θ) (first second : Point F) :
    (state.move thread first).move thread second = state.move thread second := by
  simp [State.move]

private theorem State.move_same {thread : Θ} {point : Point F}
    (here : state.points thread = point) :
    state.move thread point = state := by
  rw [State.move, ← here, Function.update_eq_self]

private theorem reaches_own {thread : Θ} {start : Config (State Θ F) (Event Θ F)}
    (run : (machine panicMultiple compats).Reaches (only thread) start config)
    (stepped : (machine panicMultiple compats).step config.state action = some (next, events))
    (own : action.thread? = some thread) :
    (machine panicMultiple compats).Reaches (only thread) start ⟨config.trace ++ events, next⟩ :=
  run.tail (.mk own stepped)

/-- A call that runs alone returns what `findGlobal` gives, and leaves `FOUND` as it does. -/
theorem call_alone {thread : Θ} (idle : config.state.points thread = .idle) :
    ∃ final, (machine panicMultiple compats).Reaches (only thread) config final ∧
      results final.trace = results config.trace ++
        [(findGlobal panicMultiple compats config.state.found config.state.envVar).1] ∧
      final.state = { config.state with
        found := (findGlobal panicMultiple compats config.state.found config.state.envVar).2 } := by
  have calls : (machine panicMultiple compats).step config.state (.call thread) =
      some (config.state.move thread .getting, []) := by
    simp [machine, call, idle]
  have called := reaches_own .refl calls rfl
  cases held : config.state.found.get with
  | some result =>
      have finds : (machine panicMultiple compats).step (config.state.move thread .getting)
          (.get thread) = some (config.state, [.returned thread result]) := by
        simp [machine, get, State.points_move, held, State.move_move, State.move_same idle]
      refine ⟨_, reaches_own called finds rfl, ?_, ?_⟩
      · simp [findGlobal, held]
      · simp [findGlobal, held]
  | none =>
      have misses : (machine panicMultiple compats).step (config.state.move thread .getting)
          (.get thread) = some (config.state.move thread .reading, []) := by
        simp [machine, get, State.points_move, held, State.move_move]
      have reads : (machine panicMultiple compats).step (config.state.move thread .reading)
          (.readVar thread) = some (config.state.move thread
            (.picking config.state.envVar.toOption), [.varRead thread config.state.envVar]) := by
        simp [machine, readVar, State.points_move, State.move_move]
      have picks : (machine panicMultiple compats).step
          (config.state.move thread (.picking config.state.envVar.toOption)) (.pick thread) =
          some (config.state.move thread (.storing (pickGlobal panicMultiple compats
            config.state.envVar.toOption)), []) := by
        simp [machine, pick, State.points_move, State.move_move]
      have stores : (machine panicMultiple compats).step
          (config.state.move thread (.storing (pickGlobal panicMultiple compats
            config.state.envVar.toOption))) (.getOrInit thread) =
          some ({ config.state with
            found := ⟨some (pickGlobal panicMultiple compats config.state.envVar.toOption)⟩ },
            [.returned thread (pickGlobal panicMultiple compats
              config.state.envVar.toOption)]) := by
        simp [machine, getOrInit, State.points_move, idle, OnceLock.getOrInit_of_empty held]
      have picked := reaches_own (reaches_own (reaches_own called misses rfl) reads rfl) picks rfl
      refine ⟨_, reaches_own picked stores rfl, ?_, ?_⟩
      · simp [findGlobal, held, OnceLock.getOrInit_of_empty held]
      · simp [findGlobal, held, OnceLock.getOrInit_of_empty held]

end Steps

end FindGlobal

end Spawns
