/-
Spawn calls on one thread, and all the code that runs before they return.

User code runs in every frame: a spawner or compat function, a task it polls
inline, a detector, a destructor. It may enter scopes and exit them in order,
spawn, panic and catch panics; a destructor may do so while a panic unwinds.
The `SPAWNER` cell stays borrowed until a spawn call returns or unwinds.
-/

import Spawns.Core.Compat
import Spawns.Core.SpawnScope

namespace Spawns.SpawnCall

open EventMachine

open Machine (reaches_of_exec)

/-- What unwinds: `own` is a panic raised by user code itself, also in a detector or a
destructor. -/
inductive Panic where
  | own
  | noSpawner (failure : Failure)
  | alreadyBorrowed
  | alreadyMutablyBorrowed
  | strayScope
  deriving DecidableEq, Repr

/-- The panics that the documentation of `spawn` names: no spawner is found, or user
code panics. That of `find_spawn`, which finds several globals, is not among them. -/
def Panic.Documented : Panic → Prop
  | .own => True
  | .noSpawner .notFound => True
  | _ => False

/-- Whose code runs in a spawn call: a detector's, that of `Spawn::spawn` or a
compat function, or the destructor of the future when there is no spawner. -/
inductive CallPoint (L F : Type) where
  | detecting (detector : L) (rest : List (Compat L F))
  | running (task : Nat)
  | discarding

/-- `catching` is a `catch_unwind`, `cleanup` a destructor that unwinding runs. -/
inductive Frame (S L F : Type) where
  | scope (scope : SpawnScope S)
  | call (point : CallPoint L F)
  | catching
  | cleanup (panic : Panic)

inductive Mode where
  | running
  | unwinding (panic : Panic)
  | aborted
  deriving DecidableEq, Repr

structure State (S L F : Type) where
  cell : RefCell (Option S)
  frames : List (Frame S L F)
  mode : Mode
  created : Nat

/-- `inside` a spawn call of the thread or not. -/
inductive Event where
  | entering (inside : Bool) (succeeded : Bool)
  | exiting (inside : Bool) (succeeded : Bool)
  | searchPanicked
  | handedOver (task : Nat)
  | spawnReturned (task : Nat)
  | spawnPanicked (panic : Panic)
  | aborted
  deriving DecidableEq, Repr

/-- `findGlobal` is what `find_global` answers if it is asked. -/
inductive Action (S F : Type) where
  | enter (spawner : S)
  | exit
  | spawn (findGlobal : Except Failure F)
  | detected (answer : Option F) (findGlobal : Except Failure F)
  | spawned
  | discarded
  | raise
  | catchUnwind
  | caught
  | unwind
  | cleanup
  | resume

variable {S L F : Type}

def State.new (start : Option S) : State S L F :=
  { cell := .new start
    frames := []
    mode := .running
    created := 0 }

def Frame.isCall : Frame S L F → Bool
  | .call _ => true
  | _ => false

def inside (frames : List (Frame S L F)) : Bool := frames.any Frame.isCall

/-- `let _scope = enter(spawner)` -/
def enter (state : State S L F) (spawner : S) : State S L F × List Event :=
  match Spawns.enter state.cell spawner with
  | some (scope, cell) =>
      ({ state with cell := cell, frames := .scope scope :: state.frames },
        [.entering (inside state.frames) true])
  | none =>
      ({ state with mode := .unwinding .alreadyBorrowed },
        [.entering (inside state.frames) false])

/-- The innermost frame is a scope, which is dropped. -/
def exit [DecidableEq S] (state : State S L F) : Option (State S L F × List Event) :=
  match state.frames with
  | .scope scope :: rest =>
      match scope.drop state.cell with
      | (.dropped, cell) =>
          some ({ state with cell := cell, frames := rest }, [.exiting (inside rest) true])
      | (.alreadyBorrowed, cell) =>
          some ({ state with
            cell := cell
            frames := rest
            mode := .unwinding .alreadyBorrowed }, [.exiting (inside rest) false])
      | (_, cell) =>
          some ({ state with
            cell := cell
            frames := rest
            mode := .unwinding .strayScope }, [.exiting (inside rest) false])
  | _ => none

/-- `let (task, handle) = Task::new(name, f)`, then the task is handed over. -/
def handOver (state : State S L F) : State S L F × List Event :=
  ({ state with
    frames := .call (.running state.created) :: state.frames
    created := state.created + 1 }, [.handedOver state.created])

/-- No spawner was found: `f` is dropped inside the borrow, by unwinding if
`find_spawn` has panicked. -/
def discard (state : State S L F) : Failure → State S L F × List Event
  | .notFound => ({ state with frames := .call .discarding :: state.frames }, [])
  | .multipleGlobals =>
      ({ state with
        frames := .call .discarding :: state.frames
        mode := .unwinding (.noSpawner .multipleGlobals) }, [.searchPanicked])

def search (state : State S L F) : Search L F → State S L F × List Event
  | .detect detector rest =>
      ({ state with frames := .call (.detecting detector rest) :: state.frames }, [])
  | .settled (.ok _) => handOver state
  | .settled (.error failure) => discard state failure

/-- `spawn_with_name`; `compats` is `none` without feature `compat`. -/
def spawn (compats : Option (List (Compat L F))) (state : State S L F)
    (findGlobal : Except Failure F) : State S L F × List Event :=
  match state.cell.borrow with
  | none =>
      ({ state with mode := .unwinding .alreadyMutablyBorrowed },
        [.spawnPanicked .alreadyMutablyBorrowed])
  | some cell =>
      match cell.value, compats with
      | some _, _ => handOver { state with cell := cell }
      | none, none => discard { state with cell := cell } .notFound
      | none, some items => search { state with cell := cell } (findSpawn items findGlobal)

def detected (compats : Option (List (Compat L F))) (state : State S L F) (answer : Option F)
    (findGlobal : Except Failure F) : Option (State S L F × List Event) :=
  match state.frames, compats with
  | .call (.detecting _ rest) :: outer, some items =>
      some (search { state with frames := outer } (findSpawnAfter items rest findGlobal answer))
  | _, _ => none

/-- `Spawn::spawn` or the compat function returns, and the call with it. -/
def spawned (state : State S L F) : Option (State S L F × List Event) :=
  match state.frames with
  | .call (.running task) :: rest =>
      some ({ state with cell := state.cell.release, frames := rest }, [.spawnReturned task])
  | _ => none

/-- The destructor of `f` returns, then `.expect("no spawner")`. -/
def discarded (state : State S L F) : Option (State S L F × List Event) :=
  match state.frames with
  | .call .discarding :: rest =>
      some ({ state with
        cell := state.cell.release
        frames := rest
        mode := .unwinding (.noSpawner .notFound) }, [.spawnPanicked (.noSpawner .notFound)])
  | _ => none

/-- The closure given to `catch_unwind` returns. -/
def caught (state : State S L F) : Option (State S L F × List Event) :=
  match state.frames with
  | .catching :: rest => some ({ state with frames := rest }, [])
  | _ => none

def resume (state : State S L F) : Option (State S L F × List Event) :=
  match state.frames with
  | .cleanup panic :: rest =>
      some ({ state with frames := rest, mode := .unwinding panic }, [])
  | _ => none

/-- A panic leaves the innermost frame; a second one on top of it aborts. -/
def unwind [DecidableEq S] (state : State S L F) (panic : Panic) :
    Option (State S L F × List Event) :=
  match state.frames with
  | [] => none
  | .scope scope :: rest =>
      match scope.drop state.cell with
      | (.dropped, cell) =>
          some ({ state with cell := cell, frames := rest }, [.exiting (inside rest) true])
      | (_, cell) =>
          some ({ state with cell := cell, frames := rest, mode := .aborted },
            [.exiting (inside rest) false, .aborted])
  | .call _ :: rest =>
      some ({ state with cell := state.cell.release, frames := rest }, [.spawnPanicked panic])
  | .catching :: rest => some ({ state with frames := rest, mode := .running }, [])
  | .cleanup _ :: rest => some ({ state with frames := rest, mode := .aborted }, [.aborted])

def machine [DecidableEq S] (compats : Option (List (Compat L F))) :
    Machine (State S L F) (Action S F) Event where
  step state action :=
    match state.mode, action with
    | .running, .enter spawner => some (enter state spawner)
    | .running, .exit => exit state
    | .running, .spawn findGlobal => some (spawn compats state findGlobal)
    | .running, .detected answer findGlobal => detected compats state answer findGlobal
    | .running, .spawned => spawned state
    | .running, .discarded => discarded state
    | .running, .raise => some ({ state with mode := .unwinding .own }, [])
    | .running, .catchUnwind => some ({ state with frames := .catching :: state.frames }, [])
    | .running, .caught => caught state
    | .running, .resume => resume state
    | .unwinding panic, .cleanup =>
        some ({ state with frames := .cleanup panic :: state.frames, mode := .running }, [])
    | .unwinding panic, .unwind => unwind state panic
    | _, _ => none

/-! ### Observables of a trace -/

@[simp] def Event.entry? : Event → Option (Bool × Bool)
  | .entering inside succeeded => some (inside, succeeded)
  | _ => none

@[simp] def Event.exit? : Event → Option Bool
  | .exiting _ succeeded => some succeeded
  | _ => none

@[simp] def Event.handedOver? : Event → Option Nat
  | .handedOver task => some task
  | _ => none

@[simp] def Event.returned? : Event → Option Nat
  | .spawnReturned task => some task
  | _ => none

@[simp] def Event.panic? : Event → Option Panic
  | .searchPanicked => some (.noSpawner .multipleGlobals)
  | .spawnPanicked panic => some panic
  | _ => none

/-- The calls of `enter`: whether a spawn call was in progress, and whether it succeeded. -/
abbrev entries (trace : List Event) : List (Bool × Bool) := observe Event.entry? trace

abbrev exits (trace : List Event) : List Bool := observe Event.exit? trace

abbrev handedOver (trace : List Event) : List Nat := observe Event.handedOver? trace

abbrev returned (trace : List Event) : List Nat := observe Event.returned? trace

/-- What spawn calls have panicked with, where `find_spawn` does and where it leaves
the call. -/
abbrev spawnPanics (trace : List Event) : List Panic := observe Event.panic? trace

/-! ### The borrow, the scopes and the frames -/

def calls (frames : List (Frame S L F)) : Nat := frames.countP Frame.isCall

def Frame.scope? : Frame S L F → Option (SpawnScope S)
  | .scope opened => some opened
  | _ => none

def scopes (frames : List (Frame S L F)) : List (SpawnScope S) := frames.filterMap Frame.scope?

def ScopesOutside : List (Frame S L F) → Prop
  | [] => True
  | .scope _ :: rest => calls rest = 0 ∧ ScopesOutside rest
  | .call _ :: rest => ScopesOutside rest
  | .catching :: rest => ScopesOutside rest
  | .cleanup _ :: rest => ScopesOutside rest

@[simp] theorem calls_scope (scope : SpawnScope S) (rest : List (Frame S L F)) :
    calls (.scope scope :: rest) = calls rest := rfl

@[simp] theorem calls_call (point : CallPoint L F) (rest : List (Frame S L F)) :
    calls (.call point :: rest) = calls rest + 1 := List.countP_cons_of_pos rfl

@[simp] theorem scopes_scope (scope : SpawnScope S) (rest : List (Frame S L F)) :
    scopes (.scope scope :: rest) = scope :: scopes rest := rfl

theorem inside_iff {frames : List (Frame S L F)} : inside frames = true ↔ 0 < calls frames := by
  rw [inside, calls, List.any_eq_true, List.countP_pos_iff]

theorem outside_iff {frames : List (Frame S L F)} : inside frames = false ↔ calls frames = 0 := by
  rw [← Bool.not_eq_true, inside_iff]
  omega

/-- The borrow counts the calls in progress, and the open scopes lead back to
the spawner before the run. -/
structure Sound (start : Option S) (state : State S L F) : Prop where
  borrowed : state.cell.flag = calls state.frames
  chained : Chained start (scopes state.frames) state.cell.value
  outside : ScopesOutside state.frames

inductive Goes (created : Nat) : CallPoint L F → Mode → Nat → List Event → Prop where
  | detects (detector : L) (rest : List (Compat L F)) :
      Goes created (.detecting detector rest) .running created []
  | hands : Goes created (.running created) .running (created + 1) [.handedOver created]
  | discards : Goes created .discarding .running created []
  | panics : Goes created .discarding (.unwinding (.noSpawner .multipleGlobals)) created
      [.searchPanicked]

inductive Transition (state : State S L F) : State S L F → List Event → Prop where
  | enters (spawner : S) (running : state.mode = .running) (free : calls state.frames = 0) :
      Transition state { state with
        cell := .new (some spawner)
        frames := .scope ⟨spawner, state.cell.value⟩ :: state.frames } [.entering false true]
  | refuses (running : state.mode = .running) (busy : 0 < calls state.frames) :
      Transition state { state with mode := .unwinding .alreadyBorrowed } [.entering true false]
  | exits (scope : SpawnScope S) (rest : List (Frame S L F))
      (frames : state.frames = .scope scope :: rest) :
      Transition state { state with cell := .new scope.previous, frames := rest }
        [.exiting false true]
  | searches (outer : List (Frame S L F)) (cell : RefCell (Option S)) (point : CallPoint L F)
      (mode : Mode) (created : Nat) (events : List Event) (running : state.mode = .running)
      (from_ : state.frames = outer ∨
        ∃ detector rest, state.frames = .call (.detecting detector rest) :: outer)
      (sameValue : cell.value = state.cell.value) (borrowed : cell.flag = calls outer + 1)
      (goes : Goes state.created point mode created events) :
      Transition state ⟨cell, .call point :: outer, mode, created⟩ events
  | returns (task : Nat) (rest : List (Frame S L F)) (running : state.mode = .running)
      (frames : state.frames = .call (.running task) :: rest) :
      Transition state { state with cell := state.cell.release, frames := rest }
        [.spawnReturned task]
  | misses (rest : List (Frame S L F)) (running : state.mode = .running)
      (frames : state.frames = .call .discarding :: rest) :
      Transition state { state with
        cell := state.cell.release
        frames := rest
        mode := .unwinding (.noSpawner .notFound) } [.spawnPanicked (.noSpawner .notFound)]
  | raises (running : state.mode = .running) :
      Transition state { state with mode := .unwinding .own } []
  | catches (running : state.mode = .running) :
      Transition state { state with frames := .catching :: state.frames } []
  | passes (rest : List (Frame S L F)) (running : state.mode = .running)
      (frames : state.frames = .catching :: rest) :
      Transition state { state with frames := rest } []
  | cleans (panic : Panic) (unwinding : state.mode = .unwinding panic) :
      Transition state { state with
        frames := .cleanup panic :: state.frames
        mode := .running } []
  | resumes (panic : Panic) (rest : List (Frame S L F)) (running : state.mode = .running)
      (frames : state.frames = .cleanup panic :: rest) :
      Transition state { state with frames := rest, mode := .unwinding panic } []
  | leaves (panic : Panic) (point : CallPoint L F) (rest : List (Frame S L F))
      (unwinding : state.mode = .unwinding panic) (frames : state.frames = .call point :: rest) :
      Transition state { state with cell := state.cell.release, frames := rest }
        [.spawnPanicked panic]
  | stops (rest : List (Frame S L F)) (frames : state.frames = .catching :: rest) :
      Transition state { state with frames := rest, mode := .running } []
  | aborts (panic : Panic) (rest : List (Frame S L F))
      (frames : state.frames = .cleanup panic :: rest) :
      Transition state { state with frames := rest, mode := .aborted } [.aborted]

variable {start : Option S} {state next : State S L F} {events : List Event}
  {compats : Option (List (Compat L F))}

private theorem Sound.enter_transition (sound : Sound start state) (running : state.mode = .running)
    (spawner : S) : Transition state (enter state spawner).1 (enter state spawner).2 := by
  cases within : inside state.frames with
  | false =>
      have free := outside_iff.mp within
      have unborrowed : state.cell.flag = 0 := by
        rw [sound.borrowed, free]
        rfl
      simp only [enter, enter_free unborrowed, within]
      exact .enters spawner running free
  | true =>
      have busy := inside_iff.mp within
      have borrowed : state.cell.flag ≠ 0 := by
        rw [sound.borrowed]
        omega
      simp only [enter, enter_busy borrowed, within]
      exact .refuses running busy

private theorem Transition.of_some {result : State S L F × List Event}
    (transition : Transition state result.1 result.2) (same : some result = some (next, events)) :
    Transition state next events := by
  rw [Option.some.injEq] at same
  rw [same] at transition
  exact transition

private theorem search_transition {outer : List (Frame S L F)} {cell : RefCell (Option S)}
    (running : state.mode = .running)
    (from_ : state.frames = outer ∨
      ∃ detector rest, state.frames = .call (.detecting detector rest) :: outer)
    (sameValue : cell.value = state.cell.value) (borrowed : cell.flag = calls outer + 1)
    (found : Search L F) :
    Transition state (search ⟨cell, outer, .running, state.created⟩ found).1
      (search ⟨cell, outer, .running, state.created⟩ found).2 := by
  have leads (point : CallPoint L F) (mode : Mode) (created : Nat) (events : List Event)
      (goes : Goes state.created point mode created events) :=
    Transition.searches outer cell point mode created events running from_ sameValue borrowed goes
  cases found with
  | detect detector rest => exact leads _ _ _ _ (.detects detector rest)
  | settled result =>
      cases result with
      | ok spawner => exact leads _ _ _ _ .hands
      | error failure =>
          cases failure with
          | notFound => exact leads _ _ _ _ .discards
          | multipleGlobals => exact leads _ _ _ _ .panics

private theorem Sound.spawn_transition (sound : Sound start state) (running : state.mode = .running)
    (findGlobal : Except Failure F) :
    Transition state (spawn compats state findGlobal).1 (spawn compats state findGlobal).2 := by
  have shared : 0 ≤ state.cell.flag := by
    rw [sound.borrowed]
    omega
  have borrowed : state.cell.flag + 1 = calls state.frames + 1 := by rw [sound.borrowed]
  obtain ⟨cell, frames, mode, created⟩ := state
  cases running
  have leads (point : CallPoint L F) (mode : Mode) (later : Nat) (events : List Event)
      (goes : Goes created point mode later events) :
      Transition ⟨cell, frames, .running, created⟩
        ⟨⟨cell.value, cell.flag + 1⟩, .call point :: frames, mode, later⟩ events :=
    .searches frames _ point mode later events rfl (.inl rfl) rfl borrowed goes
  have searched (found : Search L F) : Transition ⟨cell, frames, .running, created⟩
      (search ⟨⟨cell.value, cell.flag + 1⟩, frames, .running, created⟩ found).1
      (search ⟨⟨cell.value, cell.flag + 1⟩, frames, .running, created⟩ found).2 := by
    apply search_transition
    · rfl
    · exact .inl rfl
    · rfl
    · exact borrowed
  simp only [spawn, RefCell.borrow_shared shared]
  split
  · exact leads _ _ _ _ .hands
  · exact leads _ _ _ _ .discards
  · exact searched _

private theorem Sound.detected_transition (sound : Sound start state)
    (running : state.mode = .running)
    {answer : Option F} {findGlobal : Except Failure F}
    (stepped : detected compats state answer findGlobal = some (next, events)) :
    Transition state next events := by
  have borrowed := sound.borrowed
  obtain ⟨cell, frames, mode, created⟩ := state
  cases running
  simp only [detected] at stepped
  split at stepped
  · rename_i detector rest outer items
    refine Transition.of_some (search_transition rfl (.inr ⟨detector, rest, rfl⟩) rfl ?_ _) stepped
    change cell.flag = calls (.call (.detecting detector rest) :: outer) at borrowed
    rw [borrowed, calls_call]
    rfl
  · cases stepped

section

variable [DecidableEq S]

theorem Sound.drop_scope {scope : SpawnScope S} {rest : List (Frame S L F)}
    (sound : Sound start state) (frames : state.frames = .scope scope :: rest) :
    scope.drop state.cell = (.dropped, .new scope.previous) ∧ inside rest = false := by
  have outside := sound.outside
  have chained := sound.chained
  have borrowed := sound.borrowed
  rw [frames] at outside borrowed
  rw [frames, scopes_scope] at chained
  have unborrowed : state.cell.flag = 0 := by
    rw [borrowed, calls_scope, outside.1]
    rfl
  obtain ⟨cell, dropped⟩ := scope.drop_free unborrowed
  constructor
  · exact Prod.ext (dropped.mpr chained.1) cell
  · exact outside_iff.mpr outside.1

private theorem Sound.exit_transition (sound : Sound start state)
    (stepped : exit state = some (next, events)) : Transition state next events := by
  unfold exit at stepped
  split at stepped
  · rename_i scope rest frames
    obtain ⟨dropped, outside⟩ := sound.drop_scope frames
    rw [dropped, outside] at stepped
    cases stepped
    exact .exits scope rest frames
  · cases stepped

private theorem Sound.unwind_transition {panic : Panic} (sound : Sound start state)
    (unwinding : state.mode = .unwinding panic)
    (stepped : unwind state panic = some (next, events)) : Transition state next events := by
  unfold unwind at stepped
  split at stepped
  · cases stepped
  · rename_i scope rest frames
    obtain ⟨dropped, outside⟩ := sound.drop_scope frames
    rw [dropped, outside] at stepped
    cases stepped
    exact .exits scope rest frames
  · rename_i point rest frames
    cases stepped
    exact .leaves panic point rest unwinding frames
  · rename_i rest frames
    cases stepped
    exact .stops rest frames
  · rename_i other rest frames
    cases stepped
    exact .aborts other rest frames

theorem Sound.transition {action : Action S F} (sound : Sound start state)
    (stepped : (machine compats).step state action = some (next, events)) :
    Transition state next events := by
  simp only [machine] at stepped
  split at stepped
  · rename_i running
    exact (sound.enter_transition running _).of_some stepped
  · exact sound.exit_transition stepped
  · rename_i running
    exact (sound.spawn_transition running _).of_some stepped
  · rename_i running
    exact sound.detected_transition running stepped
  · rename_i running
    unfold spawned at stepped
    split at stepped <;> cases stepped
    exact .returns _ _ running ‹_›
  · rename_i running
    unfold discarded at stepped
    split at stepped <;> cases stepped
    exact .misses _ running ‹_›
  · rename_i running
    cases stepped
    exact .raises running
  · rename_i running
    cases stepped
    exact .catches running
  · rename_i running
    unfold caught at stepped
    split at stepped <;> cases stepped
    exact .passes _ running ‹_›
  · rename_i running
    unfold resume at stepped
    split at stepped <;> cases stepped
    exact .resumes _ _ running ‹_›
  · rename_i panic unwinding
    cases stepped
    exact .cleans panic unwinding
  · rename_i panic unwinding
    exact sound.unwind_transition unwinding stepped
  · cases stepped

end

/-! ### Invariants of every run -/

theorem step_sound (sound : Sound start state) (transition : Transition state next events) :
    Sound start next := by
  obtain ⟨borrowed, chained, outside⟩ := sound
  have released {point : CallPoint L F} {rest : List (Frame S L F)}
      (frames : state.frames = .call point :: rest) :
      state.cell.release.flag = calls rest ∧ Chained start (scopes rest) state.cell.value ∧
        ScopesOutside rest := by
    rw [frames] at borrowed chained outside
    refine ⟨?_, chained, outside⟩
    rw [RefCell.release_flag, borrowed, calls_call]
    omega
  cases transition with
  | enters spawner running free =>
      constructor
      · simp [RefCell.new, free]
      · exact ⟨rfl, chained⟩
      · exact ⟨free, outside⟩
  | refuses | raises => exact ⟨borrowed, chained, outside⟩
  | exits scope rest frames =>
      rw [frames] at chained outside
      constructor
      · simp [RefCell.new, outside.1]
      · exact chained.2
      · exact outside.2
  | searches outer cell point mode created events running from_ sameValue grown goes =>
      rcases from_ with same | ⟨detector, rest, frames⟩
      · rw [same] at chained outside
        exact ⟨by rw [calls_call]; exact grown, by rw [sameValue]; exact chained, outside⟩
      · rw [frames] at chained outside
        exact ⟨by rw [calls_call]; exact grown, by rw [sameValue]; exact chained, outside⟩
  | returns task rest running frames =>
      obtain ⟨fewer, chained, outside⟩ := released frames
      exact ⟨fewer, chained, outside⟩
  | misses rest running frames =>
      obtain ⟨fewer, chained, outside⟩ := released frames
      exact ⟨fewer, chained, outside⟩
  | leaves panic point rest unwinding frames =>
      obtain ⟨fewer, chained, outside⟩ := released frames
      exact ⟨fewer, chained, outside⟩
  | catches => exact ⟨borrowed, chained, outside⟩
  | cleans => exact ⟨borrowed, chained, outside⟩
  | passes rest running frames =>
      rw [frames] at borrowed chained outside
      exact ⟨borrowed, chained, outside⟩
  | resumes panic rest running frames =>
      rw [frames] at borrowed chained outside
      exact ⟨borrowed, chained, outside⟩
  | stops rest frames =>
      rw [frames] at borrowed chained outside
      exact ⟨borrowed, chained, outside⟩
  | aborts panic rest frames =>
      rw [frames] at borrowed chained outside
      exact ⟨borrowed, chained, outside⟩

/-- An `enter` succeeds exactly outside of spawn calls, and every exit succeeds. -/
structure Answered (trace : List Event) : Prop where
  entries : ∀ entry ∈ entries trace, entry.2 = !entry.1
  exits : ∀ succeeded ∈ exits trace, succeeded = true

private theorem step_answered {trace : List Event} (answered : Answered trace)
    (transition : Transition state next events) : Answered (trace ++ events) := by
  have now : Answered events := by
    cases transition with
    | searches _ _ _ _ _ _ _ _ _ _ goes => cases goes <;> constructor <;> simp
    | enters | refuses | exits | returns | misses | raises | catches | passes | cleans | resumes
    | leaves | stops | aborts => constructor <;> simp
  constructor
  · intro entry member
    simp only [observe_append, List.mem_append] at member
    exact member.elim (answered.entries entry) (now.entries entry)
  · intro succeeded member
    simp only [observe_append, List.mem_append] at member
    exact member.elim (answered.exits succeeded) (now.exits succeeded)

/-- Every panic on its way, or held back by a destructor, is documented. -/
structure Orderly (trace : List Event) (state : State S L F) : Prop where
  left : ∀ panic ∈ spawnPanics trace, panic.Documented
  unwinding : ∀ panic, state.mode = .unwinding panic → panic.Documented
  held : ∀ panic, .cleanup panic ∈ state.frames → panic.Documented

def EntersOutside (trace : List Event) : Prop := ∀ entry ∈ entries trace, entry.1 = false

/-- No search of a spawn call ends in `multipleGlobals`. -/
def SearchesReturn (trace : List Event) : Prop := .searchPanicked ∉ trace

private theorem step_orderly {trace : List Event} (orderly : Orderly trace state)
    (transition : Transition state next events) (calm : EntersOutside events)
    (searched : SearchesReturn events) :
    Orderly (trace ++ events) next := by
  obtain ⟨left, unwinding, held⟩ := orderly
  have leftNow (now : ∀ panic ∈ spawnPanics events, panic.Documented) :
      ∀ panic ∈ spawnPanics (trace ++ events), panic.Documented := by
    intro panic member
    simp only [observe_append, List.mem_append] at member
    exact member.elim (left panic) (now panic)
  have fewer {frame : Frame S L F} {rest : List (Frame S L F)}
      (frames : state.frames = frame :: rest) :
      ∀ panic, .cleanup panic ∈ rest → panic.Documented := by
    intro panic member
    exact held panic (by rw [frames]; exact List.mem_cons_of_mem _ member)
  cases transition with
  | enters spawner running free =>
      exact ⟨leftNow (by simp), unwinding, fun panic member => held panic (by simpa using member)⟩
  | refuses => exact absurd (calm (true, false) (by simp)) (by simp)
  | exits scope rest frames => exact ⟨leftNow (by simp), unwinding, fewer frames⟩
  | searches outer cell point mode created events running from_ sameValue grown goes =>
      have outerHeld : ∀ panic, .cleanup panic ∈ outer → panic.Documented := by
        rcases from_ with same | ⟨detector, rest, frames⟩
        · exact same ▸ held
        · exact fewer frames
      cases goes with
      | panics => exact absurd List.mem_cons_self searched
      | detects | hands | discards =>
          constructor
          · exact leftNow (by simp)
          · exact fun _ => nofun
          · intro panic member
            exact outerHeld panic (by simpa using member)
  | returns task rest running frames => exact ⟨leftNow (by simp), unwinding, fewer frames⟩
  | misses rest running frames =>
      constructor
      · apply leftNow
        intro panic member
        simp only [observe_cons, observe_nil, Event.panic?, Option.toList_some, List.append_nil,
          List.mem_singleton] at member
        rw [member]
        trivial
      · intro panic same
        cases same
        trivial
      · exact fewer frames
  | raises =>
      constructor
      · exact leftNow (by simp)
      · intro panic same
        cases same
        trivial
      · exact held
  | catches =>
      exact ⟨leftNow (by simp), unwinding, fun panic member => held panic (by simpa using member)⟩
  | passes rest running frames => exact ⟨leftNow (by simp), unwinding, fewer frames⟩
  | cleans panic unwound =>
      constructor
      · exact leftNow (by simp)
      · exact fun _ => nofun
      · intro other member
        rcases List.mem_cons.mp member with same | inside
        · cases same
          exact unwinding panic unwound
        · exact held other inside
  | resumes panic rest running frames =>
      constructor
      · exact leftNow (by simp)
      · intro other same
        cases same
        exact held panic (by rw [frames]; exact List.mem_cons_self)
      · exact fewer frames
  | leaves panic point rest unwound frames =>
      constructor
      · apply leftNow
        intro other member
        simp only [observe_cons, observe_nil, Event.panic?, Option.toList_some, List.append_nil,
          List.mem_singleton] at member
        rw [member]
        exact unwinding panic unwound
      · exact unwinding
      · exact fewer frames
  | stops rest frames => exact ⟨leftNow (by simp), fun _ => nofun, fewer frames⟩
  | aborts panic rest frames => exact ⟨leftNow (by simp), fun _ => nofun, fewer frames⟩

/-! ### The handles that are returned -/

def Frame.task? : Frame S L F → Option Nat
  | .call (.running task) => some task
  | _ => none

def openTasks (frames : List (Frame S L F)) : List Nat := frames.filterMap Frame.task?

structure Numbered (trace : List Event) (state : State S L F) : Prop where
  handed : handedOver trace = List.range state.created
  distinct : (returned trace ++ openTasks state.frames).Nodup
  made : ∀ task ∈ returned trace ++ openTasks state.frames, task < state.created

@[simp] theorem openTasks_running (task : Nat) (rest : List (Frame S L F)) :
    openTasks (.call (.running task) :: rest) = task :: openTasks rest := rfl

private theorem Numbered.frame {trace : List Event} (numbered : Numbered trace state)
    (unhanded : handedOver events = []) (unreturned : returned events = [])
    (same : next.created = state.created)
    (fewer : (openTasks next.frames).Sublist (openTasks state.frames)) :
    Numbered (trace ++ events) next := by
  have sublist : (returned (trace ++ events) ++ openTasks next.frames).Sublist
      (returned trace ++ openTasks state.frames) := by
    simp only [observe_append, unreturned, List.append_nil]
    exact fewer.append_left _
  constructor
  · simp only [observe_append, unhanded, List.append_nil, numbered.handed, same]
  · exact numbered.distinct.sublist sublist
  · intro task member
    rw [same]
    exact numbered.made task (sublist.subset member)

private theorem step_numbered {trace : List Event} (numbered : Numbered trace state)
    (transition : Transition state next events) : Numbered (trace ++ events) next := by
  have popped {frame : Frame S L F} {rest : List (Frame S L F)}
      (frames : state.frames = frame :: rest) :
      (openTasks rest).Sublist (openTasks state.frames) := by
    rw [frames]
    exact (List.sublist_cons_self frame rest).filterMap _
  cases transition with
  | enters | refuses | raises | catches | cleans =>
      exact numbered.frame rfl rfl rfl (List.Sublist.refl _)
  | exits _ rest frames | misses rest _ frames | passes rest _ frames | resumes _ rest _ frames
  | leaves _ _ rest _ frames | stops rest frames | aborts _ rest frames =>
      exact numbered.frame rfl rfl rfl (popped frames)
  | searches outer cell point mode created events running from_ sameValue grown goes =>
      have fewer : (openTasks outer).Sublist (openTasks state.frames) := by
        rcases from_ with same | ⟨detector, rest, frames⟩
        · rw [same]
        · exact popped frames
      cases goes with
      | detects | discards | panics => exact numbered.frame rfl rfl rfl fewer
      | hands =>
          have sublist := fewer.append_left (returned trace)
          have older : ∀ task ∈ returned trace ++ openTasks outer, task < state.created :=
            fun task member => numbered.made task (sublist.subset member)
          have moved : (returned trace ++ state.created :: openTasks outer).Perm
              (state.created :: (returned trace ++ openTasks outer)) := List.perm_middle
          have same : returned (trace ++ [.handedOver state.created]) = returned trace := by
            simp
          constructor
          · simp [numbered.handed, List.range_succ]
          · rw [same, openTasks_running, moved.nodup_iff, List.nodup_cons]
            constructor
            · intro again
              exact Nat.lt_irrefl _ (older _ again)
            · exact numbered.distinct.sublist sublist
          · intro task member
            rw [same, openTasks_running, moved.mem_iff, List.mem_cons] at member
            rcases member with new | old
            · exact new ▸ Nat.lt_succ_self _
            · exact Nat.lt_succ_of_lt (older task old)
  | returns task rest running frames =>
      have same : returned (trace ++ [.spawnReturned task]) ++ openTasks rest =
          returned trace ++ openTasks state.frames := by
        rw [frames, openTasks_running]
        simp
      constructor
      · simpa using numbered.handed
      · rw [same]
        exact numbered.distinct
      · rw [same]
        exact numbered.made

/-! ### Re-entrant spawning -/

variable [DecidableEq S] {guard : Guard (State S L F) (Action S F) Event}
  {config : Config (State S L F) Event}

theorem sound_of_reaches
    (run : (machine compats).Reaches guard (.initial (.new start)) config) :
    Sound start config.state := by
  apply run.invariant (fun config => Sound start config.state)
  · constructor
    · rfl
    · rfl
    · trivial
  · intro before action next events _reached sound _allowed stepped
    exact step_sound sound (sound.transition stepped)

theorem answered_of_reaches
    (run : (machine compats).Reaches guard (.initial (.new start)) config) :
    Answered config.trace := by
  apply run.invariant (fun config => Answered config.trace)
  · constructor <;> simp [Config.initial]
  · intro before action next events reached answered _allowed stepped
    exact step_answered answered ((sound_of_reaches reached).transition stepped)

theorem numbered_of_reaches
    (run : (machine compats).Reaches guard (.initial (.new start)) config) :
    Numbered config.trace config.state := by
  apply run.invariant (fun config => Numbered config.trace config.state)
  · constructor
    · rfl
    · exact List.nodup_nil
    · exact nofun
  · intro before action next events reached numbered _allowed stepped
    exact step_numbered numbered ((sound_of_reaches reached).transition stepped)

private theorem entersOutside_append {first second : List Event} :
    EntersOutside (first ++ second) ↔ EntersOutside first ∧ EntersOutside second := by
  simp only [EntersOutside, observe_append, List.forall_mem_append]

private theorem searchesReturn_append {first second : List Event} :
    SearchesReturn (first ++ second) ↔ SearchesReturn first ∧ SearchesReturn second := by
  simp only [SearchesReturn, List.mem_append, not_or]

theorem orderly_of_reaches
    (run : (machine compats).Reaches guard (.initial (.new start)) config)
    (calm : EntersOutside config.trace) (searched : SearchesReturn config.trace) :
    Orderly config.trace config.state := by
  refine run.invariant (fun config => EntersOutside config.trace →
    SearchesReturn config.trace → Orderly config.trace config.state) ?_ ?_ calm searched
  · intro _calm _searched
    constructor
    · exact nofun
    · exact fun _ => nofun
    · exact fun _ => nofun
  · intro before action next events reached orderly _allowed stepped calm searched
    obtain ⟨calmBefore, calmNow⟩ := entersOutside_append.mp calm
    obtain ⟨searchedBefore, searchedNow⟩ := searchesReturn_append.mp searched
    exact step_orderly (orderly calmBefore searchedBefore)
      ((sound_of_reaches reached).transition stepped) calmNow searchedNow

private theorem searchesReturn_of_panics {trace : List Event}
    (panics : ∀ panic ∈ spawnPanics trace, panic.Documented) : SearchesReturn trace := by
  intro searched
  exact panics (.noSpawner .multipleGlobals) ((mem_observe _).mpr ⟨_, searched, rfl⟩)

/-- Whatever runs inside spawn calls enters and exits scopes freely, and a call
returns the handle of its own new task or panics as documented. -/
structure Reentrant (compats : Option (List (Compat L F))) (config : Config (State S L F) Event) :
    Prop where
  enters : ∀ entry ∈ entries config.trace, entry.2 = true
  exits : ∀ succeeded ∈ exits config.trace, succeeded = true
  panics : ∀ panic ∈ spawnPanics config.trace, panic.Documented
  handles : (returned config.trace).Nodup ∧
    ∀ task ∈ returned config.trace, task ∈ handedOver config.trace
  returns : ∀ task rest, config.state.mode = .running →
    config.state.frames = .call (.running task) :: rest →
    ∃ next, (machine compats).step config.state .spawned = some (next, [.spawnReturned task])

/-- Spawning is re-entrant exactly as long as no spawn call runs into `enter` and no
search finds several globals and panics. -/
theorem reentrant_iff
    (run : (machine compats).Reaches guard (.initial (.new start)) config) :
    Reentrant compats config ↔ EntersOutside config.trace ∧ SearchesReturn config.trace := by
  have answered := answered_of_reaches run
  constructor
  · intro reentrant
    refine ⟨?_, searchesReturn_of_panics reentrant.panics⟩
    intro entry member
    have succeeded := reentrant.enters entry member
    rw [answered.entries entry member] at succeeded
    simpa using succeeded
  · rintro ⟨calm, searched⟩
    have numbered := numbered_of_reaches run
    constructor
    · intro entry member
      rw [answered.entries entry member, calm entry member]
      rfl
    · exact answered.exits
    · exact (orderly_of_reaches run calm searched).left
    · constructor
      · exact numbered.distinct.sublist (List.sublist_append_left _ _)
      · intro task member
        rw [numbered.handed, List.mem_range]
        exact numbered.made task (List.mem_append_left _ member)
    · intro task rest running frames
      refine ⟨{ config.state with cell := config.state.cell.release, frames := rest }, ?_⟩
      simp only [machine, running, spawned, frames]

/-- A spawner spawns another task and catches its own panic before it returns. -/
def spawnsInside : List (Action Nat Unit) :=
  [.enter 1, .spawn (.error .notFound), .spawn (.error .notFound), .spawned, .catchUnwind, .raise,
    .unwind, .spawned, .exit]

theorem reentrant_iff_inside :
    ∃ config : Config (State Nat Unit Unit) Event,
      (machine none).exec .any (.initial (.new none)) spawnsInside = some config ∧
        returned config.trace = [1, 0] ∧
        (Reentrant none config ↔ EntersOutside config.trace ∧ SearchesReturn config.trace) := by
  obtain ⟨config, executed, handles⟩ :
      ∃ config : Config (State Nat Unit Unit) Event,
        (machine none).exec .any (.initial (.new none)) spawnsInside = some config ∧
          returned config.trace = [1, 0] := ⟨_, rfl, rfl⟩
  have run : (machine none).Reaches .any (.initial (.new none)) config :=
    reaches_of_exec spawnsInside executed
  exact ⟨config, executed, handles, reentrant_iff run⟩

def entersInside : List (Action Nat Unit) :=
  [.enter 1, .spawn (.error .notFound), .enter 1, .unwind]

theorem enter_inside_fails :
    ¬ ∀ config : Config (State Nat Unit Unit) Event,
      (machine none).Reaches .any (.initial (.new none)) config → Reentrant none config := by
  intro claim
  obtain ⟨config, executed, panicked⟩ :
      ∃ config : Config (State Nat Unit Unit) Event,
        (machine none).exec .any (.initial (.new none)) entersInside = some config ∧
          spawnPanics config.trace = [.alreadyBorrowed] := ⟨_, rfl, rfl⟩
  have documented := (claim config (reaches_of_exec entersInside executed)).panics
  rw [panicked] at documented
  exact documented .alreadyBorrowed (by simp)

end Spawns.SpawnCall
