/-
What spawn calls hand over and return, on all threads of a process.

Each thread runs its spawn calls as it does alone. Here a call also has its locals,
the name and the future it was given and the handle that `Task::new` made, and all
threads take ids from one counter.
-/

import Spawns.Core.SpawnCall
import Spawns.Core.TaskId

namespace Spawns

open EventMachine

open Machine (reaches_of_exec)

/-- `Name`: `text` is its `Option<Cow<'static, str>>`. -/
structure Name where
  text : Option String
  deriving DecidableEq, Repr

def Name.default : Name := ⟨none⟩

def Name.tryAsStr (name : Name) : Option String := name.text

def Name.asStr (name : Name) : String := name.tryAsStr.getD "unnamed"

def Name.name (_name : Name) (text : String) : Name := ⟨some text⟩

structure Builder where
  naming : Name
  deriving DecidableEq, Repr

def Builder.new : Builder := ⟨.default⟩

def Builder.name (builder : Builder) (text : String) : Builder := ⟨builder.naming.name text⟩

namespace SpawnTask

open SpawnCall

/-- `JoinHandle`; `shared` stands for the `Arc`s of a joint and a cancellation. -/
structure JoinHandle where
  id : RawId
  shared : Nat
  deriving DecidableEq, Repr

/-- `Task`, and the `IdFuture` and the `Arc`s in its `TaskFuture`. -/
structure Task (D : Type) where
  id : Id
  name : Name
  future : D
  futureId : RawId
  shared : Nat
  deriving DecidableEq, Repr

variable {S L F D Θ : Type}

/-- `Task::new`, with the counter as it is left. -/
def Task.new (name : Name) (future : D) (counter : UInt64) (shared : Nat) :
    Task D × JoinHandle × UInt64 :=
  let (ids, next) := TaskIds.new counter
  (⟨ids.task, name, future, ids.future, shared⟩, ⟨ids.handle, shared⟩, next)

inductive Target (S F : Type) where
  | scoped (spawner : S)
  | compat (spawn : F)
  deriving DecidableEq, Repr

structure Locals (D : Type) where
  name : Name
  future : D
  handle : Option JoinHandle
  deriving DecidableEq, Repr

structure Thread (S L F D : Type) where
  calls : SpawnCall.State S L F
  locals : List (Locals D)

structure State (Θ S L F D : Type) where
  threads : Θ → Thread S L F D
  counter : UInt64
  made : Nat

/-- `context` is the spawner of the innermost scope that is open on the thread. -/
inductive Event (Θ S F D : Type) where
  | handedOver (thread : Θ) (context : Option S) (target : Option (Target S F)) (task : Task D)
  | returned (thread : Θ) (call : Locals D)
  | panicked (thread : Θ) (call : Locals D)

/-- `builder` and `future` are those of `Builder::spawn` where the action spawns. -/
structure Action (Θ S F D : Type) where
  thread : Θ
  action : SpawnCall.Action S F
  builder : Builder
  future : D

def State.new : State Θ S L F D := ⟨fun _ => ⟨.new none, []⟩, 1, 0⟩

def found? : Search L F → Option (Target S F)
  | .settled (.ok spawn) => some (.compat spawn)
  | _ => none

def target? (compats : Option (List (Compat L F))) (calls : SpawnCall.State S L F) :
    SpawnCall.Action S F → Option (Target S F)
  | .spawn findGlobal =>
      match calls.cell.value, compats with
      | some spawner, _ => some (.scoped spawner)
      | none, none => none
      | none, some items => found? (findSpawn items findGlobal)
  | .detected answer findGlobal =>
      match calls.frames, compats with
      | .call (.detecting _ rest) :: _, some items =>
          found? (findSpawnAfter items rest findGlobal answer)
      | _, _ => none
  | _ => none

def context (frames : List (Frame S L F)) : Option S :=
  (scopes frames).head?.map SpawnScope.spawner

def isSpawn : SpawnCall.Action S F → Bool
  | .spawn _ => true
  | _ => false

def opened (action : Action Θ S F D) (locals : List (Locals D)) : List (Locals D) :=
  match action.action with
  | .spawn _ => ⟨action.builder.naming, action.future, none⟩ :: locals
  | _ => locals

/-- The locals of the calls of one thread, and what all threads share. -/
structure Ledger (D : Type) where
  locals : List (Locals D)
  counter : UInt64
  made : Nat

def settle (thread : Θ) (context : Option S) (target : Option (Target S F)) (ledger : Ledger D) :
    SpawnCall.Event → Ledger D × List (Event Θ S F D)
  | .handedOver _ =>
      match ledger.locals with
      | call :: outer =>
          let (task, handle, counter) := Task.new call.name call.future ledger.counter ledger.made
          (⟨{ call with handle := some handle } :: outer, counter, ledger.made + 1⟩,
            [.handedOver thread context target task])
      | [] => (ledger, [])
  | .spawnReturned _ =>
      match ledger.locals with
      | call :: outer => ({ ledger with locals := outer }, [.returned thread call])
      | [] => (ledger, [])
  | .spawnPanicked _ =>
      match ledger.locals with
      | call :: outer => ({ ledger with locals := outer }, [.panicked thread call])
      | [] => (ledger, [])
  | _ => (ledger, [])

def settleAll (thread : Θ) (context : Option S) (target : Option (Target S F)) :
    Ledger D → List SpawnCall.Event → Ledger D × List (Event Θ S F D)
  | ledger, [] => (ledger, [])
  | ledger, event :: rest =>
      let (next, shown) := settle thread context target ledger event
      let (last, later) := settleAll thread context target next rest
      (last, shown ++ later)

section Steps

variable [DecidableEq Θ] [DecidableEq S]

def step (compats : Option (List (Compat L F))) (state : State Θ S L F D)
    (action : Action Θ S F D) : Option (State Θ S L F D × List (Event Θ S F D)) :=
  let thread := state.threads action.thread
  match (SpawnCall.machine compats).step thread.calls action.action with
  | some (calls, events) =>
      let (ledger, shown) := settleAll action.thread (context thread.calls.frames)
        (target? compats thread.calls action.action)
        ⟨opened action thread.locals, state.counter, state.made⟩ events
      some (⟨Function.update state.threads action.thread ⟨calls, ledger.locals⟩,
        ledger.counter, ledger.made⟩, shown)
  | none => none

def machine (compats : Option (List (Compat L F))) :
    Machine (State Θ S L F D) (Action Θ S F D) (Event Θ S F D) where
  step := step compats

end Steps

/-! ### Observables of a trace -/

@[simp] def Event.task? : Event Θ S F D → Option (Θ × Task D)
  | .handedOver thread _ _ task => some (thread, task)
  | _ => none

@[simp] def Event.return? : Event Θ S F D → Option (Θ × Locals D)
  | .returned thread call => some (thread, call)
  | _ => none

@[simp] def Event.closed? : Event Θ S F D → Option (Θ × Locals D)
  | .returned thread call => some (thread, call)
  | .panicked thread call => some (thread, call)
  | _ => none

abbrev tasks (trace : List (Event Θ S F D)) : List (Θ × Task D) := observe Event.task? trace

abbrev returns (trace : List (Event Θ S F D)) : List (Θ × Locals D) :=
  observe Event.return? trace

abbrev closed (trace : List (Event Θ S F D)) : List (Θ × Locals D) :=
  observe Event.closed? trace

/-! ### The calls of one thread -/

def ofCall : SpawnCall.Event → Bool
  | .handedOver _ => true
  | .spawnReturned _ => true
  | .spawnPanicked _ => true
  | _ => false

private theorem settleAll_quiet {events : List SpawnCall.Event}
    (quiet : events.any ofCall = false) (thread : Θ) (context : Option S)
    (target : Option (Target S F)) (ledger : Ledger D) :
    settleAll thread context target ledger events = (ledger, []) := by
  induction events with
  | nil => rfl
  | cons event rest ih =>
      rw [List.any_cons, Bool.or_eq_false_iff] at quiet
      obtain ⟨first, rest⟩ := quiet
      have later := ih rest
      cases event with
      | handedOver | spawnReturned | spawnPanicked => cases first
      | entering | exiting | searchPanicked | aborted =>
          simp only [settleAll, settle, later, List.nil_append]

def point? : Frame S L F → Option (CallPoint L F)
  | .call point => some point
  | _ => none

abbrev points (frames : List (Frame S L F)) : List (CallPoint L F) := frames.filterMap point?

private theorem points_nil_of_calls {frames : List (Frame S L F)}
    (free : SpawnCall.calls frames = 0) :
    points frames = [] := by
  apply List.filterMap_eq_nil_iff.mpr
  intro frame member
  have outside := List.countP_eq_zero.mp free frame member
  cases frame with
  | call point => exact absurd rfl outside
  | scope | catching | cleanup => rfl

inductive Outcome (created : Nat) :
    CallPoint L F → List SpawnCall.Event → Option (Target S F) → Prop where
  | detects (detector : L) (rest : List (Compat L F)) :
      Outcome created (.detecting detector rest) [] none
  | hands (target : Target S F) :
      Outcome created (.running created) [.handedOver created] (some target)
  | discards (events : List SpawnCall.Event) (quiet : events.any ofCall = false) :
      Outcome created .discarding events none

inductive Moves (compats : Option (List (Compat L F))) (calls next : SpawnCall.State S L F) :
    SpawnCall.Action S F → List SpawnCall.Event → Prop where
  | opens (findGlobal : Except Failure F) (point : CallPoint L F) (events : List SpawnCall.Event)
      (outcome : Outcome calls.created point events (target? compats calls (.spawn findGlobal)))
      (after : points next.frames = point :: points calls.frames)
      (unscoped : ∀ detector rest, point = .detecting detector rest → calls.cell.value = none)
      (value : next.cell.value = calls.cell.value) :
      Moves compats calls next (.spawn findGlobal) events
  | searches (answer : Option F) (findGlobal : Except Failure F) (detector : L)
      (rest : List (Compat L F)) (outer : List (CallPoint L F)) (point : CallPoint L F)
      (events : List SpawnCall.Event)
      (outcome : Outcome calls.created point events
        (target? compats calls (.detected answer findGlobal)))
      (before : points calls.frames = .detecting detector rest :: outer)
      (after : points next.frames = point :: outer)
      (value : next.cell.value = calls.cell.value) :
      Moves compats calls next (.detected answer findGlobal) events
  | returns (task : Nat) (before : points calls.frames = .running task :: points next.frames)
      (value : next.cell.value = calls.cell.value) :
      Moves compats calls next .spawned [.spawnReturned task]
  | leaves (action : SpawnCall.Action S F) (point : CallPoint L F) (panic : Panic)
      (late : isSpawn action = false)
      (before : points calls.frames = point :: points next.frames)
      (value : next.cell.value = calls.cell.value) :
      Moves compats calls next action [.spawnPanicked panic]
  | keeps (action : SpawnCall.Action S F) (events : List SpawnCall.Event)
      (late : isSpawn action = false)
      (same : points next.frames = points calls.frames)
      (value : next.cell.value = calls.cell.value ∨ points calls.frames = [])
      (quiet : events.any ofCall = false) :
      Moves compats calls next action events

variable {compats : Option (List (Compat L F))} {calls next : SpawnCall.State S L F}
  {action : SpawnCall.Action S F} {events : List SpawnCall.Event}

private theorem search_leads (created : SpawnCall.State S L F) (found : Search L F) :
    ∃ point, points (search created found).1.frames = point :: points created.frames ∧
      Outcome created.created point (search created found).2 (found? found : Option (Target S F)) ∧
      (search created found).1.cell = created.cell := by
  cases found with
  | detect detector rest => exact ⟨_, rfl, .detects detector rest, rfl⟩
  | settled result =>
      cases result with
      | ok spawn => exact ⟨_, rfl, .hands _, rfl⟩
      | error failure =>
          cases failure with
          | notFound => exact ⟨_, rfl, .discards _ rfl, rfl⟩
          | multipleGlobals => exact ⟨_, rfl, .discards _ rfl, rfl⟩

private theorem spawn_moves (shared : 0 ≤ calls.cell.flag) (findGlobal : Except Failure F) :
    Moves compats calls (spawn compats calls findGlobal).1 (.spawn findGlobal)
      (spawn compats calls findGlobal).2 := by
  obtain ⟨⟨value, flag⟩, frames, mode, created⟩ := calls
  rw [spawn, RefCell.borrow_shared shared]
  cases value with
  | some spawner =>
      apply Moves.opens findGlobal (.running created)
      · exact .hands (.scoped spawner)
      · rfl
      · intro detector rest same
        cases same
      · rfl
  | none =>
      cases compats with
      | none =>
          apply Moves.opens findGlobal .discarding
          · exact .discards _ rfl
          · rfl
          · intro detector rest same
            cases same
          · rfl
      | some items =>
          obtain ⟨point, after, outcome, cell⟩ := search_leads
            (⟨⟨none, flag + 1⟩, frames, mode, created⟩ : SpawnCall.State S L F)
            (findSpawn items findGlobal)
          apply Moves.opens findGlobal point
          · exact outcome
          · exact after
          · exact fun _ _ _ => rfl
          · have same := congrArg RefCell.value cell
            exact same

private theorem detected_moves {answer : Option F} {findGlobal : Except Failure F}
    (stepped : detected compats calls answer findGlobal = some (next, events)) :
    Moves compats calls next (.detected answer findGlobal) events := by
  unfold detected at stepped
  split at stepped
  · rename_i detector rest outer items frames
    rw [Option.some.injEq] at stepped
    obtain ⟨point, after, outcome, cell⟩ := search_leads { calls with frames := outer }
      (findSpawnAfter items rest findGlobal answer)
    rw [stepped] at after outcome cell
    have aims : target? (some items) calls (.detected answer findGlobal) =
        (found? (findSpawnAfter items rest findGlobal answer) : Option (Target S F)) := by
      simp only [target?, frames]
    apply Moves.searches answer findGlobal detector rest (points outer) point
    · rw [aims]
      exact outcome
    · rw [frames]
      rfl
    · exact after
    · rw [cell]
  · cases stepped

theorem moves_of_step [DecidableEq S] (sound : Sound none calls)
    (stepped : (SpawnCall.machine compats).step calls action = some (next, events)) :
    Moves compats calls next action events := by
  simp only [SpawnCall.machine] at stepped
  split at stepped
  · rename_i spawner running
    rw [Option.some.injEq] at stepped
    cases within : inside calls.frames with
    | false =>
        have free := outside_iff.mp within
        have unborrowed : calls.cell.flag = 0 := by
          rw [sound.borrowed, free]
          rfl
        simp only [SpawnCall.enter, enter_free unborrowed] at stepped
        cases stepped
        exact .keeps _ _ rfl rfl (.inr (points_nil_of_calls free)) rfl
    | true =>
        have busy := inside_iff.mp within
        have borrowed : calls.cell.flag ≠ 0 := by
          rw [sound.borrowed]
          omega
        simp only [SpawnCall.enter, enter_busy borrowed] at stepped
        cases stepped
        exact .keeps _ _ rfl rfl (.inl rfl) rfl
  · unfold SpawnCall.exit at stepped
    split at stepped
    · rename_i scope rest frames
      obtain ⟨dropped, outside⟩ := sound.drop_scope frames
      rw [dropped] at stepped
      cases stepped
      refine .keeps _ _ rfl (by rw [frames]; rfl) (.inr ?_) rfl
      rw [frames]
      exact points_nil_of_calls (outside_iff.mp outside)
    · cases stepped
  · rename_i findGlobal running
    rw [Option.some.injEq] at stepped
    have moves : Moves compats calls _ (.spawn findGlobal) _ :=
      spawn_moves (by rw [sound.borrowed]; omega) findGlobal
    rwa [stepped] at moves
  · exact detected_moves stepped
  · unfold spawned at stepped
    split at stepped
    · rename_i task rest frames
      cases stepped
      exact .returns task (by rw [frames]; rfl) rfl
    · cases stepped
  · unfold discarded at stepped
    split at stepped
    · rename_i rest frames
      cases stepped
      exact .leaves _ .discarding _ rfl (by rw [frames]; rfl) rfl
    · cases stepped
  · cases stepped
    exact .keeps _ _ rfl rfl (.inl rfl) rfl
  · cases stepped
    exact .keeps _ _ rfl rfl (.inl rfl) rfl
  · unfold caught at stepped
    split at stepped
    · rename_i rest frames
      cases stepped
      exact .keeps _ _ rfl (by rw [frames]; rfl) (.inl rfl) rfl
    · cases stepped
  · unfold resume at stepped
    split at stepped
    · rename_i panic rest frames
      cases stepped
      exact .keeps _ _ rfl (by rw [frames]; rfl) (.inl rfl) rfl
    · cases stepped
  · cases stepped
    exact .keeps _ _ rfl rfl (.inl rfl) rfl
  · unfold unwind at stepped
    split at stepped
    · cases stepped
    · rename_i scope rest frames
      obtain ⟨dropped, outside⟩ := sound.drop_scope frames
      rw [dropped] at stepped
      cases stepped
      refine .keeps _ _ rfl (by rw [frames]; rfl) (.inr ?_) rfl
      rw [frames]
      exact points_nil_of_calls (outside_iff.mp outside)
    · rename_i point rest frames
      cases stepped
      exact .leaves _ point _ rfl (by rw [frames]; rfl) rfl
    · rename_i rest frames
      cases stepped
      exact .keeps _ _ rfl (by rw [frames]; rfl) (.inl rfl) rfl
    · rename_i other rest frames
      cases stepped
      exact .keeps _ _ rfl (by rw [frames]; rfl) (.inl rfl) rfl
  · cases stepped

/-! ### The books of all threads -/

def handleOf (task : Task D) : JoinHandle := ⟨task.id.asRaw, task.shared⟩

/-- The call has the handle of a task handed over on its thread, made of its name and future. -/
def Made (tasks : List (Θ × Task D)) (thread : Θ) (call : Locals D) : Prop :=
  ∃ task, (thread, task) ∈ tasks ∧ call.handle = some (handleOf task) ∧
    task.name = call.name ∧ task.future = call.future

private theorem Made.append {tasks : List (Θ × Task D)} {thread : Θ} {call : Locals D}
    (made : Made tasks thread call) (later : List (Θ × Task D)) :
    Made (tasks ++ later) thread call := by
  obtain ⟨task, member, rest⟩ := made
  exact ⟨task, List.mem_append_left _ member, rest⟩

def shares (calls : List (Locals D)) : List Nat :=
  calls.filterMap fun call => call.handle.map JoinHandle.shared

/-- Every task has a number of its own, and no two calls have a handle of one task. -/
structure Books (trace : List (Event Θ S F D)) (locals : Θ → List (Locals D))
    (counter : UInt64) (made : Nat) : Prop where
  length : (tasks trace).length = made
  counter : counter = UInt64.ofNat (made + 1)
  numbered : ∀ (index : Nat) (thread : Θ) (task : Task D),
    (tasks trace)[index]? = some (thread, task) →
      task.shared = index ∧ task.id = ⟨UInt64.ofNat (index + 1)⟩ ∧ task.futureId = task.id.asRaw
  ongoing : ∀ thread, ∀ call ∈ locals thread, call.handle = none ∨ Made (tasks trace) thread call
  closed : ∀ thread call, (thread, call) ∈ closed trace →
    call.handle = none ∨ Made (tasks trace) thread call
  once : ∀ thread, (shares ((SpawnTask.closed trace).map Prod.snd) ++
    shares (locals thread)).Nodup

private theorem shares_append (first second : List (Locals D)) :
    shares (first ++ second) = shares first ++ shares second := List.filterMap_append

private theorem shares_cons_none {call : Locals D} (unmade : call.handle = none)
    (rest : List (Locals D)) : shares (call :: rest) = shares rest :=
  List.filterMap_cons_none (by rw [unmade]; rfl)

private theorem mem_shares {calls : List (Locals D)} {share : Nat} :
    share ∈ shares calls ↔ ∃ call ∈ calls, ∃ handle, call.handle = some handle ∧
      handle.shared = share := by
  simp only [shares, List.mem_filterMap, Option.map_eq_some_iff]

section Keep

variable {trace : List (Event Θ S F D)} {locals : Θ → List (Locals D)} {counter : UInt64}
  {made : Nat} {thread : Θ} {call : Locals D} {outer : List (Locals D)} {share : Nat}

private theorem Books.made_number (books : Books trace locals counter made) {handle : JoinHandle}
    (known : call.handle = none ∨ Made (tasks trace) thread call)
    (held : call.handle = some handle) :
    ∃ task, (tasks trace)[handle.shared]? = some (thread, task) := by
  rcases known with unmade | ⟨task, member, same, _⟩
  · rw [unmade] at held
    cases held
  · obtain ⟨index, found⟩ := List.mem_iff_getElem?.mp member
    have number := (books.numbered index thread task found).1
    rw [held, Option.some.injEq] at same
    refine ⟨task, ?_⟩
    rw [same]
    change (tasks trace)[task.shared]? = _
    rw [number, found]

private theorem Books.ongoing_number (books : Books trace locals counter made)
    (member : share ∈ shares (locals thread)) :
    ∃ task, (tasks trace)[share]? = some (thread, task) := by
  obtain ⟨call, running, handle, held, rfl⟩ := mem_shares.mp member
  exact books.made_number (books.ongoing thread call running) held

private theorem Books.closed_number (books : Books trace locals counter made)
    (member : share ∈ shares ((SpawnTask.closed trace).map Prod.snd)) :
    ∃ thread task, (tasks trace)[share]? = some (thread, task) := by
  obtain ⟨call, ended, handle, held, rfl⟩ := mem_shares.mp member
  obtain ⟨⟨thread, _⟩, member, rfl⟩ := List.mem_map.mp ended
  exact ⟨thread, books.made_number (books.closed thread _ member) held⟩

private theorem Books.fresh (books : Books trace locals counter made)
    (member : share ∈ shares ((SpawnTask.closed trace).map Prod.snd) ++ shares (locals thread)) :
    share < made := by
  have below {owner : Θ} {task : Task D}
      (found : (tasks trace)[share]? = some (owner, task)) : share < made := by
    have inside := (List.getElem?_eq_some_iff.mp found).1
    rwa [books.length] at inside
  rcases List.mem_append.mp member with ended | running
  · obtain ⟨owner, task, found⟩ := books.closed_number ended
    exact below found
  · obtain ⟨task, found⟩ := books.ongoing_number running
    exact below found

variable [DecidableEq Θ]

private theorem Books.opens (books : Books trace locals counter made)
    (unmade : call.handle = none) :
    Books trace (Function.update locals thread (call :: locals thread)) counter made where
  length := books.length
  counter := books.counter
  numbered := books.numbered
  ongoing := by
    intro other started member
    by_cases same : other = thread
    · subst same
      rw [Function.update_self, List.mem_cons] at member
      rcases member with rfl | older
      · exact .inl unmade
      · exact books.ongoing other started older
    · rw [Function.update_of_ne same] at member
      exact books.ongoing other started member
  closed := books.closed
  once := by
    intro other
    by_cases same : other = thread
    · subst same
      rw [Function.update_self, shares_cons_none unmade]
      exact books.once other
    · rw [Function.update_of_ne same]
      exact books.once other

private theorem Books.makes (books : Books trace locals counter made)
    (innermost : locals thread = call :: outer) (unmade : call.handle = none)
    (context : Option S) (target : Option (Target S F)) :
    Books (trace ++ [.handedOver thread context target
        (Task.new call.name call.future counter made).1])
      (Function.update locals thread
        ({ call with handle := some (Task.new call.name call.future counter made).2.1 } :: outer))
      (Task.new call.name call.future counter made).2.2 (made + 1) := by
  have grown : tasks (trace ++ [.handedOver thread context target
      (Task.new call.name call.future counter made).1]) = tasks trace ++
        [(thread, (Task.new call.name call.future counter made).1)] := by simp
  have silent : SpawnTask.closed (trace ++ [.handedOver thread context target
      (Task.new call.name call.future counter made).1]) = SpawnTask.closed trace := by simp
  refine ⟨?length, ?counter, ?numbered, ?ongoing, ?closed, ?once⟩
  case length => rw [grown, List.length_append, books.length, List.length_singleton]
  case counter =>
    change counter + 1 = UInt64.ofNat (made + 1 + 1)
    rw [books.counter, UInt64.ofNat_add (made + 1) 1]
    rfl
  case numbered =>
    intro index owner task found
    rw [grown] at found
    by_cases old : index < (tasks trace).length
    · rw [List.getElem?_append_left old] at found
      exact books.numbered index owner task found
    · have inside := (List.getElem?_eq_some_iff.mp found).1
      rw [List.length_append, List.length_singleton] at inside
      have last : index = (tasks trace).length := by omega
      rw [last, List.getElem?_concat_length, Option.some.injEq, Prod.mk.injEq] at found
      rw [last, books.length, ← found.2, books.counter]
      exact ⟨rfl, rfl, rfl⟩
  case ongoing =>
    intro other running member
    rw [grown]
    by_cases same : other = thread
    · subst same
      rw [Function.update_self, List.mem_cons] at member
      rcases member with rfl | older
      · exact .inr ⟨_, List.mem_append_right _ (List.mem_singleton_self _), rfl, rfl, rfl⟩
      · have before := books.ongoing other running (by rw [innermost]; simp [older])
        exact before.imp_right fun known => known.append _
    · rw [Function.update_of_ne same] at member
      exact (books.ongoing other running member).imp_right fun known => known.append _
  case closed =>
    intro other ended member
    rw [silent] at member
    rw [grown]
    exact (books.closed other ended member).imp_right fun known => known.append _
  case once =>
    intro other
    rw [silent]
    by_cases same : other = thread
    · subst same
      have before := books.once other
      have bound (share : Nat) (member : share ∈ shares ((SpawnTask.closed trace).map Prod.snd) ++
          shares (locals other)) : share < made := books.fresh member
      rw [innermost, shares_cons_none unmade] at before bound
      rw [Function.update_self]
      change (_ ++ made :: shares outer).Nodup
      rw [List.perm_middle.nodup_iff, List.nodup_cons]
      exact ⟨fun again => Nat.lt_irrefl _ (bound made again), before⟩
    · rw [Function.update_of_ne same]
      exact books.once other

private theorem Books.closes (books : Books trace locals counter made)
    (innermost : locals thread = call :: outer) {event : Event Θ S F D}
    (unhanded : event.task? = none) (shown : event.closed? = some (thread, call)) :
    Books (trace ++ [event]) (Function.update locals thread outer) counter made := by
  have silent : tasks (trace ++ [event]) = tasks trace := by
    rw [tasks, observe_append, observe_cons, unhanded]
    exact List.append_nil _
  have grown : SpawnTask.closed (trace ++ [event]) =
      SpawnTask.closed trace ++ [(thread, call)] := by
    rw [SpawnTask.closed, observe_append, observe_cons, shown]
    rfl
  have known := books.ongoing thread call (by rw [innermost]; exact List.mem_cons_self)
  have ended : shares ((SpawnTask.closed (trace ++ [event])).map Prod.snd) =
      shares ((SpawnTask.closed trace).map Prod.snd) ++ shares [call] := by
    rw [grown, List.map_append, shares_append]
    rfl
  have own : (shares ((SpawnTask.closed trace).map Prod.snd) ++ shares [call] ++
      shares outer).Nodup := by
    have before := books.once thread
    rwa [innermost, ← List.singleton_append, shares_append, ← List.append_assoc] at before
  refine ⟨by rw [silent, books.length], books.counter, ?numbered, ?ongoing, ?closed, ?once⟩
  case numbered =>
    rw [silent]
    exact books.numbered
  case ongoing =>
    intro other running member
    rw [silent]
    by_cases same : other = thread
    · subst same
      rw [Function.update_self] at member
      exact books.ongoing other running (by rw [innermost]; exact List.mem_cons_of_mem _ member)
    · rw [Function.update_of_ne same] at member
      exact books.ongoing other running member
  case closed =>
    intro other ended member
    rw [silent]
    rw [grown, List.mem_append, List.mem_singleton, Prod.mk.injEq] at member
    rcases member with older | ⟨rfl, rfl⟩
    · exact books.closed other ended older
    · exact known
  case once =>
    intro other
    rw [ended]
    by_cases same : other = thread
    · subst same
      rwa [Function.update_self]
    · rw [Function.update_of_ne same, List.nodup_append]
      have before := List.nodup_append.mp (books.once other)
      refine ⟨(List.nodup_append.mp own).1, before.2.1, ?_⟩
      intro share member running held equal
      subst equal
      rcases List.mem_append.mp member with older | last
      · exact before.2.2 share older share held rfl
      · -- A task has one thread, so two threads have no handle of one task.
        obtain ⟨_, only, handle, handed, rfl⟩ := mem_shares.mp last
        rw [List.mem_singleton.mp only] at handed
        obtain ⟨task, found⟩ := books.made_number known handed
        obtain ⟨task, again⟩ := books.ongoing_number held
        rw [found, Option.some.injEq, Prod.mk.injEq] at again
        exact same again.1.symm

end Keep

/-! ### What holds at every point of a run -/

/-- The task goes to the innermost scope, and elsewhere only where none is open. -/
def Event.Aimed : Event Θ S F D → Prop
  | .handedOver _ context target _ =>
      ∃ whom, target = some whom ∧ ∀ spawner, whom = .scoped spawner ↔ context = some spawner
  | _ => True

/-- A call has a handle exactly from when it has handed its task over. -/
def Fits (tasks : List (Θ × Task D)) (thread : Θ) : CallPoint L F → Locals D → Prop
  | .running _, call => Made tasks thread call
  | _, call => call.handle = none

private theorem Fits.append {tasks : List (Θ × Task D)} {thread : Θ} {point : CallPoint L F}
    {call : Locals D} (fits : Fits tasks thread point call) (later : List (Θ × Task D)) :
    Fits (tasks ++ later) thread point call := by
  cases point with
  | running task => exact Made.append fits later
  | detecting | discarding => exact fits

structure Sane (tasks : List (Θ × Task D)) (thread : Θ) (state : Thread S L F D) : Prop where
  sound : Sound none state.calls
  searching : ∀ detector rest, .detecting detector rest ∈ points state.calls.frames →
    state.calls.cell.value = none
  fits : List.Forall₂ (Fits tasks thread) (points state.calls.frames) state.locals

private theorem Sane.append {tasks : List (Θ × Task D)} {thread : Θ} {state : Thread S L F D}
    (sane : Sane tasks thread state) (later : List (Θ × Task D)) :
    Sane (tasks ++ later) thread state :=
  ⟨sane.sound, sane.searching, sane.fits.imp fun _ _ fits => fits.append later⟩

structure Kept (trace : List (Event Θ S F D)) (state : State Θ S L F D) : Prop where
  threads : ∀ thread, Sane (tasks trace) thread (state.threads thread)
  books : Books trace (fun thread => (state.threads thread).locals) state.counter state.made
  aimed : ∀ event ∈ trace, event.Aimed
  returned : ∀ thread call, (thread, call) ∈ returns trace → Made (tasks trace) thread call

theorem context_eq (sound : Sound none calls) : context calls.frames = calls.cell.value := by
  have chained := sound.chained
  rw [context]
  cases opened : scopes calls.frames with
  | nil =>
      rw [opened] at chained
      exact chained.symm
  | cons scope rest =>
      rw [opened] at chained
      exact chained.1.symm

private theorem found?_compat {found : Search L F} {whom : Target S F}
    (aims : found? found = some whom) :
    ∃ spawn, whom = .compat spawn := by
  unfold found? at aims
  split at aims
  · cases aims
    exact ⟨_, rfl⟩
  · cases aims

private theorem target?_spawn {findGlobal : Except Failure F} {whom : Target S F}
    (aims : target? compats calls (.spawn findGlobal) = some whom) (spawner : S) :
    whom = .scoped spawner ↔ calls.cell.value = some spawner := by
  simp only [target?] at aims
  split at aims
  · rename_i current _ value
    cases aims
    rw [value, Option.some.injEq, Target.scoped.injEq]
  · cases aims
  · rename_i items value
    obtain ⟨spawn, rfl⟩ := found?_compat aims
    rw [value]
    exact iff_of_false nofun nofun

private theorem target?_detected {answer : Option F} {findGlobal : Except Failure F}
    {whom : Target S F}
    (aims : target? compats calls (.detected answer findGlobal) = some whom) :
    ∃ spawn, whom = .compat spawn := by
  simp only [target?] at aims
  split at aims
  · exact found?_compat aims
  · cases aims

private theorem opened_late {action : Action Θ S F D}
    (late : isSpawn action.action = false) (locals : List (Locals D)) :
    opened action locals = locals := by
  unfold opened
  split
  · rename_i findGlobal spawns
    rw [spawns] at late
    cases late
  · rfl

section Runs

variable [DecidableEq Θ] {trace shown : List (Event Θ S F D)} {state : State Θ S L F D}

private theorem Kept.advance (kept : Kept trace state) {thread : Θ} {moved : Thread S L F D}
    {counter : UInt64} {made : Nat} (sane : Sane (tasks (trace ++ shown)) thread moved)
    (books : Books (trace ++ shown)
      (Function.update (fun other => (state.threads other).locals) thread moved.locals)
      counter made)
    (aimed : ∀ event ∈ shown, event.Aimed)
    (returned : ∀ other call, (other, call) ∈ returns shown →
      Made (tasks (trace ++ shown)) other call) :
    Kept (trace ++ shown) ⟨Function.update state.threads thread moved, counter, made⟩ := by
  have grown : tasks (trace ++ shown) = tasks trace ++ tasks shown := observe_append _ _ _
  refine ⟨?threads, ?books, ?aimed, ?returned⟩
  case threads =>
    intro other
    change Sane _ other (Function.update state.threads thread moved other)
    by_cases same : other = thread
    · subst same
      rw [Function.update_self]
      exact sane
    · rw [Function.update_of_ne same, grown]
      exact (kept.threads other).append _
  case books =>
    have same : (fun other => (Function.update state.threads thread moved other).locals) =
        Function.update (fun other => (state.threads other).locals) thread moved.locals := by
      funext other
      by_cases here : other = thread
      · subst here
        rw [Function.update_self, Function.update_self]
      · rw [Function.update_of_ne here, Function.update_of_ne here]
    rw [same]
    exact books
  case aimed =>
    intro event member
    exact (List.mem_append.mp member).elim (kept.aimed event) (aimed event)
  case returned =>
    intro other call member
    rw [returns, observe_append, List.mem_append] at member
    rcases member with older | new
    · rw [grown]
      exact (kept.returned other call older).append _
    · exact returned other call new

private theorem Kept.hands (kept : Kept trace state) {thread : Θ} {next : SpawnCall.State S L F}
    {call : Locals D} {outer : List (Locals D)} {outerPoints : List (CallPoint L F)}
    {index : Nat} {whom : Target S F} {context : Option S} {new : Task D × JoinHandle × UInt64}
    (makes : Task.new call.name call.future state.counter state.made = new)
    (books : Books trace
      (Function.update (fun other => (state.threads other).locals) thread (call :: outer))
      state.counter state.made)
    (unmade : call.handle = none) (sound : Sound none next)
    (after : points next.frames = .running index :: outerPoints)
    (searching : ∀ detector rest, .detecting detector rest ∈ outerPoints →
      next.cell.value = none)
    (fits : List.Forall₂ (Fits (tasks trace) thread) outerPoints outer)
    (aims : ∀ spawner, whom = .scoped spawner ↔ context = some spawner) :
    Kept (trace ++ [.handedOver thread context (some whom) new.1])
      ⟨Function.update state.threads thread
        ⟨next, { call with handle := some new.2.1 } :: outer⟩, new.2.2, state.made + 1⟩ := by
  have grown : tasks (trace ++ [.handedOver thread context (some whom) new.1]) =
      tasks trace ++ [(thread, new.1)] := by simp
  have made := books.makes (Function.update_self ..) unmade context (some whom)
  rw [Function.update_idem, makes] at made
  apply kept.advance
  · constructor
    · exact sound
    · intro detector rest member
      change _ ∈ points next.frames at member
      rw [after, List.mem_cons] at member
      exact searching detector rest (member.resolve_left nofun)
    · change List.Forall₂ _ (points next.frames) _
      rw [after, grown]
      constructor
      · refine ⟨new.1, List.mem_append_right _ (List.mem_singleton_self _), ?_, ?_, ?_⟩
        all_goals
          rw [← makes]
          rfl
      · exact fits.imp fun _ _ fits => fits.append _
  · exact made
  · intro event member
    cases List.mem_singleton.mp member
    exact ⟨whom, rfl, aims⟩
  · exact nofun

private theorem Kept.silent (kept : Kept trace state) {thread : Θ} {moved : Thread S L F D}
    (sane : Sane (tasks trace) thread moved)
    (books : Books trace
      (Function.update (fun other => (state.threads other).locals) thread moved.locals)
      state.counter state.made) :
    Kept trace ⟨Function.update state.threads thread moved, state.counter, state.made⟩ := by
  have none : trace ++ [] = trace := List.append_nil trace
  rw [← none] at sane books ⊢
  exact kept.advance sane books nofun nofun

private theorem Kept.ends (kept : Kept trace state) {thread : Θ} {next : SpawnCall.State S L F}
    {call : Locals D} {outer : List (Locals D)} {event : Event Θ S F D}
    (running : (state.threads thread).locals = call :: outer)
    (unhanded : event.task? = none) (shown : event.closed? = some (thread, call))
    (made : event.return? ≠ none → Made (tasks trace) thread call)
    (sane : Sane (tasks trace) thread ⟨next, outer⟩) :
    Kept (trace ++ [event])
      ⟨Function.update state.threads thread ⟨next, outer⟩, state.counter, state.made⟩ := by
  have same : tasks (trace ++ [event]) = tasks trace := by
    rw [tasks, observe_append, observe_cons, unhanded]
    exact List.append_nil _
  apply kept.advance
  · rw [same]
    exact sane
  · exact kept.books.closes running unhanded shown
  · intro other member
    cases List.mem_singleton.mp member
    cases event with
    | handedOver => cases unhanded
    | returned | panicked => trivial
  · intro other ended member
    rw [same]
    cases event with
    | handedOver => cases unhanded
    | panicked => cases member
    | returned owner finished =>
        cases shown
        cases List.mem_singleton.mp member
        exact made nofun

variable [DecidableEq S]

private theorem step_kept {action : Action Θ S F D} {next : State Θ S L F D}
    (kept : Kept trace state)
    (stepped : step compats state action = some (next, shown)) :
    Kept (trace ++ shown) next := by
  obtain ⟨thread, own, builder, future⟩ := action
  simp only [step] at stepped
  split at stepped
  · rename_i calls events moved
    cases stepped
    obtain ⟨sound, searching, fits⟩ := kept.threads thread
    have soundNext := step_sound sound (sound.transition moved)
    have aimed := context_eq sound
    have books := kept.books
    cases moves_of_step sound moved with
    | opens findGlobal point events outcome after unscoped value =>
        have started : Books trace (Function.update (fun other => (state.threads other).locals)
            thread (⟨builder.naming, future, none⟩ :: (state.threads thread).locals))
            state.counter state.made := books.opens rfl
        generalize aims : target? compats (state.threads thread).calls (.spawn findGlobal) =
          target at outcome
        have stillSearching : ∀ detector rest, .detecting detector rest ∈ points calls.frames →
            calls.cell.value = none := by
          intro detector rest member
          rw [after, List.mem_cons] at member
          rw [value]
          exact member.elim (fun same => unscoped detector rest same.symm)
            (searching detector rest)
        cases outcome with
        | detects | discards =>
            rw [settleAll_quiet]
            case quiet => first | rfl | assumption
            rw [List.append_nil]
            refine kept.silent ⟨soundNext, stillSearching, ?_⟩ started
            change List.Forall₂ _ (points calls.frames) (_ :: (state.threads thread).locals)
            rw [after]
            exact .cons rfl fits
        | hands whom =>
            refine kept.hands rfl started rfl soundNext after ?_ fits ?_
            · intro detector rest member
              rw [value]
              exact searching detector rest member
            · intro spawner
              rw [aimed]
              exact target?_spawn aims spawner
    | searches answer findGlobal detector rest outer point events outcome before after value =>
        have unscoped := searching detector rest (by rw [before]; exact List.mem_cons_self)
        rw [before] at fits
        obtain ⟨call, outerLocals, unmade, below, running⟩ := List.forall₂_cons_left_iff.mp fits
        have stillSearching : ∀ detector rest, .detecting detector rest ∈ points calls.frames →
            calls.cell.value = none := fun _ _ _ => value.trans unscoped
        have unmoved : Books trace (Function.update (fun other => (state.threads other).locals)
            thread (call :: outerLocals)) state.counter state.made := by
          rw [← running, Function.update_eq_self]
          exact books
        have unopened : opened (⟨thread, .detected answer findGlobal, builder, future⟩ :
            Action Θ S F D) (state.threads thread).locals = call :: outerLocals := running
        rw [unopened]
        generalize aims : target? compats (state.threads thread).calls
          (.detected answer findGlobal) = target at outcome
        cases outcome with
        | detects | discards =>
            rw [settleAll_quiet]
            case quiet => first | rfl | assumption
            rw [List.append_nil]
            refine kept.silent ⟨soundNext, stillSearching, ?_⟩ unmoved
            change List.Forall₂ _ (points calls.frames) (call :: outerLocals)
            rw [after]
            exact .cons unmade below
        | hands whom =>
            refine kept.hands rfl unmoved unmade soundNext after ?_ below ?_
            · exact fun _ _ _ => value.trans unscoped
            · intro spawner
              obtain ⟨spawn, rfl⟩ := target?_detected aims
              rw [aimed, unscoped]
              exact iff_of_false nofun nofun
    | returns task before value =>
        rw [before] at fits searching
        obtain ⟨call, outer, made, below, running⟩ := List.forall₂_cons_left_iff.mp fits
        have unopened : opened (⟨thread, .spawned, builder, future⟩ : Action Θ S F D)
            (state.threads thread).locals = call :: outer := running
        rw [unopened]
        refine kept.ends running rfl rfl (fun _ => made) ⟨soundNext, ?_, below⟩
        intro detector rest member
        exact value.trans (searching detector rest (List.mem_cons_of_mem _ member))
    | leaves _ point panic late before value =>
        rw [before] at fits searching
        obtain ⟨call, outer, _, below, running⟩ := List.forall₂_cons_left_iff.mp fits
        rw [opened_late late, running]
        refine kept.ends running rfl rfl (fun shown => absurd rfl shown) ⟨soundNext, ?_, below⟩
        intro detector rest member
        exact value.trans (searching detector rest (List.mem_cons_of_mem _ member))
    | keeps _ _ late same value quiet =>
        rw [opened_late late, settleAll_quiet quiet, List.append_nil]
        apply kept.silent
        · constructor
          · exact soundNext
          · intro detector rest member
            change _ ∈ points calls.frames at member
            rw [same] at member
            rcases value with value | none
            · exact value.trans (searching detector rest member)
            · rw [none] at member
              cases member
          · change List.Forall₂ _ (points calls.frames) _
            rw [same]
            exact fits
        · change Books trace (Function.update _ thread (state.threads thread).locals) _ _
          rw [Function.update_eq_self]
          exact books
  · cases stepped

variable {guard : Guard (State Θ S L F D) (Action Θ S F D) (Event Θ S F D)}
  {config : Config (State Θ S L F D) (Event Θ S F D)}

theorem kept_of_reaches
    (run : (machine compats).Reaches guard (.initial State.new) config) :
    Kept config.trace config.state := by
  refine run.invariant (fun config => Kept config.trace config.state) ?_ ?_
  · refine ⟨fun thread => ⟨⟨rfl, rfl, trivial⟩, nofun, .nil⟩, ⟨rfl, rfl, nofun, ?_, nofun, ?_⟩,
      nofun, nofun⟩
    · exact fun _ _ => nofun
    · exact fun _ => List.nodup_nil
  · intro before action next events _reached kept _allowed stepped
    exact step_kept kept stepped

/-! ### Whose handle a spawn call returns -/

/-- What all spawn calls of a process have done. -/
structure Faithful (trace : List (Event Θ S F D)) : Prop where
  aimed : ∀ event ∈ trace, event.Aimed
  numbered : ∀ (index : Nat) (thread : Θ) (task : Task D),
    (tasks trace)[index]? = some (thread, task) →
      task.shared = index ∧ task.id = ⟨UInt64.ofNat (index + 1)⟩ ∧ task.futureId = task.id.asRaw
  returned : ∀ thread call, (thread, call) ∈ returns trace → Made (tasks trace) thread call
  unwound : ∀ thread call, (thread, call) ∈ closed trace →
    call.handle = none ∨ Made (tasks trace) thread call
  once : (shares ((closed trace).map Prod.snd)).Nodup

/-- On all threads, whatever runs inside spawn calls: a task goes to the spawner of
the innermost scope of its thread, and elsewhere only outside of scopes; a call that
returns gives the handle of the task it made of its own name and future; and no other
call ever has a handle of that task. -/
theorem spawn_returns_its_task
    (run : (machine compats).Reaches guard (.initial State.new) config) :
    Faithful config.trace := by
  obtain ⟨_, books, aimed, returned⟩ := kept_of_reaches run
  refine ⟨aimed, books.numbered, returned, books.closed, ?_⟩
  cases ended : closed config.trace with
  | nil => exact List.nodup_nil
  | cons entry rest =>
      rw [← ended]
      exact (books.once entry.1).sublist (List.sublist_append_left _ _)

end Runs

def twoCompats : Option (List (Compat Unit Nat)) := some [.localFn (), .namedGlobal "smol" 9]

/-- A spawner spawns in turn, whose spawner panics, while another thread spawns. -/
def interleavedSpawns : List (Action Bool Nat Nat Nat) :=
  [⟨false, .enter 1, .new, 0⟩, ⟨false, .spawn (.ok 9), Builder.new.name "outer", 10⟩,
    ⟨true, .spawn (.ok 9), .new, 20⟩, ⟨false, .catchUnwind, .new, 0⟩,
    ⟨false, .spawn (.ok 9), (Builder.new.name "first").name "inner", 11⟩,
    ⟨true, .detected none (.ok 9), .new, 0⟩, ⟨false, .raise, .new, 0⟩, ⟨false, .unwind, .new, 0⟩,
    ⟨false, .unwind, .new, 0⟩, ⟨true, .spawned, .new, 0⟩, ⟨false, .spawned, .new, 0⟩]

theorem spawn_returns_its_task_interleaved :
    ∃ config, (machine twoCompats).exec .any (.initial .new) interleavedSpawns = some config ∧
      (tasks config.trace).map (fun entry => (entry.1, entry.2.id, entry.2.name.asStr)) =
        [(false, ⟨1⟩, "outer"), (false, ⟨2⟩, "inner"), (true, ⟨3⟩, "unnamed")] ∧
      (returns config.trace).map (fun entry => (entry.1, entry.2.handle)) =
        [(true, some ⟨⟨3⟩, 2⟩), (false, some ⟨⟨1⟩, 0⟩)] ∧
      Faithful config.trace := by
  have ran : ((machine twoCompats).exec .any (.initial .new) interleavedSpawns).map
      (fun config =>
        ((tasks config.trace).map (fun entry => (entry.1, entry.2.id, entry.2.name.asStr)),
          (returns config.trace).map (fun entry => (entry.1, entry.2.handle)))) =
        some ([(false, ⟨1⟩, "outer"), (false, ⟨2⟩, "inner"), (true, ⟨3⟩, "unnamed")],
          [(true, some ⟨⟨3⟩, 2⟩), (false, some ⟨⟨1⟩, 0⟩)]) := by decide +kernel
  obtain ⟨config, executed, reads⟩ := Option.map_eq_some_iff.mp ran
  rw [Prod.mk.injEq] at reads
  exact ⟨config, executed, reads.1, reads.2,
    spawn_returns_its_task (reaches_of_exec interleavedSpawns executed)⟩

end SpawnTask

end Spawns
