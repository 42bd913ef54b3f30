/-
`Blocking::block_on` on more than one thread: the worker threads, the shutdown
they wait for, and the ways the call can end.

The main future returns or panics at will. The workers poll their shutdown
signal in any order and as often as they like; the tasks that they run are left
out. The two libraries that are not part of the repository are parameters.
-/

import Mathlib.Data.List.Basic
import Spawns.Foundation.EventMachine

namespace Spawns

open EventMachine

open Machine (reaches_of_exec)

abbrev NonZeroUsize := { count : Nat // count ≠ 0 }

structure Blocking where
  parallelism : Nat
  deriving DecidableEq, Repr

/-- `Blocking::parallelism`; `available` is what `thread::available_parallelism()` returns. -/
def Blocking.threads (self : Blocking) (available : Option NonZeroUsize) : Nat :=
  match self.parallelism with
  | 0 => (available.map Subtype.val).getD 2
  | count => count

/-- `.name(format!("spawns-executor-{i}/{threads}"))` -/
def workerName (index threads : Nat) : String :=
  "spawns-executor-" ++ toString index ++ "/" ++ toString threads

/-- What `async_shutdown` does with the state that a `ShutdownManager` shares with
its signals and tokens. -/
structure AsyncShutdown (S : Type) where
  new : S
  waitShutdownTriggered : S → S
  cloneSignal : S → S
  triggerShutdownToken : S → S
  dropToken : S → S
  dropSignal : S → S
  dropManager : S → S
  -- A poll of a signal is ready.
  ready : S → Bool

/-- Signals get ready when a token is dropped, and by nothing else that is done here. -/
structure AsyncShutdown.Lawful {S : Type} (library : AsyncShutdown S) : Prop where
  new : library.ready library.new = false
  wait : ∀ shared, library.ready (library.waitShutdownTriggered shared) = library.ready shared
  clone : ∀ shared, library.ready (library.cloneSignal shared) = library.ready shared
  token : ∀ shared, library.ready (library.triggerShutdownToken shared) = library.ready shared
  dropToken : ∀ shared, library.ready (library.dropToken shared) = true
  dropSignal : ∀ shared, library.ready (library.dropSignal shared) = library.ready shared
  dropManager : ∀ shared, library.ready (library.dropManager shared) = library.ready shared

namespace Blocking

/-- The locals of `block_on` that have a destructor. -/
inductive Local where
  | executor
  | shutdown
  | shutdownSignal
  | shutdownOnDrop
  deriving DecidableEq, Repr

inductive Outcome (T : Type) where
  | returned (output : T)
  | unwound
  deriving DecidableEq, Repr

/-- Where the call of `block_on` stands; `index` is the one of the next worker. -/
inductive Point (T : Type) where
  | entered
  | currentThread
  | spawning (index : Nat)
  | runningUntil
  | leaving (outcome : Outcome T)
  | ended (outcome : Outcome T)
  deriving DecidableEq, Repr

inductive WorkerPoint where
  | running
  | returned
  deriving DecidableEq, Repr

structure Worker where
  name : String
  point : WorkerPoint
  deriving DecidableEq, Repr

/-- `locals` are those to be dropped when `block_on` is left, the latest first. -/
structure State (S T : Type) where
  point : Point T
  locals : List Local
  shared : S
  workers : List Worker

inductive Event (T : Type) where
  | workerStarted (index : Nat)
  | creationFailed (index : Nat)
  | dropped (dropped : Local)
  | workerReturned (worker : Nat)
  | callEnded (outcome : Outcome T)
  deriving DecidableEq, Repr

inductive Action (T : Type) where
  | start
  | spawn
  | mainEnds (outcome : Outcome T)
  | leave
  | pollWorker (worker : Nat)

/-- What the call is given: by its caller, by the machine and by the system, which
creates the thread of a worker or fails to. -/
structure Setting where
  blocking : Blocking
  available : Option NonZeroUsize
  creates : Nat → Bool

def Setting.threads (setting : Setting) : Nat := setting.blocking.threads setting.available

variable {S T : Type} (library : AsyncShutdown S) (returns : Bool → Bool) (setting : Setting)

def State.new : State S T := ⟨.entered, [], library.new, []⟩

/-- `block_on` up to its loop. One thread is left to the `block_on` of the module. -/
def start (state : State S T) : Option (State S T × List (Event T)) :=
  match state.point with
  | .entered =>
      if setting.threads = 1 then some ({ state with point := .currentThread }, [])
      else
        some ({ state with
          point := .spawning 2
          locals := [.shutdownSignal, .shutdown, .executor]
          shared := library.waitShutdownTriggered library.new }, [])
  | _ => none

/-- `(2..=threads).for_each(..)`, then `let _shutdown_on_drop = ..`. Where the thread
is not created, its closure is dropped and `unwrap` panics. -/
def spawn (state : State S T) : Option (State S T × List (Event T)) :=
  match state.point with
  | .spawning index =>
      if index ≤ setting.threads then
        if setting.creates index then
          some ({ state with
            point := .spawning (index + 1)
            shared := library.cloneSignal state.shared
            workers := state.workers ++ [⟨workerName index setting.threads, .running⟩] },
            [.workerStarted index])
        else
          some ({ state with
            point := .leaving .unwound
            shared := library.dropSignal (library.cloneSignal state.shared) },
            [.creationFailed index])
      else
        some ({ state with
          point := .runningUntil
          locals := .shutdownOnDrop :: state.locals
          shared := library.triggerShutdownToken state.shared }, [])
  | _ => none

/-- `Self::run_until(&executor, future)` returns or unwinds. -/
def mainEnds (state : State S T) (outcome : Outcome T) :
    Option (State S T × List (Event T)) :=
  match state.point with
  | .runningUntil => some ({ state with point := .leaving outcome }, [])
  | _ => none

def dropLocal (shared : S) : Local → S
  | .executor => shared
  | .shutdown => library.dropManager shared
  | .shutdownSignal => library.dropSignal shared
  | .shutdownOnDrop => library.dropToken shared

/-- The locals are dropped one by one, then the call is over. -/
def leave (state : State S T) : Option (State S T × List (Event T)) :=
  match state.point with
  | .leaving outcome =>
      match state.locals with
      | dropped :: rest =>
          some ({ state with
            locals := rest
            shared := dropLocal library state.shared dropped }, [.dropped dropped])
      | [] => some ({ state with point := .ended outcome }, [.callEnded outcome])
  | _ => none

/-- A worker polls `executor.run(shutdown_signal)`, which returns or goes on with tasks. -/
def pollWorker (state : State S T) (worker : Nat) : Option (State S T × List (Event T)) :=
  match state.workers[worker]? with
  | some ⟨name, .running⟩ =>
      if returns (library.ready state.shared) then
        some ({ state with
          shared := library.dropSignal state.shared
          workers := state.workers.set worker ⟨name, .returned⟩ }, [.workerReturned worker])
      else some (state, [])
  | _ => none

def machine : Machine (State S T) (Action T) (Event T) where
  step state
    | .start => start library setting state
    | .spawn => spawn library setting state
    | .mainEnds outcome => mainEnds state outcome
    | .leave => leave library state
    | .pollWorker worker => pollWorker library returns state worker

/-! ### What one step can do -/

inductive Transition (state : State S T) : Action T → State S T → List (Event T) → Prop where
  | startsAlone (point : state.point = .entered) (single : setting.threads = 1) :
      Transition state .start { state with point := .currentThread } []
  | starts (point : state.point = .entered) (several : setting.threads ≠ 1) :
      Transition state .start { state with
        point := .spawning 2
        locals := [.shutdownSignal, .shutdown, .executor]
        shared := library.waitShutdownTriggered library.new } []
  | creates (index : Nat) (point : state.point = .spawning index)
      (inRange : index ≤ setting.threads) (created : setting.creates index = true) :
      Transition state .spawn { state with
        point := .spawning (index + 1)
        shared := library.cloneSignal state.shared
        workers := state.workers ++ [⟨workerName index setting.threads, .running⟩] }
        [.workerStarted index]
  | fails (index : Nat) (point : state.point = .spawning index)
      (inRange : index ≤ setting.threads) (failed : setting.creates index ≠ true) :
      Transition state .spawn { state with
        point := .leaving .unwound
        shared := library.dropSignal (library.cloneSignal state.shared) } [.creationFailed index]
  | guards (index : Nat) (point : state.point = .spawning index)
      (past : ¬ index ≤ setting.threads) :
      Transition state .spawn { state with
        point := .runningUntil
        locals := .shutdownOnDrop :: state.locals
        shared := library.triggerShutdownToken state.shared } []
  | mainEnds (outcome : Outcome T) (point : state.point = .runningUntil) :
      Transition state (.mainEnds outcome) { state with point := .leaving outcome } []
  | drops (outcome : Outcome T) (dropped : Local) (rest : List Local)
      (point : state.point = .leaving outcome) (locals : state.locals = dropped :: rest) :
      Transition state .leave { state with
        locals := rest
        shared := dropLocal library state.shared dropped } [.dropped dropped]
  | ends (outcome : Outcome T) (point : state.point = .leaving outcome)
      (locals : state.locals = []) :
      Transition state .leave { state with point := .ended outcome } [.callEnded outcome]
  | workerStops (worker : Nat) (name : String)
      (found : state.workers[worker]? = some ⟨name, .running⟩)
      (stops : returns (library.ready state.shared) = true) :
      Transition state (.pollWorker worker) { state with
        shared := library.dropSignal state.shared
        workers := state.workers.set worker ⟨name, .returned⟩ } [.workerReturned worker]
  | workerGoesOn (worker : Nat) (name : String)
      (found : state.workers[worker]? = some ⟨name, .running⟩)
      (goesOn : returns (library.ready state.shared) ≠ true) :
      Transition state (.pollWorker worker) state []

variable {library returns setting}
variable {state next : State S T} {events trace : List (Event T)} {action : Action T}

theorem transition_of_step
    (stepped : (machine library returns setting).step state action = some (next, events)) :
    Transition library returns setting state action next events := by
  cases action with
  | start =>
      change start library setting state = some (next, events) at stepped
      unfold start at stepped
      split at stepped
      · rename_i point
        split at stepped <;> cases stepped
        · exact .startsAlone point ‹_›
        · exact .starts point ‹_›
      · cases stepped
  | spawn =>
      change spawn library setting state = some (next, events) at stepped
      unfold spawn at stepped
      split at stepped
      · rename_i index point
        split at stepped
        · split at stepped <;> cases stepped
          · exact .creates index point ‹_› ‹_›
          · exact .fails index point ‹_› ‹_›
        · cases stepped
          exact .guards index point ‹_›
      · cases stepped
  | mainEnds outcome =>
      change mainEnds state outcome = some (next, events) at stepped
      unfold mainEnds at stepped
      split at stepped <;> cases stepped
      exact .mainEnds outcome ‹_›
  | leave =>
      change leave library state = some (next, events) at stepped
      unfold leave at stepped
      split at stepped
      · rename_i outcome point
        split at stepped <;> cases stepped
        · exact .drops outcome _ _ point ‹_›
        · exact .ends outcome point ‹_›
      · cases stepped
  | pollWorker worker =>
      change pollWorker library returns state worker = some (next, events) at stepped
      unfold pollWorker at stepped
      split at stepped
      · rename_i name found
        split at stepped <;> cases stepped
        · exact .workerStops worker name found ‹_›
        · exact .workerGoesOn worker name found ‹_›
      · cases stepped

/-! ### The token and the point of the call -/

def Triggered (trace : List (Event T)) : Prop := .dropped .shutdownOnDrop ∈ trace

def Setting.CreatesBelow (setting : Setting) (limit : Nat) : Prop :=
  ∀ index, 2 ≤ index → index < limit → setting.creates index = true

def Setting.CreatesAll (setting : Setting) : Prop :=
  ∀ index, 2 ≤ index → index ≤ setting.threads → setting.creates index = true

/-- The token comes after the loop, and stays until the call is left. -/
def Stands (setting : Setting) (trace : List (Event T)) (state : State S T) : Prop :=
  match state.point with
  | .entered => ¬ Triggered trace
  | .currentThread => True
  | .spawning index =>
      2 ≤ index ∧ setting.CreatesBelow index ∧ .shutdownOnDrop ∉ state.locals ∧ ¬ Triggered trace
  | .runningUntil => setting.CreatesAll ∧ .shutdownOnDrop ∈ state.locals
  | .leaving _ =>
      (setting.CreatesAll ∧ (.shutdownOnDrop ∈ state.locals ∨ Triggered trace)) ∨
        (¬ setting.CreatesAll ∧ .shutdownOnDrop ∉ state.locals ∧ ¬ Triggered trace)
  | .ended _ =>
      (setting.CreatesAll ∧ Triggered trace) ∨ (¬ setting.CreatesAll ∧ ¬ Triggered trace)

private theorem triggered_nil : ¬ Triggered ([] : List (Event T)) := List.not_mem_nil

private theorem triggered_append {trace events : List (Event T)} :
    Triggered (trace ++ events) ↔ Triggered trace ∨ Triggered events := List.mem_append

private theorem triggered_singleton {event : Event T} :
    Triggered [event] ↔ event = .dropped .shutdownOnDrop := by
  rw [Triggered, List.mem_singleton, eq_comm]

private theorem step_stands (stands : Stands setting trace state)
    (transition : Transition library returns setting state action next events) :
    Stands setting (trace ++ events) next := by
  have silent {event : Event T} (other : event ≠ .dropped .shutdownOnDrop)
      (untriggered : ¬ Triggered trace) : ¬ Triggered (trace ++ [event]) := by
    rw [triggered_append, triggered_singleton]
    exact not_or.mpr ⟨untriggered, other⟩
  cases transition with
  | startsAlone => trivial
  | starts point =>
      rw [Stands, point] at stands
      refine ⟨Nat.le_refl 2, ?_, by simp, by rwa [List.append_nil]⟩
      intro index least below
      omega
  | creates index point inRange created =>
      rw [Stands, point] at stands
      obtain ⟨least, below, untaken, untriggered⟩ := stands
      refine ⟨Nat.le_succ_of_le least, ?_, untaken, silent (by simp) untriggered⟩
      intro other leastOther belowOther
      by_cases last : other = index
      · rw [last, created]
      · exact below other leastOther (by omega)
  | fails index point inRange failed =>
      rw [Stands, point] at stands
      obtain ⟨least, _, untaken, untriggered⟩ := stands
      refine .inr ⟨?_, untaken, silent (by simp) untriggered⟩
      intro all
      exact failed (all index least inRange)
  | guards index point past =>
      rw [Stands, point] at stands
      refine ⟨?_, by simp⟩
      intro other leastOther within
      exact stands.2.1 other leastOther (by omega)
  | mainEnds outcome point =>
      rw [Stands, point] at stands
      exact .inl ⟨stands.1, .inl stands.2⟩
  | drops outcome dropped rest point locals =>
      rw [Stands, point, locals] at stands
      simp only [Stands, point, triggered_append, triggered_singleton, Event.dropped.injEq]
      rcases stands with ⟨all, held | triggered⟩ | ⟨failed, untaken, untriggered⟩
      · rcases List.mem_cons.mp held with here | later
        · exact .inl ⟨all, .inr (.inr here.symm)⟩
        · exact .inl ⟨all, .inl later⟩
      · exact .inl ⟨all, .inr (.inl triggered)⟩
      · rw [List.mem_cons, not_or] at untaken
        exact .inr ⟨failed, untaken.2, not_or.mpr ⟨untriggered, fun same => untaken.1 same.symm⟩⟩
  | ends outcome point locals =>
      rw [Stands, point, locals] at stands
      rcases stands with ⟨all, held | triggered⟩ | ⟨failed, _, untriggered⟩
      · cases held
      · exact .inl ⟨all, triggered_append.mpr (.inl triggered)⟩
      · exact .inr ⟨failed, silent (by simp) untriggered⟩
  | workerStops worker =>
      unfold Stands at stands ⊢
      simp only [triggered_append, triggered_singleton, reduceCtorEq, or_false]
      exact stands
  | workerGoesOn => rwa [List.append_nil]

/-! ### The signals -/

private theorem ready_dropLocal (lawful : library.Lawful) (shared : S) (dropped : Local) :
    library.ready (dropLocal library shared dropped) = true ↔
      library.ready shared = true ∨ dropped = .shutdownOnDrop := by
  cases dropped with
  | executor => simp [dropLocal]
  | shutdown => simp [dropLocal, lawful.dropManager]
  | shutdownSignal => simp [dropLocal, lawful.dropSignal]
  | shutdownOnDrop => simp [dropLocal, lawful.dropToken]

private theorem step_ready (lawful : library.Lawful) (stands : Stands setting trace state)
    (ready : library.ready state.shared = true ↔ Triggered trace)
    (transition : Transition library returns setting state action next events) :
    library.ready next.shared = true ↔ Triggered (trace ++ events) := by
  rw [triggered_append, ← ready]
  cases transition with
  | starts point =>
      rw [Stands, point, ← ready] at stands
      simp [triggered_nil, lawful.wait, lawful.new, stands]
  | creates => simp [triggered_singleton, lawful.clone]
  | fails => simp [triggered_singleton, lawful.clone, lawful.dropSignal]
  | guards => simp [triggered_nil, lawful.token]
  | drops outcome dropped =>
      rw [ready_dropLocal lawful, triggered_singleton, Event.dropped.injEq]
  | ends => simp [triggered_singleton]
  | workerStops => simp [triggered_singleton, lawful.dropSignal]
  | startsAlone | mainEnds | workerGoesOn => simp [triggered_nil]

variable {guard : Guard (State S T) (Action T) (Event T)} {config : Config (State S T) (Event T)}

theorem stands_of_reaches
    (run : (machine library returns setting).Reaches guard (.initial (.new library)) config) :
    Stands setting config.trace config.state := by
  apply run.invariant (fun config => Stands setting config.trace config.state) (by
    simp [Config.initial, State.new, Stands, Triggered])
  intro before action next events _reached stands _allowed stepped
  exact step_stands stands (transition_of_step stepped)

theorem ready_of_reaches (lawful : library.Lawful)
    (run : (machine library returns setting).Reaches guard (.initial (.new library)) config) :
    library.ready config.state.shared = true ↔ Triggered config.trace := by
  apply run.invariant
    (fun config => library.ready config.state.shared = true ↔ Triggered config.trace) (by
      simp [Config.initial, State.new, Triggered, lawful.new])
  intro before action next events reached ready _allowed stepped
  exact step_ready lawful (stands_of_reaches reached) ready (transition_of_step stepped)

/-! ### Workers are dismissed unless one could not be created -/

/-- The shutdown is triggered, and each worker that still runs stops at its next poll. -/
structure Dismissed (library : AsyncShutdown S) (returns : Bool → Bool)
    (config : Config (State S T) (Event T)) : Prop where
  triggered : Triggered config.trace
  ready : library.ready config.state.shared = true
  stops : ∀ worker name, config.state.workers[worker]? = some ⟨name, .running⟩ →
    ∃ next events, pollWorker library returns config.state worker = some (next, events) ∧
      next.workers[worker]? = some ⟨name, .returned⟩

/-- `async_executor` returns from `run` when its future is ready. -/
theorem dismissed_of_triggered (lawful : library.Lawful) (stops : returns true = true)
    (run : (machine library returns setting).Reaches guard (.initial (.new library)) config)
    (triggered : Triggered config.trace) : Dismissed library returns config := by
  have ready := (ready_of_reaches lawful run).mpr triggered
  refine ⟨triggered, ready, ?_⟩
  intro worker name found
  have inRange := (List.getElem?_eq_some_iff.mp found).1
  refine ⟨{ config.state with
    shared := library.dropSignal config.state.shared
    workers := config.state.workers.set worker ⟨name, .returned⟩ }, [.workerReturned worker],
    ?_, List.getElem?_set_self inRange⟩
  simp only [pollWorker, found, ready, stops, if_true]

theorem workers_dismissed_iff {outcome : Outcome T} (lawful : library.Lawful)
    (stops : returns true = true)
    (run : (machine library returns setting).Reaches guard (.initial (.new library)) config)
    (ended : config.state.point = .ended outcome) :
    Dismissed library returns config ↔ setting.CreatesAll := by
  have stands := stands_of_reaches run
  rw [Stands, ended] at stands
  rcases stands with ⟨all, triggered⟩ | ⟨failed, untriggered⟩
  · exact iff_of_true (dismissed_of_triggered lawful stops run triggered) all
  · exact iff_of_false (fun dismissed => untriggered dismissed.triggered) failed

/-- One flag that the destructor of the token sets. -/
def shutdownFlag : AsyncShutdown Bool where
  new := false
  waitShutdownTriggered shared := shared
  cloneSignal shared := shared
  triggerShutdownToken shared := shared
  dropToken _ := true
  dropSignal shared := shared
  dropManager shared := shared
  ready shared := shared

theorem shutdownFlag_lawful : shutdownFlag.Lawful where
  new := rfl
  wait _ := rfl
  clone _ := rfl
  token _ := rfl
  dropToken _ := rfl
  dropSignal _ := rfl
  dropManager _ := rfl

/-- Two workers, a worker that polls too early, and a main future that panics. -/
def panics : List (Action Nat) :=
  [.start, .spawn, .spawn, .spawn, .pollWorker 1, .mainEnds .unwound, .leave, .leave, .leave,
    .leave, .leave, .pollWorker 0]

theorem workers_dismissed_iff_panicking :
    ∃ config, (machine shutdownFlag id ⟨⟨0⟩, some ⟨3, by decide⟩, fun _ => true⟩).exec .any
        (.initial (State.new shutdownFlag)) panics = some config ∧
      config.state.workers =
        [⟨"spawns-executor-2/3", .returned⟩, ⟨"spawns-executor-3/3", .running⟩] ∧
      (Dismissed shutdownFlag id config ↔
        Setting.CreatesAll ⟨⟨0⟩, some ⟨3, by decide⟩, fun _ => true⟩) := by
  obtain ⟨config, executed, workers, ended⟩ :
      ∃ config, (machine shutdownFlag id ⟨⟨0⟩, some ⟨3, by decide⟩, fun _ => true⟩).exec .any
          (.initial (State.new shutdownFlag)) panics = some config ∧
        config.state.workers =
          [⟨"spawns-executor-2/3", .returned⟩, ⟨"spawns-executor-3/3", .running⟩] ∧
        config.state.point = .ended .unwound := ⟨_, rfl, rfl, rfl⟩
  exact ⟨config, executed, workers,
    workers_dismissed_iff shutdownFlag_lawful rfl (reaches_of_exec panics executed) ended⟩

/-! ### A worker that could not be created -/

/-- The workers created before the one that fails never return. -/
theorem workers_run_on {outcome : Outcome T} {later : Config (State S T) (Event T)}
    (lawful : library.Lawful) (goesOn : returns false = false)
    (run : (machine library returns setting).Reaches guard (.initial (.new library)) config)
    (ended : config.state.point = .ended outcome) (failed : ¬ setting.CreatesAll)
    (continued : (machine library returns setting).Reaches guard config later) :
    later.state.point = .ended outcome ∧ later.state.workers = config.state.workers := by
  apply continued.invariant (fun later => later.state.point = .ended outcome ∧
    later.state.workers = config.state.workers) ⟨ended, rfl⟩
  intro before action next events reached kept _allowed stepped
  have whole := run.trans reached
  have stands := stands_of_reaches whole
  rw [Stands, kept.1] at stands
  have untriggered : ¬ Triggered before.trace := by
    rcases stands with ⟨all, _⟩ | ⟨_, untriggered⟩
    · exact absurd all failed
    · exact untriggered
  have unready : library.ready before.state.shared = false := by
    rw [← Bool.not_eq_true, ready_of_reaches lawful whole]
    exact untriggered
  cases transition_of_step stepped with
  | workerStops worker name found stops =>
      rw [unready, goesOn] at stops
      cases stops
  | workerGoesOn => exact kept
  | startsAlone point | starts point | creates _ point | fails _ point | guards _ point
  | mainEnds _ point | drops _ _ _ point | ends _ point =>
      rw [kept.1] at point
      cases point

def thirdFails : Setting := ⟨⟨4⟩, none, fun index => index ≠ 3⟩

/-- The second worker is started, the third is not, and the call unwinds. -/
def failsAtThird : List (Action Nat) :=
  [.start, .spawn, .spawn, .leave, .leave, .leave, .leave]

theorem worker_left_behind :
    ∃ config, (machine shutdownFlag id thirdFails).Reaches .any
        (.initial (State.new shutdownFlag : State Bool Nat)) config ∧
      config.state.point = .ended .unwound ∧
      config.state.workers = [⟨"spawns-executor-2/4", .running⟩] ∧
      ¬ Dismissed shutdownFlag id config := by
  obtain ⟨config, executed, ended, workers, unready⟩ :
      ∃ config, (machine shutdownFlag id thirdFails).exec .any
          (.initial (State.new shutdownFlag : State Bool Nat)) failsAtThird = some config ∧
        config.state.point = .ended .unwound ∧
        config.state.workers = [⟨"spawns-executor-2/4", .running⟩] ∧
        config.state.shared = false := ⟨_, rfl, rfl, rfl, rfl⟩
  refine ⟨config, reaches_of_exec failsAtThird executed, ended, workers, fun dismissed => ?_⟩
  have ready : config.state.shared = true := dismissed.ready
  rw [unready] at ready
  cases ready

end Blocking

end Spawns
