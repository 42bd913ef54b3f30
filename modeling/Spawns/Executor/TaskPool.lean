/-
What a pool of futures sees of the tasks that are spawned on it, and what the
promises of the pool mean for them.
-/

import Spawns.Executor.Tasks
import Spawns.Foundation.FuturePool

namespace Spawns

open EventMachine PoolEvent

namespace Tasks

variable {T P : Type}

/-- The calls of the pool on its futures, and its users' on the pool. -/
def poolEvent? : Event T P → Option PoolEvent
  | .created _ => some .spawned
  | .member index (.inl (.pollStarted _)) => some (.polled index)
  | .member index (.inl (.pollReturned answer)) =>
      some (.answered index (decide (answer ≠ .pending)))
  | .member index (.inl (.dropBegan _)) => some (.dropped index)
  | _ => none

abbrev history (trace : List (Event T P)) : List PoolEvent := observe poolEvent? trace

private theorem spawnCount_history (trace : List (Event T P)) :
    spawnCount (history trace) = (seeds trace).length := by
  induction trace with
  | nil => rfl
  | cons event rest ih =>
      have count (events : List PoolEvent) : spawnCount (events ++ history rest) =
          spawnCount events + (seeds rest).length := by
        rw [← ih]
        exact List.count_append
      rw [history, seeds, observe_cons, observe_cons, count, List.length_append]
      cases event with
      | created => rfl
      | member index shown =>
          rcases shown with shown | shown
          · cases shown <;> rfl
          · rfl

private theorem mem_history_answered {index : Nat} {done : Bool} {trace : List (Event T P)}
    (answered : .answered index done ∈ history trace) :
    ∃ answer, .pollReturned answer ∈ taskTrace index trace ∧ done = decide (answer ≠ .pending) := by
  obtain ⟨event, member, shows⟩ := (mem_observe _).mp answered
  cases event with
  | created => cases shows
  | member owner shown =>
      rcases shown with shown | shown
      · cases shown with
        | pollReturned answer =>
            simp only [poolEvent?, Option.some.injEq, PoolEvent.answered.injEq] at shows
            obtain ⟨rfl, same⟩ := shows
            exact ⟨answer, mem_taskTrace.mpr member, same.symm⟩
        | _ => cases shows
      · cases shows

private theorem mem_history_dropped {index : Nat} {trace : List (Event T P)} :
    .dropped index ∈ history trace ↔
      ∃ unfinished, .dropBegan unfinished ∈ taskTrace index trace := by
  constructor
  · intro dropped
    obtain ⟨event, member, shows⟩ := (mem_observe _).mp dropped
    cases event with
    | created => cases shows
    | member owner shown =>
        rcases shown with shown | shown
        · cases shown with
          | dropBegan unfinished =>
              simp only [poolEvent?, Option.some.injEq, PoolEvent.dropped.injEq] at shows
              exact ⟨unfinished, mem_taskTrace.mpr (shows ▸ member)⟩
          | _ => cases shows
        · cases shows
  · rintro ⟨unfinished, member⟩
    exact (mem_observe _).mpr ⟨_, mem_taskTrace.mp member, rfl⟩

variable {visibility : Visibility} {guard : Guard (State T P) (Action T P) (Event T P)}
  {config : Config (State T P) (Event T P)} {pool : FuturePool} {index : Nat}
  {task : TaskJoin.State Party Party T P}

private theorem length_eq_spawnCount
    (run : (machine visibility).Reaches guard (.initial []) config) :
    spawnCount (history config.trace) = config.state.length := by
  have grown : Grown (TaskJoin.machine visibility) TaskJoin.State.new .any config :=
    grown_of_reaches run fun _ _ _ _ _ _ => trivial
  rw [spawnCount_history, grown.seeded]

/-- A pool that keeps its promise drops no task that is not done. -/
private theorem gone_of_drops (lawful : pool.Lawful)
    (run : (machine visibility).Reaches guard (.initial []) config)
    (found : config.state[index]? = some task)
    (drops : pool.drops false (history config.trace) index = true) :
    task.1.hasFuture = false := by
  obtain ⟨answer, answered, same⟩ := mem_history_answered (lawful.keeps _ _ drops)
  obtain ⟨id, _, reached⟩ := member_reaches run found
  exact (TaskFuture.progress_of_reaches (TaskJoin.task_reaches reached)).gone_of_answered answered
    (of_decide_eq_true same.symm)

/-- No step of the tasks drops one that is not done, if the pool is asked before. -/
theorem undropped_of_step {own : Action T P} {moved : State T P} {shown : List (Event T P)}
    (lawful : pool.Lawful) (run : (machine visibility).Reaches guard (.initial []) config)
    (step : FamilyStep (TaskJoin.machine visibility) TaskJoin.State.new config.state own moved
      shown)
    (asked : own = .member index (.left .drop) → index < config.state.length →
      pool.drops false (history config.trace) index = true) :
    .dropBegan true ∉ taskTrace index shown := by
  intro began
  cases step.at index with
  | rests _ _ silent | born _ _ _ silent =>
      rw [taskTrace, silent] at began
      cases began
  | moves act before after found _ moves =>
      obtain ⟨rfl, unfinished⟩ := TaskJoin.step_dropBegan moves began
      have inRange := (List.getElem?_eq_some_iff.mp found).1
      have gone := gone_of_drops lawful run found (asked rfl inRange)
      rw [unfinished] at gone
      cases gone

private theorem inDrop_iff (run : (machine visibility).Reaches guard (.initial []) config)
    (found : config.state[index]? = some task) :
    task.1.point.InDrop ↔ .dropped index ∈ history config.trace := by
  obtain ⟨id, _, reached⟩ := member_reaches run found
  rw [mem_history_dropped]
  exact TaskFuture.inDrop_iff (TaskJoin.task_reaches reached)

/-- Between calls, what is in the pool waits and what is not has been dropped. -/
private theorem left_iff (run : (machine visibility).Reaches guard (.initial []) config)
    (rests : isBusy task = false) (found : config.state[index]? = some task) :
    Left (history config.trace) index ↔ task.1.point = .idle := by
  have inRange := (List.getElem?_eq_some_iff.mp found).1
  rw [Left, length_eq_spawnCount run, ← inDrop_iff run found]
  rcases idle_or_dropped rests with idle | dropped
  · simp [idle, inRange, TaskFuture.Point.InDrop]
  · simp [dropped, TaskFuture.Point.InDrop]

theorem allDropped_of_empty (run : (machine visibility).Reaches guard (.initial []) config)
    (rest : busy config.state = 0) (empty : ∀ future, ¬ Left (history config.trace) future) :
    AllDropped config.state := by
  intro index task found
  have rests := busy_eq_zero.mp rest index task found
  rcases idle_or_dropped rests with idle | dropped
  · exact absurd ((left_iff run rests found).mpr idle) (empty index)
  · exact dropped

/-- While a pool with tasks in it is destroyed, it drops one of them. -/
theorem exists_drop (lawful : pool.Lawful)
    (run : (machine visibility).Reaches guard (.initial []) config)
    (rest : busy config.state = 0) (some : ∃ future, Left (history config.trace) future) :
    ∃ index task, config.state[index]? = .some task ∧ task.1.point = .idle ∧
      pool.drops true (history config.trace) index = true := by
  obtain ⟨index, left, drops⟩ := lawful.clears _ some
  have inRange : index < config.state.length := length_eq_spawnCount run ▸ left.1
  have found : config.state[index]? = .some config.state[index] := List.getElem?_eq_getElem inRange
  exact ⟨index, _, found, (left_iff run (busy_eq_zero.mp rest _ _ found) found).mp left, drops⟩

end Tasks

end Spawns
