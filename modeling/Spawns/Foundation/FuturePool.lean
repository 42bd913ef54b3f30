/-
A pool of futures, as whoever spawns on it and whoever owns it can see it.

What has passed between a pool and its futures is a history, and a pool is a
strategy on histories: which of its futures it may poll or drop next. What pools
promise is `Lawful`. This file names no program and no pool.
-/

import Mathlib.Data.List.Basic

/-- Futures are numbered as they are spawned. A poll is `done` unless it is pending. -/
inductive PoolEvent where
  | spawned
  | polled (future : Nat)
  | answered (future : Nat) (done : Bool)
  | dropped (future : Nat)
  deriving DecidableEq, Repr

namespace PoolEvent

def spawnCount (history : List PoolEvent) : Nat := history.count .spawned

def Left (history : List PoolEvent) (future : Nat) : Prop :=
  future < spawnCount history ∧ .dropped future ∉ history

instance (history : List PoolEvent) (future : Nat) : Decidable (Left history future) :=
  inferInstanceAs (Decidable (_ ∧ _))

def isEmpty (history : List PoolEvent) : Bool :=
  (List.range (spawnCount history)).all fun future => decide (.dropped future ∈ history)

theorem isEmpty_iff {history : List PoolEvent} :
    isEmpty history = true ↔ ∀ future, ¬ Left history future := by
  simp only [isEmpty, List.all_eq_true, List.mem_range, decide_eq_true_eq, Left, not_and,
    not_not]

end PoolEvent

open PoolEvent

/-- `closing` is while the destructor of the pool runs. -/
structure FuturePool where
  polls (closing : Bool) (history : List PoolEvent) (future : Nat) : Bool
  drops (closing : Bool) (history : List PoolEvent) (future : Nat) : Bool

/-- A future stays until a poll of it is done, and the destructor drops what is left. -/
structure FuturePool.Lawful (pool : FuturePool) : Prop where
  keeps : ∀ history future, pool.drops false history future = true →
    .answered future true ∈ history
  clears : ∀ history, (∃ future, Left history future) →
    ∃ future, Left history future ∧ pool.drops true history future = true

namespace FuturePool

/-- It may poll at will, and drops in any order what it may drop at all. -/
def eager : FuturePool where
  polls _ _ _ := true
  drops closing history future := closing || decide (.answered future true ∈ history)

theorem eager_lawful : eager.Lawful where
  keeps history future drops := by
    simpa only [eager, Bool.false_or, decide_eq_true_eq] using drops
  clears history some := by
    obtain ⟨future, left⟩ := some
    exact ⟨future, left, rfl⟩

end FuturePool
