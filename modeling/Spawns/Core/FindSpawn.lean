/-
`find_spawn` from its shortcuts to the panic, and what it selects.

A detector is called at most once for each item, so its answer may as well be a
function of the item. The stepwise search of a spawn call, which stops at each
detector, ends with what this one returns.
-/

import Spawns.Core.FindGlobal

namespace Spawns.FindSpawn

variable {L F : Type}

def localAnswer? (detect : L → Option F) : Compat L F → Option F
  | .localFn detector => detect detector
  | _ => none

def findLocal (detect : L → Option F) (compats : List (Compat L F)) : Option F :=
  compats.findSome? (localAnswer? detect)

/-- The last `match` of `find_spawn`; an error is the message of a panic. -/
def unwrapFound : Except Failure F → Except String (Option F)
  | .ok spawn => .ok (some spawn)
  | .error .notFound => .ok none
  | .error .multipleGlobals => .error "multiple global spawners"

/-- `find_spawn` past its shortcuts, with `FOUND` as it is left. -/
def searchAll (panicMultiple : Bool) (compats : List (Compat L F)) (detect : L → Option F)
    (found : OnceLock (Except Failure F)) (envVar : EnvVar) :
    Except String (Option F) × OnceLock (Except Failure F) :=
  match findLocal detect compats with
  | some spawn => (.ok (some spawn), found)
  | none =>
      (unwrapFound (findGlobal panicMultiple compats found envVar).1,
        (findGlobal panicMultiple compats found envVar).2)

def findSpawn (panicMultiple : Bool) (compats : List (Compat L F)) (detect : L → Option F)
    (found : OnceLock (Except Failure F)) (envVar : EnvVar) :
    Except String (Option F) × OnceLock (Except Failure F) :=
  match compats with
  | [] => (.ok none, found)
  | [.namedGlobal _ spawn] => (.ok (some spawn), found)
  | [.global spawn] => (.ok (some spawn), found)
  | [.localFn detector] => (.ok (detect detector), found)
  | items => searchAll panicMultiple items detect found envVar

private theorem findSpawn_long (panicMultiple : Bool) (first second : Compat L F)
    (rest : List (Compat L F)) (detect : L → Option F) (found : OnceLock (Except Failure F))
    (envVar : EnvVar) :
    findSpawn panicMultiple (first :: second :: rest) detect found envVar =
      searchAll panicMultiple (first :: second :: rest) detect found envVar := by
  cases first <;> rfl

/-! ### What is selected -/

/-- A local spawner that answers, else the chosen global, else the last one,
named before unnamed; several globals are refused where the feature asks for it. -/
def selection (panicMultiple : Bool) (compats : List (Compat L F)) (detect : L → Option F)
    (envVar : EnvVar) : Except String (Option F) :=
  match (compats.filterMap (localAnswer? detect)).head? with
  | some spawn => .ok (some spawn)
  | none =>
      match (chosen envVar.toOption compats).head? with
      | some spawn => .ok (some spawn)
      | none =>
          if panicMultiple = true ∧ 2 ≤ globalCount compats then
            .error "multiple global spawners"
          else .ok ((named compats).getLast?.or (unnamed compats).getLast?)

private theorem unwrapFound_okOrNotFound (last : Option F) :
    unwrapFound (okOrNotFound last) = .ok last := by
  cases last <;> rfl

private theorem findGlobal_new (panicMultiple : Bool) (compats : List (Compat L F))
    (envVar : EnvVar) :
    (findGlobal panicMultiple compats .new envVar).1 =
      globalChoice panicMultiple compats envVar.toOption := by
  rw [findGlobal, OnceLock.get_new]
  exact pickGlobal_eq panicMultiple compats envVar.toOption

theorem searchAll_selects (panicMultiple : Bool) (compats : List (Compat L F))
    (detect : L → Option F) (envVar : EnvVar) :
    (searchAll panicMultiple compats detect .new envVar).1 =
      selection panicMultiple compats detect envVar := by
  rw [searchAll, selection, List.head?_filterMap, findLocal]
  cases compats.findSome? (localAnswer? detect) with
  | some spawn => rfl
  | none =>
      change unwrapFound (findGlobal panicMultiple compats .new envVar).1 = _
      rw [findGlobal_new, globalChoice]
      cases (chosen envVar.toOption compats).head? with
      | some spawn => rfl
      | none =>
          change unwrapFound (if panicMultiple = true ∧ 2 ≤ globalCount compats then
            .error .multipleGlobals else okOrNotFound _) = ite _ _ _
          by_cases many : panicMultiple = true ∧ 2 ≤ globalCount compats
          · rw [if_pos many, if_pos many]
            rfl
          · rw [if_neg many, if_neg many]
            exact unwrapFound_okOrNotFound _

private theorem globalCount_single (item : Compat L F) : globalCount [item] < 2 := by
  cases item with
  | localFn => exact Nat.zero_lt_two
  | global | namedGlobal => exact Nat.one_lt_two

theorem selection_single (panicMultiple : Bool) (item : Compat L F) (detect : L → Option F)
    (envVar : EnvVar) (unchosen : chosen envVar.toOption [item] = [])
    (silent : localAnswer? detect item = none) :
    selection panicMultiple [item] detect envVar =
      .ok ((named [item]).getLast?.or (unnamed [item]).getLast?) := by
  have few : ¬ (panicMultiple = true ∧ 2 ≤ globalCount [item]) := by
    rintro ⟨_, many⟩
    exact absurd (globalCount_single item) (Nat.not_lt.mpr many)
  rw [selection, unchosen, List.filterMap_cons, silent, if_neg few]
  rfl

theorem selection_named (panicMultiple : Bool) (name : String) (spawn : F)
    (detect : L → Option F) (envVar : EnvVar) :
    selection panicMultiple [.namedGlobal name spawn] detect envVar = .ok (some spawn) := by
  by_cases same : envVar.toOption = some name
  · simp [selection, localAnswer?, Compat.chosen?, same]
  · exact selection_single panicMultiple _ detect envVar (by simp [Compat.chosen?, same]) rfl

theorem selection_local (panicMultiple : Bool) (detector : L) (detect : L → Option F)
    (envVar : EnvVar) :
    selection panicMultiple [.localFn detector] detect envVar = .ok (detect detector) := by
  cases answer : detect detector with
  | some spawn => simp [selection, localAnswer?, answer]
  | none => exact selection_single panicMultiple _ detect envVar rfl answer

/-- The first `find_spawn` of a process selects as documented, and so does its
general path on the lists that take a shortcut. -/
theorem find_spawn_selects (panicMultiple : Bool) (compats : List (Compat L F))
    (detect : L → Option F) (envVar : EnvVar) :
    (findSpawn panicMultiple compats detect .new envVar).1 =
        selection panicMultiple compats detect envVar ∧
      (searchAll panicMultiple compats detect .new envVar).1 =
        selection panicMultiple compats detect envVar := by
  refine ⟨?_, searchAll_selects panicMultiple compats detect envVar⟩
  match compats with
  | [] => simp [findSpawn, selection, globalCount]
  | [.namedGlobal name spawn] =>
      exact (selection_named panicMultiple name spawn detect envVar).symm
  | [.global spawn] =>
      exact (selection_single panicMultiple (.global spawn) detect envVar rfl rfl).symm
  | [.localFn detector] =>
      exact (selection_local panicMultiple detector detect envVar).symm
  | first :: second :: rest =>
      rw [findSpawn_long]
      exact searchAll_selects panicMultiple (first :: second :: rest) detect envVar

/-! ### The stepwise search -/

/-- How the stepwise search goes on when each detector returns its answer. -/
inductive Settles (compats : List (Compat L F)) (global : Except Failure F)
    (detect : L → Option F) : Search L F → Except Failure F → Prop where
  | settled (found : Except Failure F) : Settles compats global detect (.settled found) found
  | detected {detector : L} {rest : List (Compat L F)} {found : Except Failure F}
      (goesOn : Settles compats global detect
        (findSpawnAfter compats rest global (detect detector)) found) :
      Settles compats global detect (.detect detector rest) found

/-- `.ok_or(Failure::NotFound).or_else(|_| find_global())` -/
def orElse (global : Except Failure F) : Option F → Except Failure F
  | some spawn => .ok spawn
  | none => global

private theorem settles_findLocal (compats : List (Compat L F)) (global : Except Failure F)
    (detect : L → Option F) (items : List (Compat L F)) (many : compats.length ≠ 1) :
    Settles compats global detect (Spawns.findLocal global items)
      (orElse global (findLocal detect items)) := by
  induction items with
  | nil => exact .settled global
  | cons item rest ih =>
      cases item with
      | namedGlobal name spawn => exact ih
      | global spawn => exact ih
      | localFn detector =>
          apply Settles.detected
          rw [findLocal, List.findSome?_cons, localAnswer?]
          cases detect detector with
          | some spawn => exact .settled (.ok spawn)
          | none =>
              rw [findSpawnAfter, if_neg many]
              exact ih

/-- A spawn call that asks `find_global` where it is reached ends its search with
what `find_spawn` returns. -/
theorem stepwise_search_agrees (panicMultiple : Bool) (compats : List (Compat L F))
    (detect : L → Option F) (found : OnceLock (Except Failure F)) (envVar : EnvVar) :
    ∃ result, Settles compats (findGlobal panicMultiple compats found envVar).1 detect
        (Spawns.findSpawn compats (findGlobal panicMultiple compats found envVar).1) result ∧
      unwrapFound result = (findSpawn panicMultiple compats detect found envVar).1 := by
  match compats with
  | [] => exact ⟨_, .settled _, rfl⟩
  | [.namedGlobal name spawn] => exact ⟨_, .settled _, rfl⟩
  | [.global spawn] => exact ⟨_, .settled _, rfl⟩
  | [.localFn detector] =>
      refine ⟨okOrNotFound (detect detector), .detected ?_, unwrapFound_okOrNotFound _⟩
      cases detect detector <;> exact .settled _
  | first :: second :: rest =>
      have general : Spawns.findSpawn (first :: second :: rest)
          (findGlobal panicMultiple (first :: second :: rest) found envVar).1 =
          Spawns.findLocal (findGlobal panicMultiple (first :: second :: rest) found envVar).1
            (first :: second :: rest) := by
        cases first <;> rfl
      rw [general, findSpawn_long, searchAll]
      refine ⟨_, settles_findLocal (first :: second :: rest) _ detect _ (by simp), ?_⟩
      cases findLocal detect (first :: second :: rest) <;> rfl

end Spawns.FindSpawn
