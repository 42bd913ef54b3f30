/-
`COMPATS`, the search of `find_spawn` through it up to the next call of a local
detector, and `pick_global`.

`pick_global` scans the items for a name, keeps account of the other globals on
its way and chooses from that account. The scan stops at the name, counts what it
has passed and remembers the last named and the last unnamed item, so its account
depends on the order of the list. With the check for multiple globals the choice
does not.
-/

import Mathlib.Data.List.Perm.Basic

namespace Spawns

/-- An item of `COMPATS`: `F` is `fn(Task)` and `L` is `fn() -> Option<fn(Task)>`. -/
inductive Compat (L F : Type) where
  | namedGlobal (name : String) (spawn : F)
  | global (spawn : F)
  | localFn (detect : L)
  deriving DecidableEq, Repr

inductive Failure where
  | notFound
  | multipleGlobals
  deriving DecidableEq, Repr

/-- A search that calls a detector, with the items left after it, or is over. -/
inductive Search (L F : Type) where
  | detect (detector : L) (rest : List (Compat L F))
  | settled (found : Except Failure F)

variable {L F : Type}

/-- `find_local` up to the next detector; `orElse` is what follows without an answer. -/
def findLocal (orElse : Except Failure F) : List (Compat L F) → Search L F
  | [] => .settled orElse
  | .localFn detect :: rest => .detect detect rest
  | .namedGlobal _ _ :: rest => findLocal orElse rest
  | .global _ :: rest => findLocal orElse rest

def findSpawn (compats : List (Compat L F)) (findGlobal : Except Failure F) : Search L F :=
  match compats with
  | [] => .settled (.error .notFound)
  | [.namedGlobal _ spawn] => .settled (.ok spawn)
  | [.global spawn] => .settled (.ok spawn)
  | [.localFn detect] => .detect detect []
  | items => findLocal findGlobal items

/-- `find_spawn` after the answer of a detector; a single item has no fallback. -/
def findSpawnAfter (compats rest : List (Compat L F)) (findGlobal : Except Failure F)
    (answer : Option F) : Search L F :=
  match answer with
  | some spawn => .settled (.ok spawn)
  | none => findLocal (if compats.length = 1 then .error .notFound else findGlobal) rest

/-! ### The scan -/

/-- The variables that the closure of `find_map` mutates. `globals` is an `i32`
in the source, counting the items of a linked slice. -/
structure Globals (F : Type) where
  globals : Nat
  lastNamed : Option F
  lastUnnamed : Option F
  deriving DecidableEq, Repr

def Globals.none : Globals F := ⟨0, .none, .none⟩

/-- `COMPATS.iter().find_map(..)`, with the variables as the scan leaves them. -/
def scan (choose : Option String) : List (Compat L F) → Globals F → Option F × Globals F
  | [], seen => (none, seen)
  | .localFn _ :: rest, seen => scan choose rest seen
  | .global spawn :: rest, seen =>
      scan choose rest { seen with globals := seen.globals + 1, lastUnnamed := some spawn }
  | .namedGlobal name spawn :: rest, seen =>
      if choose = some name then (some spawn, seen)
      else scan choose rest { seen with globals := seen.globals + 1, lastNamed := some spawn }

/-- `.ok_or(Failure::NotFound).copied()` -/
def okOrNotFound : Option F → Except Failure F
  | some spawn => .ok spawn
  | none => .error .notFound

/-- `pick_global`; `panicMultiple` is the feature `panic-multiple-global-spawners`. -/
def pickGlobal (panicMultiple : Bool) (compats : List (Compat L F)) (choose : Option String) :
    Except Failure F :=
  match scan choose compats .none with
  | (some spawn, _) => .ok spawn
  | (none, seen) =>
      if panicMultiple && decide (1 < seen.globals) then .error .multipleGlobals
      else okOrNotFound (seen.lastNamed.or seen.lastUnnamed)

/-! ### The items a scan looks for -/

def Compat.chosen? (choose : Option String) : Compat L F → Option F
  | .namedGlobal name spawn => if choose = some name then some spawn else none
  | _ => none

def Compat.named? : Compat L F → Option F
  | .namedGlobal _ spawn => some spawn
  | _ => none

def Compat.unnamed? : Compat L F → Option F
  | .global spawn => some spawn
  | _ => none

abbrev chosen (choose : Option String) (compats : List (Compat L F)) : List F :=
  compats.filterMap (Compat.chosen? choose)

abbrev named (compats : List (Compat L F)) : List F := compats.filterMap Compat.named?

abbrev unnamed (compats : List (Compat L F)) : List F := compats.filterMap Compat.unnamed?

abbrev globalCount (compats : List (Compat L F)) : Nat :=
  (named compats).length + (unnamed compats).length

private theorem getLast?_cons_or (head : F) (rest : List F) (before : Option F) :
    (head :: rest).getLast?.or before = rest.getLast?.or (some head) := by
  rw [List.getLast?_cons, Option.some_or]
  cases rest.getLast? <;> rfl

variable {choose : Option String}

private theorem scan_found (compats : List (Compat L F)) (seen : Globals F) :
    (scan choose compats seen).1 = (chosen choose compats).head? := by
  induction compats generalizing seen with
  | nil => rfl
  | cons item rest ih =>
      cases item with
      | localFn detect => exact ih _
      | global spawn => exact ih _
      | namedGlobal name spawn =>
          rw [scan, chosen, List.filterMap_cons, Compat.chosen?]
          by_cases same : choose = some name
          · rw [if_pos same, if_pos same]
            rfl
          · rw [if_neg same, if_neg same]
            exact ih _

private theorem scan_account (compats : List (Compat L F)) (seen : Globals F)
    (missing : chosen choose compats = []) :
    (scan choose compats seen).2 =
      { globals := seen.globals + globalCount compats
        lastNamed := (named compats).getLast?.or seen.lastNamed
        lastUnnamed := (unnamed compats).getLast?.or seen.lastUnnamed } := by
  induction compats generalizing seen with
  | nil => rfl
  | cons item rest ih =>
      cases item with
      | localFn detect => exact ih seen missing
      | global spawn =>
          rw [scan, ih _ missing]
          have named_eq : named (.global spawn :: rest : List (Compat L F)) = named rest := rfl
          have unnamed_eq : unnamed (.global spawn :: rest : List (Compat L F)) =
            spawn :: unnamed rest := rfl
          rw [globalCount, globalCount, named_eq, unnamed_eq, getLast?_cons_or, List.length_cons]
          congr 1
          dsimp only
          omega
      | namedGlobal name spawn =>
          have other : choose ≠ some name := by
            intro same
            rw [chosen, List.filterMap_cons, Compat.chosen?, if_pos same] at missing
            cases missing
          have missingRest : chosen choose rest = [] := by
            rw [chosen, List.filterMap_cons, Compat.chosen?, if_neg other] at missing
            exact missing
          rw [scan, if_neg other, ih _ missingRest]
          have named_eq : named (.namedGlobal name spawn :: rest : List (Compat L F)) =
            spawn :: named rest := rfl
          have unnamed_eq : unnamed (.namedGlobal name spawn :: rest : List (Compat L F)) =
            unnamed rest := rfl
          rw [globalCount, globalCount, named_eq, unnamed_eq, getLast?_cons_or, List.length_cons]
          congr 1
          dsimp only
          omega

/-! ### The choice -/

/-- The choice, with nothing left of the scan. -/
def globalChoice (panicMultiple : Bool) (compats : List (Compat L F)) (choose : Option String) :
    Except Failure F :=
  match (chosen choose compats).head? with
  | some spawn => .ok spawn
  | none =>
      if panicMultiple = true ∧ 2 ≤ globalCount compats then .error .multipleGlobals
      else okOrNotFound ((named compats).getLast?.or (unnamed compats).getLast?)

theorem pickGlobal_eq (panicMultiple : Bool) (compats : List (Compat L F))
    (choose : Option String) :
    pickGlobal panicMultiple compats choose = globalChoice panicMultiple compats choose := by
  have found : (scan choose compats .none).1 = (chosen choose compats).head? :=
    scan_found compats .none
  rw [pickGlobal, globalChoice, ← found]
  cases scanned : scan choose compats .none with
  | mk first seen =>
      cases first with
      | some spawn => rfl
      | none =>
          have missing : chosen choose compats = [] := by
            rw [scanned] at found
            exact List.head?_eq_none_iff.mp found.symm
          have account := scan_account compats .none missing
          rw [scanned] at account
          simp only [Globals.none, Nat.zero_add, Option.or_none] at account
          simp only [account, Bool.and_eq_true, decide_eq_true_eq]
          rfl

/-! ### The order of the list -/

private theorem eq_of_perm_of_length_le_one {items others : List F} (reordered : items.Perm others)
    (short : items.length ≤ 1) : items = others := by
  cases items with
  | nil => exact reordered.nil_eq
  | cons head rest =>
      have alone : rest = [] := List.eq_nil_of_length_eq_zero (by simpa using short)
      subst alone
      exact (List.perm_singleton.mp reordered.symm).symm

/-- With the check for multiple globals, the choice does not depend on the order
in which the items are linked. -/
theorem pickGlobal_ignores_order {compats reordered : List (Compat L F)}
    {choose : Option String} (permuted : compats.Perm reordered)
    (unique : (chosen choose compats).length ≤ 1) :
    pickGlobal true compats choose = pickGlobal true reordered choose := by
  have sameChosen : chosen choose compats = chosen choose reordered :=
    eq_of_perm_of_length_le_one (permuted.filterMap _) unique
  have namedPerm : (named compats).Perm (named reordered) := permuted.filterMap _
  have unnamedPerm : (unnamed compats).Perm (unnamed reordered) := permuted.filterMap _
  have sameCount : globalCount compats = globalCount reordered := by
    rw [globalCount, globalCount, namedPerm.length_eq, unnamedPerm.length_eq]
  rw [pickGlobal_eq, pickGlobal_eq, globalChoice, globalChoice, ← sameChosen, ← sameCount]
  cases (chosen choose compats).head? with
  | some spawn => rfl
  | none =>
      by_cases many : 2 ≤ globalCount compats
      · rw [if_pos ⟨rfl, many⟩, if_pos ⟨rfl, many⟩]
      · -- A single global is the last of its kind in any order.
        have few : (named compats).length + (unnamed compats).length < 2 := Nat.lt_of_not_le many
        have sameNamed : named compats = named reordered :=
          eq_of_perm_of_length_le_one namedPerm (by omega)
        have sameUnnamed : unnamed compats = unnamed reordered :=
          eq_of_perm_of_length_le_one unnamedPerm (by omega)
        rw [sameNamed, sameUnnamed]

theorem pickGlobal_ignores_order_reversed :
    pickGlobal true
        [.namedGlobal "tokio" 1, .localFn 7, .global 2, (.namedGlobal "smol" 3 : Compat Nat Nat)]
        (some "smol") =
      pickGlobal true
        [.namedGlobal "smol" 3, .global 2, .localFn 7, (.namedGlobal "tokio" 1 : Compat Nat Nat)]
        (some "smol") :=
  pickGlobal_ignores_order (List.reverse_perm _).symm (by decide)

end Spawns
