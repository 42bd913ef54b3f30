/-
Three cells of the standard library: an atomic one that remembers every value
stored in it, one that is written once, and one whose borrows are checked when
they are made. This file names no program, and the content may be of any type.

A load of the atomic cell under `latest` returns the current value. A load under
`anyStored` may return any value stored so far, which over-approximates relaxed
loads: it admits stale values and does not even require two loads to agree on order.
-/

import Mathlib.Data.Int.Basic
import Mathlib.Logic.Basic

namespace EventMachine

inductive Visibility where
  | latest
  | anyStored
  deriving DecidableEq, Repr

structure AtomicCell (α : Type) where
  current : α
  overwritten : List α
  deriving DecidableEq, Repr

namespace AtomicCell

variable {α : Type}

def new (value : α) : AtomicCell α := ⟨value, []⟩

def store (cell : AtomicCell α) (value : α) : AtomicCell α :=
  ⟨value, cell.current :: cell.overwritten⟩

def values (cell : AtomicCell α) : List α := cell.current :: cell.overwritten

def Readable (cell : AtomicCell α) : Visibility → α → Prop
  | .latest, value => value = cell.current
  | .anyStored, value => value ∈ cell.values

instance [DecidableEq α] (cell : AtomicCell α) (visibility : Visibility) (value : α) :
    Decidable (cell.Readable visibility value) :=
  match visibility with
  | .latest => inferInstanceAs (Decidable (value = cell.current))
  | .anyStored => inferInstanceAs (Decidable (value ∈ cell.values))

@[simp] theorem new_values (value : α) : (new value).values = [value] := rfl

@[simp] theorem store_values (cell : AtomicCell α) (value : α) :
    (cell.store value).values = value :: cell.values := rfl

theorem Readable.mem_values {cell : AtomicCell α} {visibility : Visibility} {value : α}
    (readable : cell.Readable visibility value) : value ∈ cell.values := by
  cases visibility with
  | latest =>
      change value = cell.current at readable
      rw [readable]
      exact List.mem_cons_self
  | anyStored => exact readable

theorem readable_current (cell : AtomicCell α) (visibility : Visibility) :
    cell.Readable visibility cell.current := by
  cases visibility with
  | latest => rfl
  | anyStored => exact List.mem_cons_self

end AtomicCell

end EventMachine

/-! ### A cell that is written once -/

structure OnceLock (α : Type) where
  stored : Option α
  deriving DecidableEq, Repr

namespace OnceLock

variable {α : Type}

def new : OnceLock α := ⟨none⟩

def get (lock : OnceLock α) : Option α := lock.stored

/-- The value that the lock holds afterwards, and the lock. -/
def getOrInit (lock : OnceLock α) (value : α) : α × OnceLock α :=
  match lock.stored with
  | some found => (found, lock)
  | none => (value, ⟨some value⟩)

@[simp] theorem get_new : (new : OnceLock α).get = none := rfl

theorem getOrInit_of_get {lock : OnceLock α} {found : α} (held : lock.get = some found)
    (value : α) : lock.getOrInit value = (found, lock) := by
  rw [get] at held
  rw [getOrInit, held]

theorem getOrInit_of_empty {lock : OnceLock α} (empty : lock.get = none) (value : α) :
    lock.getOrInit value = (value, ⟨some value⟩) := by
  rw [get] at empty
  rw [getOrInit, empty]

theorem get_getOrInit (lock : OnceLock α) (value : α) :
    (lock.getOrInit value).2.get = some (lock.getOrInit value).1 := by
  cases held : lock.get with
  | some found => rw [getOrInit_of_get held, held]
  | none => rw [getOrInit_of_empty held, get]

end OnceLock

/-! ### A cell whose borrows are checked -/

/-- `flag` counts the shared borrows that are out, or is -1 while the exclusive one is. -/
structure RefCell (α : Type) where
  value : α
  flag : Int
  deriving Repr

namespace RefCell

variable {α β : Type}

def new (value : α) : RefCell α := ⟨value, 0⟩

def borrow (cell : RefCell α) : Option (RefCell α) :=
  if 0 ≤ cell.flag then some { cell with flag := cell.flag + 1 } else none

def release (cell : RefCell α) : RefCell α := { cell with flag := cell.flag - 1 }

def borrowMut (cell : RefCell α) : Option (RefCell α) :=
  if cell.flag = 0 then some { cell with flag := -1 } else none

def releaseMut (cell : RefCell α) : RefCell α := { cell with flag := cell.flag + 1 }

/-- An exclusive borrow for an update that cannot reach the cell by itself. -/
def withBorrowMut (cell : RefCell α) (update : α → β × α) : Option (β × RefCell α) :=
  match cell.borrowMut with
  | some held =>
      some ((update held.value).1,
        releaseMut { held with value := (update held.value).2 })
  | none => none

@[simp] theorem release_flag (cell : RefCell α) : cell.release.flag = cell.flag - 1 := rfl

theorem borrow_shared {cell : RefCell α} (shared : 0 ≤ cell.flag) :
    cell.borrow = some { cell with flag := cell.flag + 1 } := by
  rw [borrow, if_pos shared]

theorem withBorrowMut_free {cell : RefCell α} (free : cell.flag = 0) (update : α → β × α) :
    cell.withBorrowMut update = some ((update cell.value).1, .new (update cell.value).2) := by
  simp only [withBorrowMut, borrowMut, free, if_true, releaseMut, new]
  rfl

theorem withBorrowMut_busy {cell : RefCell α} (busy : cell.flag ≠ 0) (update : α → β × α) :
    cell.withBorrowMut update = none := by
  simp only [withBorrowMut, borrowMut, if_neg busy]

end RefCell
