/-
A heap of boxes reached through raw pointers.

A pointer carries the token of the allocation it was made from. Comparing
pointers sees addresses only, and an address may be reused; an access is valid
when the box at the address is still the one the pointer was made from.
-/

import Mathlib.Logic.Function.Basic
import Mathlib.Data.List.Basic

namespace BoxHeap

structure Pointer where
  address : Nat
  token : Nat
  deriving DecidableEq, Repr

structure Box (ω : Type) where
  token : Nat
  content : ω

abbrev Heap (ω : Type) := Nat → Option (Box ω)

namespace Heap

variable {ω : Type}

def empty : Heap ω := fun _ => none

def read (heap : Heap ω) (pointer : Pointer) : Option ω :=
  match heap pointer.address with
  | some box => if box.token = pointer.token then some box.content else none
  | none => none

def put (heap : Heap ω) (pointer : Pointer) (content : ω) : Heap ω :=
  Function.update heap pointer.address (some ⟨pointer.token, content⟩)

def free (heap : Heap ω) (pointer : Pointer) : Heap ω :=
  Function.update heap pointer.address none

def Live (heap : Heap ω) (pointer : Pointer) : Prop := ∃ content, heap.read pointer = some content

theorem read_at {heap : Heap ω} {pointer : Pointer} {content : ω}
    (found : heap.read pointer = some content) :
    heap pointer.address = some ⟨pointer.token, content⟩ := by
  unfold read at found
  split at found
  · rename_i box present
    split at found
    · rename_i same
      rw [present, ← same, ← Option.some.inj found]
    · cases found
  · cases found

theorem Live.eq_of_address {heap : Heap ω} {first second : Pointer} (live : heap.Live first)
    (other : heap.Live second) (same : first.address = second.address) : first = second := by
  obtain ⟨content, found⟩ := live
  obtain ⟨shared, again⟩ := other
  have atFirst := read_at found
  have atSecond := read_at again
  rw [same, atSecond, Option.some.injEq, Box.mk.injEq] at atFirst
  obtain ⟨address, token⟩ := first
  obtain ⟨address', token'⟩ := second
  simp_all

theorem Live.address_ne_of_free {heap : Heap ω} {pointer : Pointer} {address : Nat}
    (live : heap.Live pointer) (unused : heap address = none) : pointer.address ≠ address := by
  intro same
  obtain ⟨content, found⟩ := live
  have present := read_at found
  rw [same, unused] at present
  cases present

@[simp] theorem read_put (heap : Heap ω) (pointer : Pointer) (content : ω) :
    (heap.put pointer content).read pointer = some content := by
  simp [read, put]

theorem read_put_of_address_ne {heap : Heap ω} {pointer other : Pointer} (content : ω)
    (apart : other.address ≠ pointer.address) :
    (heap.put pointer content).read other = heap.read other := by
  simp [read, put, Function.update_of_ne apart]

theorem read_free_of_address_ne {heap : Heap ω} {pointer other : Pointer}
    (apart : other.address ≠ pointer.address) :
    (heap.free pointer).read other = heap.read other := by
  simp [read, free, Function.update_of_ne apart]

theorem read_put_of_live {heap : Heap ω} {pointer other : Pointer} (content : ω)
    (live : heap.Live pointer) (alive : heap.Live other) (apart : other ≠ pointer) :
    (heap.put pointer content).read other = heap.read other :=
  read_put_of_address_ne content fun same => apart (alive.eq_of_address live same)

theorem read_free_of_live {heap : Heap ω} {pointer other : Pointer}
    (live : heap.Live pointer) (alive : heap.Live other) (apart : other ≠ pointer) :
    (heap.free pointer).read other = heap.read other :=
  read_free_of_address_ne fun same => apart (alive.eq_of_address live same)

theorem Live.put {heap : Heap ω} {pointer other : Pointer} (content : ω)
    (live : heap.Live pointer) (alive : heap.Live other) :
    (heap.put pointer content).Live other := by
  by_cases same : other = pointer
  · rw [same]
    exact ⟨content, read_put _ _ _⟩
  · obtain ⟨kept, found⟩ := alive
    exact ⟨kept, by rw [read_put_of_live content live ⟨kept, found⟩ same, found]⟩

theorem Live.put_fresh {heap : Heap ω} {pointer other : Pointer} (content : ω)
    (unused : heap pointer.address = none) (alive : heap.Live other) :
    (heap.put pointer content).Live other := by
  obtain ⟨kept, found⟩ := alive
  have apart := Live.address_ne_of_free ⟨kept, found⟩ unused
  exact ⟨kept, by rw [read_put_of_address_ne content apart, found]⟩

theorem Live.free {heap : Heap ω} {pointer other : Pointer} (live : heap.Live pointer)
    (alive : heap.Live other) (apart : other ≠ pointer) : (heap.free pointer).Live other := by
  obtain ⟨kept, found⟩ := alive
  exact ⟨kept, by rw [read_free_of_live live ⟨kept, found⟩ apart, found]⟩

end Heap

/-! ### Places that own pointers -/

/-- How many of the pointers are to the box with this token. -/
def holds (token : Nat) (pointers : List Pointer) : Nat :=
  pointers.countP fun pointer => pointer.token == token

@[simp] theorem holds_nil (token : Nat) : holds token [] = 0 := rfl

@[simp] theorem holds_cons (token : Nat) (pointer : Pointer) (pointers : List Pointer) :
    holds token (pointer :: pointers) =
      holds token pointers + if pointer.token = token then 1 else 0 := by
  simp [holds, List.countP_cons]

@[simp] theorem holds_append (token : Nat) (first second : List Pointer) :
    holds token (first ++ second) = holds token first + holds token second :=
  List.countP_append

theorem holds_pos {pointer : Pointer} {pointers : List Pointer} (member : pointer ∈ pointers) :
    0 < holds pointer.token pointers :=
  List.countP_pos_iff.mpr ⟨pointer, member, by simp⟩

section Places

variable {α : Type} (held : α → List Pointer)

theorem holds_set {places : List α} {index : Nat} {old : α} (token : Nat) (new : α)
    (found : places[index]? = some old) :
    holds token ((places.set index new).flatMap held) + holds token (held old) =
      holds token (places.flatMap held) + holds token (held new) := by
  induction places generalizing index with
  | nil => simp at found
  | cons head rest ih =>
      cases index with
      | zero =>
          simp only [List.getElem?_cons_zero, Option.some.injEq] at found
          simp only [List.set_cons_zero, List.flatMap_cons, holds_append, found]
          omega
      | succ index =>
          simp only [List.getElem?_cons_succ] at found
          have rest := ih found
          simp only [List.set_cons_succ, List.flatMap_cons, holds_append]
          omega

theorem mem_held_of_set {places : List α} {index : Nat} {new : α} {pointer : Pointer}
    (member : pointer ∈ (places.set index new).flatMap held) :
    pointer ∈ places.flatMap held ∨ pointer ∈ held new := by
  obtain ⟨place, present, holding⟩ := List.mem_flatMap.mp member
  rcases List.mem_or_eq_of_mem_set present with old | rfl
  · exact .inl (List.mem_flatMap.mpr ⟨place, old, holding⟩)
  · exact .inr holding

theorem mem_held_of_getElem? {places : List α} {index : Nat} {place : α} {pointer : Pointer}
    (found : places[index]? = some place) (holding : pointer ∈ held place) :
    pointer ∈ places.flatMap held :=
  List.mem_flatMap.mpr ⟨place, List.mem_of_getElem? found, holding⟩

end Places

end BoxHeap
