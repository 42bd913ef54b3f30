/-
Reading numerals back, in any base up to sixteen.

The digits are those of `Nat.toDigits`, lower case, most significant first.
Leading zeros are read like any digit, so a numeral is determined by its value and
its length.

This file names no program.
-/

import Mathlib.Algebra.Group.Nat.Defs
import Mathlib.Data.List.Basic

namespace Numeral

def digit? (base : Nat) (char : Char) : Option Nat :=
  (List.range base).find? fun digit => Nat.digitChar digit = char

def readAfter (base : Nat) : Nat → List Char → Option Nat
  | value, [] => some value
  | value, char :: rest =>
      match digit? base char with
      | some digit => readAfter base (base * value + digit) rest
      | none => none

/-- Reads a numeral; the empty one is zero. -/
def read (base : Nat) (digits : List Char) : Option Nat := readAfter base 0 digits

/-- Writes a numeral of at least `width` digits. -/
def write (base width value : Nat) : List Char :=
  List.replicate (width - (Nat.toDigits base value).length) '0' ++ Nat.toDigits base value

variable {base : Nat}

/-! ### Digits -/

theorem digitChar_inj {first second : Nat} (small : first < 16) (little : second < 16)
    (same : Nat.digitChar first = Nat.digitChar second) : first = second := by
  have all : ∀ left right : Fin 16,
      Nat.digitChar left = Nat.digitChar right → left = right := by decide
  exact congrArg Fin.val (all ⟨first, small⟩ ⟨second, little⟩ same)

theorem digit?_sound {char : Char} {digit : Nat} (found : digit? base char = some digit) :
    digit < base ∧ Nat.digitChar digit = char := by
  have member := List.mem_of_find?_eq_some found
  have same := List.find?_some found
  exact ⟨List.mem_range.mp member, of_decide_eq_true same⟩

theorem digit?_digitChar {digit : Nat} (few : base ≤ 16) (small : digit < base) :
    digit? base (Nat.digitChar digit) = some digit := by
  cases found : digit? base (Nat.digitChar digit) with
  | none =>
      have differs := List.find?_eq_none.mp found digit (List.mem_range.mpr small)
      simp at differs
  | some other =>
      obtain ⟨little, same⟩ := digit?_sound found
      rw [digitChar_inj (by omega) (by omega) same]

/-! ### Reading -/

theorem readAfter_append (value : Nat) (first second : List Char) :
    readAfter base value (first ++ second) =
      (readAfter base value first).bind fun middle => readAfter base middle second := by
  induction first generalizing value with
  | nil => rfl
  | cons char rest ih =>
      rw [List.cons_append, readAfter, readAfter]
      cases digit? base char with
      | none => rfl
      | some digit => exact ih _

theorem readAfter_digit {value digit : Nat} (few : base ≤ 16) (small : digit < base) :
    readAfter base value [Nat.digitChar digit] = some (base * value + digit) := by
  rw [readAfter, digit?_digitChar few small]
  rfl

theorem readAfter_zeros (few : base ≤ 16) (many : 1 < base) (count : Nat) :
    readAfter base 0 (List.replicate count '0') = some 0 := by
  induction count with
  | zero => rfl
  | succ count ih =>
      have zero : digit? base '0' = some 0 := @digit?_digitChar base 0 few (by omega)
      rw [List.replicate_succ, readAfter, zero]
      exact ih

theorem read_toDigits (few : base ≤ 16) (many : 1 < base) (value : Nat) :
    read base (Nat.toDigits base value) = some value := by
  induction value using Nat.strongRecOn with
  | ind value ih =>
      by_cases small : value < base
      · rw [Nat.toDigits_of_lt_base small, read, readAfter_digit few small, Nat.mul_zero,
          Nat.zero_add]
      · have lower : value / base < value := Nat.div_lt_self (by omega) many
        have digit : value % base < base := Nat.mod_lt _ (by omega)
        have upper : readAfter base 0 (Nat.toDigits base (value / base)) =
            some (value / base) := ih _ lower
        rw [Nat.toDigits_of_base_le many (by omega), read, readAfter_append, upper,
          Option.bind_some, readAfter_digit few digit, Nat.div_add_mod]

theorem read_write (few : base ≤ 16) (many : 1 < base) (width value : Nat) :
    read base (write base width value) = some value := by
  rw [read, write, readAfter_append, readAfter_zeros few many, Option.bind_some]
  exact read_toDigits few many value

theorem length_write (many : 1 < base) {width value : Nat} (positive : 0 < width)
    (fits : value < base ^ width) : (write base width value).length = width := by
  have short := (Nat.length_toDigits_le_iff many positive).mpr fits
  rw [write, List.length_append, List.length_replicate]
  omega

theorem readAfter_lt {before value : Nat} {digits : List Char}
    (reads : readAfter base before digits = some value) :
    value < (before + 1) * base ^ digits.length := by
  induction digits generalizing before with
  | nil =>
      cases reads
      simp
  | cons char rest ih =>
      rw [readAfter] at reads
      split at reads
      · rename_i digit found
        have small := (digit?_sound found).1
        calc
          value < (base * before + digit + 1) * base ^ rest.length := ih reads
          _ ≤ (base * before + base) * base ^ rest.length :=
            Nat.mul_le_mul_right _ (by omega)
          _ = (before + 1) * base ^ (rest.length + 1) := by
            rw [← Nat.mul_succ, Nat.pow_succ, Nat.mul_comm base, Nat.mul_assoc,
              Nat.mul_comm base]
      · cases reads

theorem read_lt {value : Nat} {digits : List Char} (reads : read base digits = some value) :
    value < base ^ digits.length := by
  have bound := readAfter_lt reads
  omega

/-- Of one length there is one numeral of each value. -/
theorem readAfter_inj {first second value : Nat} {digits others : List Char}
    (same : digits.length = others.length)
    (reads : readAfter base first digits = some value)
    (readsToo : readAfter base second others = some value) :
    first = second ∧ digits = others := by
  induction digits generalizing first second others with
  | nil =>
      cases others with
      | nil =>
          cases reads
          cases readsToo
          exact ⟨rfl, rfl⟩
      | cons => cases same
  | cons char rest ih =>
      cases others with
      | nil => cases same
      | cons other others =>
          rw [readAfter] at reads readsToo
          split at reads
          · rename_i digit found
            split at readsToo
            · rename_i digitToo foundToo
              obtain ⟨small, here⟩ := digit?_sound found
              obtain ⟨little, there⟩ := digit?_sound foundToo
              obtain ⟨sum, tail⟩ := ih (by simpa using same) reads readsToo
              have quotient : first = second := by
                have left := Nat.mul_add_div (by omega : 0 < base) first digit
                have right := Nat.mul_add_div (by omega : 0 < base) second digitToo
                rw [sum, Nat.div_eq_of_lt small] at left
                rw [Nat.div_eq_of_lt little] at right
                exact left.symm.trans right
              subst quotient
              have digits_eq : digit = digitToo := by omega
              exact ⟨rfl, by rw [← here, ← there, digits_eq, tail]⟩
            · cases readsToo
          · cases reads

theorem eq_write_of_read (few : base ≤ 16) (many : 1 < base) {value : Nat}
    {digits : List Char} (reads : read base digits = some value)
    (positive : 0 < digits.length) : digits = write base digits.length value := by
  have length := length_write many positive (read_lt reads)
  exact (readAfter_inj length.symm reads (read_write few many _ value)).2

end Numeral
