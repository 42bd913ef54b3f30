/-
Printed ids read back, and the texts that name a task by its id.

No code here reads an id. The reader below says what the printed form is: eight
lower-case digits, or sixteen where eight are too few.
-/

import Spawns.Core.JoinError
import Spawns.Foundation.Numeral

namespace Spawns

/-- Reads what `Display for Id` prints. -/
def Id.read (text : String) : Option Id :=
  match text.toList with
  | '0' :: 'x' :: digits =>
      match Numeral.read 16 digits with
      | some value =>
          if digits.length = 8 ∨ (digits.length = 16 ∧ 4294967295 < value) then
            some ⟨UInt64.ofNat value⟩
          else none
      | none => none
  | _ => none

private theorem toList_hexadecimal (width value : Nat) :
    (hexadecimal width value).toList = '0' :: 'x' :: Numeral.write 16 width value :=
  String.toList_ofList

def Id.digits (id : Id) : List Char :=
  if id.value.toNat ≤ 4294967295 then Numeral.write 16 8 id.value.toNat
  else Numeral.write 16 16 id.value.toNat

private theorem Id.toList_display (id : Id) : id.display.toList = '0' :: 'x' :: id.digits := by
  rw [display, digits]
  by_cases small : id.value.toNat ≤ 4294967295
  · rw [if_pos small, if_pos small, toList_hexadecimal]
  · rw [if_neg small, if_neg small, toList_hexadecimal]

private theorem Id.read_digits (id : Id) : Numeral.read 16 id.digits = some id.value.toNat := by
  rw [digits]
  split
  · exact Numeral.read_write (by decide) (by decide) 8 _
  · exact Numeral.read_write (by decide) (by decide) 16 _

private theorem Id.length_digits (id : Id) :
    id.digits.length = 8 ∨ (id.digits.length = 16 ∧ 4294967295 < id.value.toNat) := by
  have bound := id.value.toNat_lt
  rw [digits]
  by_cases small : id.value.toNat ≤ 4294967295
  · rw [if_pos small]
    exact .inl (Numeral.length_write (by decide) (by decide) (by omega))
  · rw [if_neg small]
    exact .inr ⟨Numeral.length_write (by decide) (by decide) (by omega), by omega⟩

private theorem Id.digits_eq {id : Id} {digits : List Char}
    (reads : Numeral.read 16 digits = some id.value.toNat)
    (length : digits.length = 8 ∨ (digits.length = 16 ∧ 4294967295 < id.value.toNat)) :
    digits = id.digits := by
  have bound := Numeral.read_lt reads
  rw [Id.digits]
  rcases length with eight | ⟨sixteen, large⟩
  · rw [eight] at bound
    rw [if_pos (by omega), ← eight]
    exact Numeral.eq_write_of_read (by decide) (by decide) reads (by omega)
  · rw [if_neg (by omega)]
    have written := Numeral.eq_write_of_read (by decide) (by decide) reads (by omega)
    rwa [sixteen] at written

private theorem Id.read_display (id : Id) : Id.read id.display = some id := by
  rw [Id.read, Id.toList_display]
  split
  · rename_i digits text_eq
    cases text_eq
    rw [Id.read_digits]
    dsimp only
    rw [if_pos id.length_digits, UInt64.ofNat_toNat]
  · rename_i other
    exact absurd rfl (other id.digits)

private theorem Id.display_of_read {text : String} {id : Id} (found : Id.read text = some id) :
    text = id.display := by
  rw [Id.read] at found
  split at found
  · rename_i digits text_eq
    split at found
    · rename_i value reads
      split at found
      · rename_i length
        cases found
        have bound := Numeral.read_lt reads
        have fits : value < 18446744073709551616 := by
          rcases length with eight | ⟨sixteen, _⟩
          · rw [eight] at bound
            omega
          · rw [sixteen] at bound
            omega
        have same : (UInt64.ofNat value).toNat = value := Nat.mod_eq_of_lt fits
        have digits_eq : digits = Id.digits ⟨UInt64.ofNat value⟩ :=
          Id.digits_eq (by rw [same]; exact reads) (by rw [same]; exact length)
        apply String.toList_inj.mp
        rw [text_eq, Id.toList_display, digits_eq]
      · cases found
    · cases found
  · cases found

/-- A text reads as an id exactly when it is what the id prints. -/
theorem printed_id_reads_back (text : String) (id : Id) :
    Id.read text = some id ↔ text = id.display := by
  constructor
  · exact Id.display_of_read
  · rintro rfl
    exact id.read_display

example : Id.read "0x0000000100000000" = some ⟨4294967296⟩ := by decide +kernel

example : Id.read "0x0000000000000002" = none := by decide +kernel

private theorem Id.display_inj {id other : Id} (same : id.display = other.display) :
    id = other := by
  have reads := id.read_display
  rw [same, other.read_display, Option.some.injEq] at reads
  exact reads.symm

private theorem Id.debug_inj {id other : Id} (same : id.debug = other.debug) : id = other := by
  apply Id.display_inj
  rw [Id.debug, Id.debug] at same
  simpa [String.append_left_inj, String.append_right_inj] using same

/-! ### The texts of a `JoinError` -/

variable {P : Type}

private theorem JoinError.names_of (text : JoinError P → String)
    (cancelled : ∀ id other, text ⟨id, .cancelled⟩ = text ⟨other, .cancelled⟩ → id = other)
    (panicked : ∀ id other payload caught,
      text ⟨id, .panic payload⟩ = text ⟨other, .panic caught⟩ → id = other)
    (apart : ∀ id other payload, text ⟨id, .cancelled⟩ ≠ text ⟨other, .panic payload⟩)
    {error other : JoinError P} (same : text error = text other) :
    error.id = other.id ∧ error.isPanic = other.isPanic := by
  obtain ⟨id, inner⟩ := error
  obtain ⟨otherId, otherInner⟩ := other
  cases inner with
  | cancelled =>
      cases otherInner with
      | cancelled => exact ⟨cancelled id otherId same, rfl⟩
      | panic caught => exact absurd same (apart id otherId caught)
  | panic payload =>
      cases otherInner with
      | cancelled => exact absurd same.symm (apart otherId id payload)
      | panic caught => exact ⟨panicked id otherId payload caught same, rfl⟩

theorem JoinError.display_names {error other : JoinError P}
    (same : error.display = other.display) :
    error.id = other.id ∧ error.isPanic = other.isPanic := by
  apply names_of display _ _ _ same
  · intro id other same
    apply Id.display_inj
    simpa [display] using same
  · intro id other payload caught same
    apply Id.display_inj
    simpa [display] using same
  · intro id other payload same
    -- The ends differ, whatever the ids are.
    have ends := congrArg (fun text => text.toList.reverse) same
    simp [display] at ends

theorem JoinError.debug_names {error other : JoinError P} (same : error.debug = other.debug) :
    error.id = other.id ∧ error.isPanic = other.isPanic := by
  apply names_of debug _ _ _ same
  · intro id other same
    apply Id.debug_inj
    simpa [debug] using same
  · intro id other payload caught same
    apply Id.debug_inj
    simpa [debug] using same
  · intro id other payload same
    have letters := congrArg String.toList same
    simp [debug] at letters

/-- How the text of a panic ends, from the back. -/
def JoinPanic.ending : JoinPanic → List Char
  | .alreadyJoined _ => ['d', 'e', 'n', 'i']
  | .alreadyDetached _ => ['d', 'e', 'h', 'c']
  | .noTaskResult => ['d', 'e', 'h', 's']
  | .invalidStage _ => ['e', 'g', 'a', 't']

private theorem JoinPanic.ending_message (raised : JoinPanic) :
    raised.message.toList.reverse.take 4 = raised.ending := by
  unfold message
  cases raised <;> simp [ending]

private theorem JoinPanic.ending_eq {raised other : JoinPanic}
    (same : raised.message = other.message) :
    raised.ending = other.ending := by
  rw [← ending_message, ← ending_message, same]

theorem JoinPanic.message_inj {raised other : JoinPanic} (same : raised.message = other.message) :
    raised = other := by
  have ends := ending_eq same
  cases raised with
  | alreadyJoined id =>
      cases other with
      | alreadyJoined other =>
          unfold message at same
          have texts : id.display = other.display := by simpa using same
          rw [Id.display_inj texts]
      | alreadyDetached | noTaskResult | invalidStage => simp [ending] at ends
  | alreadyDetached id =>
      cases other with
      | alreadyDetached other =>
          unfold message at same
          have texts : id.display = other.display := by simpa using same
          rw [Id.display_inj texts]
      | alreadyJoined | noTaskResult | invalidStage => simp [ending] at ends
  | noTaskResult =>
      cases other with
      | noTaskResult => rfl
      | alreadyJoined | alreadyDetached | invalidStage => simp [ending] at ends
  | invalidStage raw =>
      cases other with
      | invalidStage other =>
          unfold message at same
          have raws : raw.repr = other.repr := by simpa using same
          have values := congrArg (fun text => Nat.ofDigitChars 10 text.toList 0) raws
          simp only [Nat.toList_repr, Nat.ofDigitChars_ten_toDigits] at values
          rw [values]
      | alreadyJoined | alreadyDetached | noTaskResult => simp [ending] at ends

end Spawns
